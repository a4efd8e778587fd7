import LessonText.Storage.Environment
import LessonText.Unicode.Word

namespace LessonText.Expansion

inductive Piece
  | literal (c : Char)
  | variable (name : Text) (fallback : Option Text)
  deriving DecidableEq, Repr

def isNameCharacter (c : Char) : Bool :=
  c = '_' || Unicode.isAlphanumeric c

def cut : Text → Text × Option Text
  | [] => ([], none)
  | c :: t =>
    if c = ':' ∧ t.head? = some '-' then ([], some t.tail)
    else
      let (name, fallback) := cut t
      (c :: name, fallback)

def Piece.ofBraces (t : Text) : Piece :=
  match cut t with
  | ([], some _) => .variable t none
  | (name, fallback) => .variable name fallback

inductive Mode
  | plain
  | dollar
  | name (gathered : Text)
  | braces (gathered : Text)
  deriving DecidableEq, Repr

/-- The pieces of a path. A dollar sign that begins no reference stands for itself, and two stand
for one. -/
def piecesFrom : Mode → Text → List Piece
  | .plain, [] => []
  | .dollar, [] => [.literal '$']
  | .name n, [] => [.variable n.reverse none]
  | .braces n, [] => [.ofBraces n.reverse]
  | .plain, c :: t => if c = '$' then piecesFrom .dollar t else .literal c :: piecesFrom .plain t
  | .dollar, c :: t =>
    if c = '$' then .literal '$' :: piecesFrom .plain t
    else if c = '\x7b' ∧ '\x7d' ∈ t then piecesFrom (.braces []) t
    else if isNameCharacter c then piecesFrom (.name [c]) t
    else .literal '$' :: .literal c :: piecesFrom .plain t
  | .name n, c :: t =>
    if isNameCharacter c then piecesFrom (.name (c :: n)) t
    else
      .variable n.reverse none ::
        if c = '$' then piecesFrom .dollar t else .literal c :: piecesFrom .plain t
  | .braces n, c :: t =>
    if c = '\x7d' then .ofBraces n.reverse :: piecesFrom .plain t
    else piecesFrom (.braces (c :: n)) t

def pieces (t : Text) : List Piece :=
  piecesFrom .plain t

def Piece.value? (e : Environment) : Piece → Option Text
  | .literal c => some [c]
  | .variable name fallback => (e.get? name).or fallback

def replaced? (e : Environment) (t : Text) : Option Text :=
  ((pieces t).mapM (Piece.value? e)).map List.flatten

/-- The home directory: that of the variable, else the account's. An empty name is none. -/
def home? (e : Environment) (account : Option Text) : Option Text :=
  ((e.get? "HOME").toList ++ account.toList).find? (!·.isEmpty)

def tilde (e : Environment) (account : Option Text) : Text → Text
  | '~' :: t =>
    if t.isEmpty ∨ t.head? = some '/' then ((home? e account).getD ['~']) ++ t else '~' :: t
  | t => t

/-- A path with all replaced, or as it is where a variable has no value. A tilde that came out of a
variable stays. -/
def path (e : Environment) (account : Option Text) (t : Text) : Text :=
  match replaced? e t with
  | none => t
  | some u => if t.head? = some '~' then tilde e account u else u

end LessonText.Expansion

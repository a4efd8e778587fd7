import LessonText.Toml.Quotation

namespace LessonText.Toml

def isBare (c : Char) : Bool :=
  c.isAlphanum || c = '_' || c = '-'

def simpleKey? (t : Text) : Option (Text × Text) :=
  match t.takeWhile isBare with
  | [] => Quotation.readLine? t
  | k => some (k, t.drop k.length)

structure Key where
  outer : List Text
  name : Text
  deriving DecidableEq, Repr

namespace Key

def readFrom : (n : Nat) → (name : Text) → Text → Option (Key × Text)
  | n, name, t =>
    match skipBlanks t with
    | '.' :: t =>
      match n, simpleKey? (skipBlanks t) with
      | n + 1, some (next, t) =>
        (readFrom n next t).map fun (k, t) => ({ k with outer := name :: k.outer }, t)
      | _, _ => none
    | _ => some (⟨[], name⟩, t)

def read? (t : Text) : Option (Key × Text) :=
  (simpleKey? t).bind fun (name, t) => readFrom t.length name t

end Key

end LessonText.Toml

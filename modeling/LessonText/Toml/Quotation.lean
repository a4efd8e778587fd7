import LessonText.Toml.Number
import LessonText.Toml.Spacing

namespace LessonText.Toml

structure Quotation where
  escapes : Bool
  lines : Bool
  deriving DecidableEq, Repr

namespace Quotation

def quote (q : Quotation) : Char :=
  if q.escapes then '"' else '\x27'

def delimiter (q : Quotation) : Text :=
  List.replicate (if q.lines then 3 else 1) q.quote

def breaks (q : Quotation) (c : Char) (rest : Text) : Bool :=
  q.lines && isLineEnd c rest

def admits (q : Quotation) (c : Char) (rest : Text) : Bool :=
  isShown c || q.breaks c rest

/-- The end of the text after a quote, if the quote ends it, and what follows. Of a longer run of
quotes, up to two more belong to a text that may go over several lines. -/
def close? (q : Quotation) (rest : Text) : Option (Text × Text) :=
  if q.lines then
    (Text.after? [q.quote, q.quote] rest).map fun rest =>
      let more := (rest.takeWhile (· = q.quote)).take 2
      (more, rest.drop more.length)
  else some ([], rest)

def keep (c : Char) (read : Option (Text × Text)) : Option (Text × Text) :=
  read.map fun (t, rest) => (c :: t, rest)

def readPlain (q : Quotation) : Text → Option (Text × Text)
  | [] => none
  | c :: rest =>
    if c = q.quote then
      match q.close? rest with
      | some read => some read
      | none => keep c (q.readPlain rest)
    else if q.admits c rest then keep c (q.readPlain rest)
    else none

inductive Mode
  | content
  | escape
  | lineEnd
  | indent
  /-- In the digits of a code point: how many follow the next one, and the value so far. -/
  | codePoint (more value : Nat)
  deriving DecidableEq, Repr

def escaped? (c : Char) : Option Char :=
  match c with
  | 'b' => some '\x08'
  | 't' => some '\t'
  | 'n' => some '\n'
  | 'f' => some '\x0c'
  | 'r' => some '\r'
  | 'e' => some '\x1b'
  | '"' => some '"'
  | '\\' => some '\\'
  | _ => none

def codePointDigits? (c : Char) : Option Nat :=
  match c with
  | 'x' => some 1
  | 'u' => some 3
  | 'U' => some 7
  | _ => none

def ofCodePoint? (n : Nat) : Option Char :=
  if h : n.isValidChar then some (Char.ofNatAux n h) else none

def readEscaped (q : Quotation) : Mode → Text → Option (Text × Text)
  | _, [] => none
  | .escape, c :: rest =>
    if let some d := escaped? c then keep d (q.readEscaped .content rest)
    else if let some n := codePointDigits? c then q.readEscaped (.codePoint n 0) rest
    else if q.breaks c rest then q.readEscaped .indent rest
    else if q.lines && isSpacing c then q.readEscaped .lineEnd rest
    else none
  | .lineEnd, c :: rest =>
    if isSpacing c then q.readEscaped .lineEnd rest
    else if q.breaks c rest then q.readEscaped .indent rest
    else none
  | .codePoint more value, c :: rest =>
    match Number.digit? 16 c, more with
    | none, _ => none
    | some d, more + 1 => q.readEscaped (.codePoint more (16 * value + d)) rest
    | some d, 0 =>
      (ofCodePoint? (16 * value + d)).bind fun c => keep c (q.readEscaped .content rest)
  | mode, c :: rest =>
    if mode = .indent ∧ (isSpacing c ∨ q.breaks c rest) then q.readEscaped .indent rest
    else if c = '"' then
      match q.close? rest with
      | some read => some read
      | none => keep c (q.readEscaped .content rest)
    else if c = '\\' then q.readEscaped .escape rest
    else if q.admits c rest then keep c (q.readEscaped .content rest)
    else none

def skipLineEnd : Text → Text
  | '\n' :: t => t
  | '\r' :: '\n' :: t => t
  | t => t

def readRest (q : Quotation) (t : Text) : Option (Text × Text) :=
  let t := if q.lines then skipLineEnd t else t
  if q.escapes then q.readEscaped .content t else q.readPlain t

def basic : Quotation := ⟨true, false⟩
def plain : Quotation := ⟨false, false⟩
def basicLines : Quotation := ⟨true, true⟩
def plainLines : Quotation := ⟨false, true⟩

def readAs? (qs : List Quotation) (t : Text) : Option (Text × Text) :=
  (qs.findSome? fun q => (Text.after? q.delimiter t).map (q, ·)).bind fun (q, t) => q.readRest t

def read? (t : Text) : Option (Text × Text) :=
  readAs? [basicLines, plainLines, basic, plain] t

def readLine? (t : Text) : Option (Text × Text) :=
  readAs? [basic, plain] t

def codePoint (c : Char) : Text :=
  let digits := (Nat.toDigits 16 c.toNat).map Char.toUpper
  "\\u" ++ List.replicate (4 - digits.length) '0' ++ digits

def escape? (q : Quotation) (c : Char) : Option Text :=
  match c with
  | '\x08' => some "\\b"
  | '\t' => some "\\t"
  | '\n' => if q.lines then none else some "\\n"
  | '\x0c' => some "\\f"
  | '\r' => some "\\r"
  | '\\' => some "\\\\"
  | c => if isShown c then none else some (codePoint c)

/-- Escapes a text; `run` quotes in a row have just been left as they are. No more than two may be,
and none in a text on one line. -/
def escapeFrom (q : Quotation) (run : Nat) : Text → Text
  | [] => []
  | c :: t =>
    if c = '"' then
      if run < 2 ∧ q.lines then '"' :: q.escapeFrom (run + 1) t
      else "\\\"" ++ q.escapeFrom 0 t
    else (q.escape? c).getD [c] ++ q.escapeFrom 0 t

def write (q : Quotation) (t : Text) : Text :=
  q.delimiter ++ (if q.lines ∧ '\n' ∈ t then ['\n'] else []) ++
    (if q.escapes then q.escapeFrom 0 t else t) ++ q.delimiter

def longestRun (c : Char) (t : Text) : Nat :=
  (t.foldl (fun (run, most) d => if d = c then (run + 1, max most (run + 1)) else (0, most))
    ((0, 0) : Nat × Nat)).2

def suits (q : Quotation) (t : Text) : Bool :=
  t.all (fun c => isShown c || c = '\n' && q.lines) && (!q.escapes || '\\' ∉ t) &&
    longestRun q.quote t ≤ if q.lines then 2 else 0

def choose (t : Text) : Quotation :=
  match [basic, plain, basicLines, plainLines].find? (·.suits t) with
  | some q => q
  | none => if '\n' ∈ t then basicLines else basic

end Quotation

end LessonText.Toml

import LessonText.Text

/-! The part of the shell language in which generators are written: lists and pipelines of simple
commands, quoting, parameters and redirections. -/

namespace LessonText.Shell

inductive Part
  | literal (t : Text)
  | parameter (name : Text) (fallback : Option Text) (quoted : Bool)
  deriving DecidableEq, Repr

abbrev Word := List Part

inductive Target
  | file (name : Word)
  | descriptor (number : Nat)
  | closed
  deriving DecidableEq, Repr

structure Redirection where
  stream : Nat
  target : Target
  deriving DecidableEq, Repr

structure Command where
  assignments : List (Text × Word)
  words : List Word
  redirections : List Redirection
  deriving DecidableEq, Repr

inductive Condition
  | always
  | afterSuccess
  | afterFailure
  deriving DecidableEq, Repr

structure Pipeline where
  condition : Condition
  commands : List Command
  deriving DecidableEq, Repr

abbrev Script := List Pipeline

inductive Operator
  | semicolon
  | both
  | either
  | pipe
  deriving DecidableEq, Repr

inductive Token
  | word (w : Word)
  | operator (o : Operator)
  | redirect (stream : Nat) (toDescriptor : Bool)
  deriving DecidableEq, Repr

inductive Quoting
  | bare
  | single
  | double
  deriving DecidableEq, Repr

def isNameChar (c : Char) : Bool :=
  c.isAlphanum || c == '_'

def parameter? (t : Text) : Option (Text × Option Text × Text) :=
  match t with
  | '\x7b' :: r =>
    let name := r.takeWhile (· != '\x7d')
    match r.dropWhile (· != '\x7d') with
    | _ :: rest =>
      match name.span (· != ':') with
      | (n, ':' :: '-' :: fallback) => some (n, some fallback, rest)
      | _ => some (name, none, rest)
    | [] => none
  | c :: r =>
    if c.isDigit || ['$', '?', '#', '@', '*'].contains c then some ([c], none, r)
    else if isNameChar c then
      some ((c :: r).takeWhile isNameChar, none, (c :: r).dropWhile isNameChar)
    else none
  | [] => none

def extend (w : Option Word) (p : Part) : Option Word :=
  match w, p with
  | some ws, .literal t =>
    match ws.getLast? with
    | some (.literal s) => some (ws.dropLast ++ [.literal (s ++ t)])
    | _ => some (ws ++ [.literal t])
  | some ws, p => some (ws ++ [p])
  | none, p => some [p]

def close (w : Option Word) (ts : List Token) : List Token :=
  match w with
  | some w => .word w :: ts
  | none => ts

/-- Reads tokens; `fuel` bounds the characters looked at. `none` for a quote that is never
closed. -/
def tokensFrom : (fuel : Nat) → Quoting → Option Word → Text → Option (List Token)
  | 0, _, _, _ => none
  | _ + 1, .bare, w, [] => some (close w [])
  | _ + 1, _, _, [] => none
  | n + 1, .single, w, c :: r =>
    if c = '\x27' then tokensFrom n .bare w r
    else tokensFrom n .single (extend w (.literal [c])) r
  | n + 1, .double, w, c :: r =>
    if c = '"' then tokensFrom n .bare w r
    else if c = '\\' then
      match r with
      | '\n' :: r => tokensFrom n .double w r
      | d :: r =>
        if ['$', '\x60', '"', '\\'].contains d then
          tokensFrom n .double (extend w (.literal [d])) r
        else tokensFrom n .double (extend w (.literal ['\\', d])) r
      | [] => none
    else if c = '$' then
      match parameter? r with
      | some (name, fallback, r) =>
        tokensFrom n .double (extend w (.parameter name fallback true)) r
      | none => tokensFrom n .double (extend w (.literal ['$'])) r
    else tokensFrom n .double (extend w (.literal [c])) r
  | n + 1, .bare, w, c :: r =>
    let after (t : Token) (r : Text) : Option (List Token) :=
      (tokensFrom n .bare none r).map fun ts => close w (t :: ts)
    let redirect (plain : Nat) (r : Text) : Option (List Token) :=
      -- a number right before the sign names the stream
      let (stream, w) : Nat × Option Word :=
        match w with
        | some [.literal [d]] => if d.isDigit then (d.toNat - 48, none) else (plain, w)
        | _ => (plain, w)
      let (toDescriptor, r) :=
        match r with
        | '&' :: r => (true, r)
        | '>' :: r => (false, r)
        | _ => (false, r)
      (tokensFrom n .bare none r).map fun ts => close w (.redirect stream toDescriptor :: ts)
    match c with
    | '\x27' => tokensFrom n .single (some (w.getD [])) r
    | '"' => tokensFrom n .double (some (w.getD [])) r
    | '\\' =>
      match r with
      | '\n' :: r => tokensFrom n .bare w r
      | d :: r => tokensFrom n .bare (extend w (.literal [d])) r
      | [] => tokensFrom n .bare (extend w (.literal ['\\'])) []
    | '$' =>
      match parameter? r with
      | some (name, fallback, r) =>
        tokensFrom n .bare (extend w (.parameter name fallback false)) r
      | none => tokensFrom n .bare (extend w (.literal ['$'])) r
    | ' ' | '\t' => (tokensFrom n .bare none r).map (close w)
    | '#' =>
      if w.isNone then tokensFrom n .bare none (r.dropWhile (· != '\n'))
      else tokensFrom n .bare (extend w (.literal ['#'])) r
    | '\n' | ';' => after (.operator .semicolon) r
    | '&' =>
      match r with
      | '&' :: r => after (.operator .both) r
      | r => after (.operator .semicolon) r
    | '|' =>
      match r with
      | '|' :: r => after (.operator .either) r
      | r => after (.operator .pipe) r
    | '>' => redirect 1 r
    | '<' => redirect 0 r
    | c => tokensFrom n .bare (extend w (.literal [c])) r

def tokens? (t : Text) : Option (List Token) :=
  tokensFrom (t.length + 1) .bare none t

namespace Command

def empty : Command := ⟨[], [], []⟩

def isEmpty (c : Command) : Bool :=
  c.assignments.isEmpty && c.words.isEmpty && c.redirections.isEmpty

def assignment? (c : Command) (w : Word) : Option (Text × Word) :=
  match c.words, w with
  | [], .literal t :: rest =>
    match t.span isNameChar with
    | (n :: name, '=' :: value) =>
      if n.isDigit then none else some (n :: name, .literal value :: rest)
    | _ => none
  | _, _ => none

def addWord (c : Command) (w : Word) : Command :=
  match c.assignment? w with
  | some a => { c with assignments := c.assignments ++ [a] }
  | none => { c with words := c.words ++ [w] }

end Command

/-- The pipelines of a token list: `condition` and `before` belong to the pipeline at hand, and
`c` is the command at hand. `none` where something is missing. -/
def pipelinesFrom (condition : Condition) (before : List Command) (c : Command) :
    List Token → Option Script
  | [] =>
    if !c.isEmpty then some [⟨condition, before ++ [c]⟩]
    else if before.isEmpty && condition == .always then some []
    else none
  | .word w :: ts => pipelinesFrom condition before (c.addWord w) ts
  | .redirect stream toDescriptor :: .word w :: ts =>
    let target? : Option Target :=
      if toDescriptor then
        match w with
        | [.literal [d]] =>
          if d.isDigit then some (.descriptor (d.toNat - 48))
          else if d = '-' then some .closed
          else none
        | _ => none
      else some (.file w)
    match target? with
    | some target =>
      pipelinesFrom condition before
        { c with redirections := c.redirections ++ [⟨stream, target⟩] } ts
    | none => none
  | .redirect _ _ :: _ => none
  | .operator .pipe :: ts =>
    if c.isEmpty then none else pipelinesFrom condition (before ++ [c]) .empty ts
  | .operator o :: ts =>
    let next : Condition :=
      match o with
      | .both => .afterSuccess
      | .either => .afterFailure
      | _ => .always
    if c.isEmpty then
      if o == .semicolon && before.isEmpty && condition == .always then
        pipelinesFrom .always [] .empty ts
      else none
    else (pipelinesFrom next [] .empty ts).map (⟨condition, before ++ [c]⟩ :: ·)

def Script.ofText? (t : Text) : Option Script :=
  (tokens? t).bind (pipelinesFrom .always [] .empty)

end LessonText.Shell

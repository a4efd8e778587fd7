import LessonText.Authoring.Program
import LessonText.Shell.Script
import LessonText.Shell.Utility

/-! Running generator programs: the shell on a script, or one of a few programs by itself. They can
read files, and write none. -/

namespace LessonText.Shell

inductive Route
  | output
  | complaint
  | nowhere
  deriving DecidableEq, Repr

structure State where
  files : FileTree
  environment : Environment
  /-- The script's own name, then its arguments. -/
  parameters : List Text
  input : ByteArray
  output : ByteArray := .empty
  complaint : ByteArray := .empty
  out : Route := .output
  err : Route := .complaint
  status : Nat := 0
  stop : Option ExitStatus := none

namespace State

def parameter (s : State) (name : Text) : Text :=
  match name with
  | ['$'] => Utility.ownNumber
  | ['?'] => Nat.toDigits 10 s.status
  | ['#'] => Nat.toDigits 10 (s.parameters.length - 1)
  | ['@'] | ['*'] => List.intercalate [' '] s.parameters.tail
  | [c] =>
    if c.isDigit then s.parameters[c.toNat - 48]?.getD [] else (s.environment.get? name).getD []
  | _ => (s.environment.get? name).getD []

structure Fields where
  closed : List Text
  current : Option Text

def Fields.append (f : Fields) (t : Text) : Fields :=
  { f with current := some (f.current.getD [] ++ t) }

def Fields.split (f : Fields) (c : Char) : Fields :=
  if [' ', '\t', '\n'].contains c then { closed := f.closed ++ f.current.toList, current := none }
  else f.append [c]

def expandPart (s : State) (f : Fields) : Part → Fields
  | .literal t => f.append t
  | .parameter name fallback quoted =>
    let value := s.parameter name
    let value := if value.isEmpty then fallback.getD value else value
    if quoted then f.append value else value.foldl Fields.split f

def expand (s : State) (w : Word) : List Text :=
  if w.isEmpty then [[]]
  else
    let f := w.foldl s.expandPart ⟨[], none⟩
    f.closed ++ f.current.toList

structure Routes where
  input : ByteArray
  shared : Bool
  out : Route
  err : Route

def nullDevice : Text := "/dev/null"

def message (s : State) (t : Text) : ByteArray :=
  Utf8.encode (s.parameters.headD "sh".toList ++ ": 1: ".toList ++ t ++ ['\n'])

def redirect (s : State) (r : Routes) (d : Redirection) : Except ByteArray Routes :=
  let lead (route : Route) : Routes :=
    if d.stream = 2 then { r with err := route } else { r with out := route }
  match d.target with
  | .descriptor n => .ok (lead (if n = 2 then r.err else r.out))
  | .closed =>
    .ok (if d.stream = 0 then { r with input := .empty, shared := false } else lead .nowhere)
  | .file w =>
    let name := (s.expand w).headD []
    if d.stream = 0 then
      if name = nullDevice then .ok { r with input := .empty, shared := false }
      else
        match s.files.readBytes (.ofText name) with
        | .ok b => .ok { r with input := b, shared := false }
        | .error _ =>
          .error (s.message ("cannot open " ++ name ++ ": No such file".toList))
    else if name = nullDevice then .ok (lead .nowhere)
    else .error (s.message ("cannot create " ++ name ++ ": Permission denied".toList))

def emit (s : State) (route : Route) (b : ByteArray) : State :=
  match route with
  | .output => { s with output := s.output ++ b }
  | .complaint => { s with complaint := s.complaint ++ b }
  | .nowhere => s

def assign (s : State) (as : List (Text × Word)) : State :=
  as.foldl
    (fun s a =>
      { s with environment := s.environment.set a.1 (List.intercalate [' '] (s.expand a.2)) })
    s

def utility (s : State) (r : Routes) (name : Text) (arguments : List Text) : State :=
  match Utility.run? s.files s.status name arguments r.input with
  | none => { s.emit r.err (s.message (name ++ ": not found".toList)) with status := 127 }
  | some d =>
    let s := (s.emit r.out d.output).emit r.err d.complaint
    { s with
      status := d.status
      stop := d.stop
      input := if r.shared then d.unread else s.input }

def replace (s : State) (r : Routes) : List Text → State
  | [] => { s with input := r.input, out := r.out, err := r.err, status := 0 }
  | name :: arguments =>
    let s := s.utility r name arguments
    { s with stop := s.stop.or (some (.code s.status)) }

def command (s : State) (c : Command) : State :=
  let s := s.assign c.assignments
  match c.redirections.foldlM s.redirect ⟨s.input, true, s.out, s.err⟩ with
  | .error b => { s.emit .complaint b with status := 2 }
  | .ok r =>
    match c.words.flatMap s.expand with
    | [] => { s with status := 0 }
    | name :: arguments =>
      if name = "exec".toList then s.replace r arguments else s.utility r name arguments

/-- Runs commands side by side, each on what the one before it printed. They run apart from the
script: what stops one of them does not stop the script. -/
def pipeline (s : State) : List Command → State
  | [] => s
  | [c] => s.command c
  | c :: cs =>
    let left := { s with output := .empty, out := .output }.command c
    let right := { s with input := left.output, complaint := left.complaint }.pipeline cs
    { right with stop := none, input := left.input, out := s.out, err := s.err }

def script (s : State) : Script → State
  | [] => s
  | p :: ps =>
    let wanted : Bool :=
      match p.condition with
      | .always => true
      | .afterSuccess => s.status == 0
      | .afterFailure => s.status != 0
    let s := if wanted then s.pipeline p.commands else s
    if s.stop.isSome then s else s.script ps

def outcome (s : State) : Outcome :=
  .ended (if s.input.isEmpty then .whole else .cut) (s.stop.getD (.code s.status)) s.output
    s.complaint

def runText (s : State) (t : Text) : Outcome :=
  match Script.ofText? t with
  | some ps => (s.script ps).outcome
  | none =>
    ({ s with
      complaint := s.message "Syntax error: Unterminated quoted string"
      status := 2 } : State).outcome

end State

def shell (s : State) : List Text → Outcome
  | [] => { s with parameters := ["sh"], input := .empty }.runText (Utf8.decodeLossy s.input)
  | a :: rest =>
    if a = "-c".toList then
      match rest with
      | t :: ps => { s with parameters := if ps.isEmpty then ["sh"] else ps }.runText t
      | [] =>
        ({ s with
          complaint := Utf8.encode "sh: 0: -c requires an argument\n"
          status := 2 } : State).outcome
    else
      match s.files.readBytes (.ofText a) with
      | .ok b => { s with parameters := a :: rest }.runText (Utf8.decodeLossy b)
      | .error _ =>
        ({ s with
          complaint := Utf8.encode ("sh: 0: cannot open " ++ a ++ ": No such file\n".toList)
          status := 2 } : State).outcome

def programName (name : Text) : Text :=
  match Text.after? "/bin/" name, Text.after? "/usr/bin/" name with
  | some n, _ | none, some n => n
  | none, none => name

def run (files : FileTree) (surrounding : Environment) (p : Program) (environment : Environment)
    (prompt : Text) : Outcome :=
  let s : State :=
    { files
      environment := environment ++ surrounding
      parameters := [p.name]
      input := Utf8.encode prompt }
  let name := programName p.name
  let texts := p.name :: p.arguments ++ environment.map Prod.snd
  if texts.any ('\x00' ∈ ·) then .notStarted .zeroInData
  else if name = "sh".toList then shell s p.arguments
  else if name = "cat".toList ∨ name = "true".toList ∨ name = "false".toList then
    match Utility.run? files 0 name p.arguments s.input with
    | some d =>
      .ended (if d.unread.isEmpty then .whole else .cut) (.code d.status) d.output d.complaint
    | none => .notStarted .missing
  else if '/' ∈ p.name then
    -- files of the tree are no programs
    match files.find (.ofText p.name) with
    | .ok _ => .notStarted .denied
    | .error c => .notStarted c
  else .notStarted .missing

end LessonText.Shell

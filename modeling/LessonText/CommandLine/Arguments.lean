import LessonText.Text.Digits

namespace LessonText

inductive Command
  | render (file : Option Text)
  | blocks (file : Option Text)
  | generate (topic course : Text) (raw : Bool) (settings : Option Text)
  | copy (file : Option Text) (block : Nat) (output : Option Text)
  deriving DecidableEq, Repr

inductive Interruption
  | help
  | version
  | misuse
  deriving DecidableEq, Repr

namespace Arguments

structure Usage where
  valued : List (Text × (Text → Bool)) := []
  switches : List Text := []
  file : Bool := false

structure Found where
  values : List (Text × Text) := []
  switches : List Text := []
  file : Option Text := none
  deriving DecidableEq, Repr

def Found.value? (f : Found) (name : Text) : Option Text :=
  f.values.lookup name

def isOption (w : Text) : Bool :=
  w.head? = some '-' && 1 < w.length

def Usage.addFile (u : Usage) (f : Found) (w : Text) : Except Interruption Found :=
  if u.file && f.file.isNone && !w.isEmpty then .ok { f with file := some w }
  else .error .misuse

def Usage.addValue (u : Usage) (f : Found) (name value : Text) : Except Interruption Found :=
  match u.valued.lookup name with
  | some admits =>
    if (f.value? name).isNone && admits value then
      .ok { f with values := f.values ++ [(name, value)] }
    else .error .misuse
  | none => .error .misuse

def Usage.addSwitch (u : Usage) (f : Found) (name : Text) : Except Interruption Found :=
  if name = "help".toList then .error .help
  else if u.switches.contains name && !f.switches.contains name then
    .ok { f with switches := f.switches ++ [name] }
  else .error .misuse

def cut (w : Text) : Text × Option Text :=
  let name := w.takeWhile (· ≠ '=')
  match w.drop name.length with
  | [] => (name, none)
  | _ :: value => (name, some value)

/-- Reads words from left to right; the first thing that is wrong counts. After two dashes every
word is a file (`ended`). -/
def Usage.read (u : Usage) : (ended : Bool) → Found → List Text → Except Interruption Found
  | _, f, [] => .ok f
  | ended, f, w :: ws =>
    if ended || !isOption w then (u.addFile f w).bind fun f => u.read ended f ws
    else
      match Text.after? "--" w with
      | none => .error (if w[1]? = some 'h' then .help else .misuse)
      | some [] => u.read true f ws
      | some long =>
        match cut long with
        | (name, some value) => (u.addValue f name value).bind fun f => u.read false f ws
        | (name, none) =>
          if (u.valued.lookup name).isSome then
            match ws with
            | value :: ws =>
              if isOption value then .error .misuse
              else (u.addValue f name value).bind fun f => u.read false f ws
            | [] => .error .misuse
          else (u.addSwitch f name).bind fun f => u.read false f ws

def number? (t : Text) : Option Nat :=
  (Text.natural? ((Text.after? "+" t).getD t)).filter (· < Nat.pow 2 64)

def isPath (t : Text) : Bool :=
  !t.isEmpty

def fileUsage : Usage := { file := true }

def generateUsage : Usage where
  valued := [("topic".toList, fun _ => true), ("course".toList, fun _ => true),
    ("config".toList, isPath)]
  switches := ["raw".toList]

def copyUsage : Usage where
  valued := [("block".toList, fun t => (number? t).isSome), ("output".toList, isPath)]
  file := true

def generate (f : Found) : Except Interruption Command :=
  match f.value? "topic", f.value? "course" with
  | some topic, some course =>
    .ok (.generate topic course (f.switches.contains "raw".toList) (f.value? "config"))
  | _, _ => .error .misuse

def copy (f : Found) : Command :=
  .copy f.file (((f.value? "block").bind number?).getD 1) (f.value? "output")

def commandNames : List Text :=
  ["render", "blocks", "generate", "copy", "help"].map String.toList

def help : List Text → Interruption
  | [] => .help
  | [w] => if commandNames.contains w then .help else .misuse
  | _ => .misuse

def interruption (w : Text) : Interruption :=
  if w = "--help".toList then .help
  else if w = "--version".toList then .version
  else
    match w with
    | '-' :: 'h' :: _ => .help
    | '-' :: 'V' :: _ => .version
    | _ => .misuse

def read : List Text → Except Interruption Command
  | [] => .error .misuse
  | w :: ws =>
    if w = "render".toList then (fileUsage.read false {} ws).map (.render ·.file)
    else if w = "blocks".toList then (fileUsage.read false {} ws).map (.blocks ·.file)
    else if w = "generate".toList then (generateUsage.read false {} ws).bind generate
    else if w = "copy".toList then (copyUsage.read false {} ws).map copy
    else if w = "help".toList then .error (help ws)
    else .error (interruption w)

end Arguments

end LessonText

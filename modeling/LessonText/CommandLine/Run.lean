import LessonText.CommandLine.Arguments
import LessonText.Copying.Confirmation
import LessonText.Display.Page
import LessonText.Markup.Json
import LessonText.Settings.Stored
import LessonText.Shell.Run

namespace LessonText

structure Surroundings where
  files : FileTree
  environment : Environment
  /-- The home directory of the user's account. -/
  account : Option Text := none
  input : ByteArray
  session : Text

structure Report where
  status : Nat := 0
  output : ByteArray := .empty
  complaint : Text := []
  files : FileTree

inductive Trouble
  | fileUnreadable (path : Text) (cause : Cause)
  | inputUnreadable (cause : Cause)
  | noSettings (path : Text)
  | settings (e : SettingsError)
  | refused (f : Failure)
  | noBlock (number count : Nat)
  | notCopied
  deriving DecidableEq, Repr

/-- The complaint with its causes. A complaint that names its cause already names it twice. -/
def Trouble.message : Trouble → Text
  | .fileUnreadable path cause => "failed to read " ++ path ++ ": ".toList ++ cause.message
  | .inputUnreadable cause => "failed to read stdin: " ++ cause.message
  | .noSettings path => "config file not found: " ++ path
  | .settings e => e.message ++ ((e.cause?.map fun c => ": ".toList ++ c.message).getD [])
  | .refused f => f.message
  | .noBlock number count =>
    "code block " ++ Nat.toDigits 10 number ++ " not found (lesson has ".toList ++
      Nat.toDigits 10 count ++ " code blocks)".toList
  | .notCopied => "copy failed"

namespace Command

def name : Text := "lesson"

def version : Text := "0.1.0"

def usage : Text :=
  "Usage: lesson <COMMAND>\n\nCommands:\n" ++
    "  render    [FILE]\n".toList ++
    "  blocks    [FILE]\n".toList ++
    "  generate  --topic <TOPIC> --course <COURSE> [--raw] [--config <CONFIG>]\n".toList ++
    "  copy      [FILE] [--block <BLOCK>] [--output <OUTPUT>]\n".toList ++
    "  help      [COMMAND]\n".toList

def source (w : Surroundings) : Option Text → Except Trouble Text
  | some path => (w.files.readText (.ofText path)).mapError (.fileUnreadable path)
  | none =>
    match Utf8.decode? w.input with
    | some t => .ok t
    | none => .error (.inputUnreadable .notUtf8)

def page (t : Text) : Text :=
  (View.ofText .javascript t).render

def settings (w : Surroundings) : Option Text → Except Trouble Settings
  | some path => do
    match ← (Settings.load w.files w.environment path w.account).mapError .settings with
    | some s => return s
    | none => throw (.noSettings path)
  | none => do
    let path := Settings.defaultPath w.environment w.account
    return ((← (Settings.load w.files w.environment path w.account).mapError .settings).getD {})

def lesson (run : Program → Environment → Text → Outcome) (w : Surroundings) (topic course : Text)
    (path : Option Text) : Except Trouble Content := do
  let s ← settings w path
  let credential ← (s.credential w.files w.environment Credential.variable).mapError .settings
  let request ← (Request.ofTexts topic course).mapError .refused
  let author : Author :=
    { credential
      backend := (Program.ofCommand? s.command).map (·.backend run)
      settings := s.toModelSettings }
  return (author.write 0 w.session request).1

def note : Content → Text
  | .written _ => []
  | .builtIn _ reason => "Note: showing the built-in lesson (" ++ reason.message ++ ")\n".toList

def copyTo {σ : Type} (sink : Sink σ) (held : σ) (t : Text) : σ × Bool :=
  let s := ({ sink } : Copier σ).step { held } (.copy t)
  (s.held, s.confirmation.shown)

def deliver (w : Surroundings) (t : Text) : Option Text → Except Trouble Report
  | some path =>
    match copyTo (Sink.file path) w.files t with
    | (files, true) => .ok { complaint := "Copied!\n", files }
    | (_, false) => .error .notCopied
  | none =>
    match copyTo Stream.sink {} t with
    | (s, true) => .ok { output := s.held, complaint := "Copied!\n", files := w.files }
    | (_, false) => .error .notCopied

def attempt (run : Program → Environment → Text → Outcome) (w : Surroundings) :
    Command → Except Trouble Report
  | .render file => do
    return { output := Utf8.encode (page (← source w file)), files := w.files }
  | .blocks file => do
    return {
      output := Utf8.encode ((Lesson.ofText (← source w file)).json ++ lineFeed)
      files := w.files }
  | .generate topic course raw path => do
    let content ← lesson run w topic course path
    return {
      output := Utf8.encode (if raw then content.text ++ lineFeed else page content.text)
      complaint := note content
      files := w.files }
  | .copy file number path => do
    let l := Lesson.ofText (← source w file)
    match l.snippet? number with
    | some t => deliver w t path
    | none => throw (.noBlock number l.codeBlocks.length)

/-- The paths that a command looks at, as far as can be told from what is known of the files. -/
def paths (w : Surroundings) : Command → List Text
  | .render file | .blocks file => file.toList
  | .copy file _ output => file.toList ++ output.toList
  | .generate _ _ _ path =>
    path.getD (Settings.defaultPath w.environment w.account) ::
      match settings w path with
      | .ok s => s.keyFile.toList ++ s.command
      | .error _ => []

def readsInput : Command → Bool
  | .render none | .blocks none | .copy none _ _ => true
  | _ => false

def target? : Command → Option Text
  | .copy _ _ path => path
  | _ => none

def failed (files : FileTree) (e : Trouble) : Report :=
  { status := 1, complaint := "Error: " ++ e.message ++ lineFeed, files }

def run (w : Surroundings) (c : Command) : Report :=
  match attempt (Shell.run w.files w.environment) w c with
  | .ok r => r
  | .error e => failed w.files e

end Command

def Surroundings.run (w : Surroundings) (words : List Text) : Report :=
  match Arguments.read words with
  | .ok c => c.run w
  | .error .version =>
    { output := Utf8.encode (Command.name ++ " ".toList ++ Command.version ++ lineFeed)
      files := w.files }
  | .error .help => { output := Utf8.encode Command.usage, files := w.files }
  | .error .misuse => { status := 2, complaint := Command.usage, files := w.files }

end LessonText

import LessonText.Settings.Written
import LessonText.Storage.Expansion
import LessonText.Storage.FileTree

namespace LessonText

inductive SettingsError
  | unreadable (path : Text) (cause : Cause)
  | malformed (path : Text)
  | keyFileUnreadable (path : Text) (cause : Cause)
  deriving DecidableEq, Repr

namespace SettingsError

def message : SettingsError → Text
  | .unreadable path cause =>
    "Failed to read config file at " ++ path ++ ": ".toList ++ cause.message
  | .malformed path => "Failed to parse config file at " ++ path
  | .keyFileUnreadable path cause =>
    "Failed to read API key file at " ++ path ++ ": ".toList ++ cause.message

def cause? : SettingsError → Option Cause
  | .unreadable _ cause | .keyFileUnreadable _ cause => some cause
  | .malformed _ => none

end SettingsError

namespace Settings

def defaultPath (e : Environment) (account : Option Text := none) : Text :=
  Expansion.tilde e account "~/.config/lesson-render" ++ "/config.toml".toList

def expand (e : Environment) (account : Option Text) (s : Settings) : Settings :=
  { s with keyFile := s.keyFile.map (Expansion.path e account) }

def load (files : FileTree) (e : Environment) (path : Text) (account : Option Text := none) :
    Except SettingsError (Option Settings) :=
  if files.has (.ofText path) then
    match files.readText (.ofText path) with
    | .error c => .error (.unreadable path c)
    | .ok t =>
      match ofToml? t with
      | none => .error (.malformed path)
      | some s => .ok (some (s.expand e account))
  else .ok none

def save (s : Settings) (files : FileTree) (path : Text) : Except Cause FileTree := do
  let p := Path.ofText path
  let files ← match p.parent? with
    | none => .ok files
    | some d => files.makeDirectories d
  files.write p s.toToml

/-- The credential: from a variable, else the one that is set, else from the key file. What is
blank does not count, and the key file is opened only if it is needed. -/
def credential (s : Settings) (files : FileTree) (e : Environment) (variableName : Text) :
    Except SettingsError (Option Credential) :=
  match ((e.get? variableName).bind Phrase.ofText?).or (s.key.bind Phrase.ofText?) with
  | some k => .ok (some k)
  | none =>
    match s.keyFile with
    | none => .ok none
    | some path =>
      match files.readText (.ofText path) with
      | .error c => .error (.keyFileUnreadable path c)
      | .ok t => .ok (Phrase.ofText? t)

end Settings

end LessonText

import LessonText.Authoring.BuiltIn
import LessonText.Authoring.ModelSettings
import LessonText.Authoring.Prompt

namespace LessonText

abbrev Credential := Phrase

def Credential.masked (_ : Credential) : Text :=
  "ApiKey(***)"

structure Call where
  credential : Credential
  prompt : Text
  settings : ModelSettings
  deriving DecidableEq

abbrev Backend := Nat → Call → Except Failure Text

inductive Reason
  | noCredential
  | failed (f : Failure)
  deriving DecidableEq, Repr

def Reason.message : Reason → Text
  | .noCredential => "no generation credential configured"
  | .failed f => f.message

inductive Content
  | written (text : Text)
  | builtIn (text : Text) (reason : Reason)
  deriving DecidableEq, Repr

def Content.text : Content → Text
  | .written t | .builtIn t _ => t

structure Author where
  credential : Option Credential
  backend : Option Backend
  settings : ModelSettings

namespace Author

def write (a : Author) (number : Nat) (session : Text) (r : Request) : Content × Option Call :=
  match a.credential, a.backend with
  | none, _ => (.builtIn (BuiltIn.lesson r) .noCredential, none)
  | some _, none => (.builtIn (BuiltIn.lesson r) (.failed .noBackend), none)
  | some credential, some backend =>
    let call : Call := { credential, prompt := Prompt.text r session, settings := a.settings }
    match backend number call with
    | .ok t => (.written t, some call)
    | .error f => (.builtIn (BuiltIn.lesson r) (.failed f), some call)

structure Run where
  results : List (Except Failure Content)
  calls : List Call

/-- Answers topics with their courses in order; `number` calls have been made before. Each call
has a session of its own. -/
def runFrom (a : Author) (session : Nat → Text) (number : Nat) : List (Text × Text) → Run
  | [] => ⟨[], []⟩
  | (topic, course) :: rest =>
    match Request.ofTexts topic course with
    | .error f =>
      let run := a.runFrom session number rest
      { run with results := .error f :: run.results }
    | .ok r =>
      match a.write number (session number) r with
      | (content, none) =>
        let run := a.runFrom session number rest
        { run with results := .ok content :: run.results }
      | (content, some call) =>
        let run := a.runFrom session (number + 1) rest
        { results := .ok content :: run.results, calls := call :: run.calls }

def run (a : Author) (session : Nat → Text) (requests : List (Text × Text)) : Run :=
  a.runFrom session 0 requests

end Author

end LessonText

import LessonText.Authoring.Author
import LessonText.Storage.Environment
import LessonText.Text.Utf8

/-! Programs as backends. A program is given the prompt as its input, all else in environment
variables, and prints the lesson. -/

namespace LessonText

structure Program where
  name : Text
  arguments : List Text
  deriving DecidableEq, Repr

inductive Delivery
  | whole
  | cut
  | failed (cause : Cause)
  deriving DecidableEq, Repr

inductive Outcome
  | notStarted (cause : Cause)
  | ended (prompt : Delivery) (status : ExitStatus) (output complaint : ByteArray)

def Credential.variable : Text := "LESSON_GENERATOR_API_KEY"

namespace Call

def environment (c : Call) : Environment :=
  [(Credential.variable, c.credential.text),
    ("LESSON_MODEL", c.settings.model),
    ("LESSON_TEMPERATURE", c.settings.temperature.text),
    ("LESSON_MAX_TOKENS", Nat.toDigits 10 c.settings.maxTokens.toNat)]

end Call

namespace Program

def ofCommand? : List Text → Option Program
  | [] => none
  | name :: arguments => some { name, arguments }

/-- The lesson that a program printed. A program need not read its prompt to the end. How it ended
is looked at before what it printed, and whether that is text before whether it is blank. -/
def content (p : Program) : Outcome → Except Failure Text
  | .notStarted cause => .error (.notStarted p.name cause)
  | .ended (.failed cause) _ _ _ => .error (.promptNotSent p.name cause)
  | .ended _ status output complaint =>
    if !status.succeeded then .error (.exited status (Utf8.decodeLossy complaint).trim)
    else
      match Utf8.decode? output with
      | none => .error .notUtf8
      | some t => if t.isBlank then .error .noContent else .ok t

def backend (p : Program) (run : Program → Environment → Text → Outcome) : Backend :=
  fun _ call => p.content (run p call.environment call.prompt)

end Program

end LessonText

import LessonText.Authoring.Failure
import LessonText.Text.Phrase

namespace LessonText

structure Request where
  topic : Phrase
  course : Phrase
  deriving DecidableEq

namespace Request

def ofTexts (topic course : Text) : Except Failure Request :=
  match Phrase.ofText? topic, Phrase.ofText? course with
  | none, _ => .error (.invalidRequest "topic is empty")
  | some _, none => .error (.invalidRequest "course title is empty")
  | some topic, some course => .ok { topic, course }

end Request

end LessonText

import LessonText.Authoring.Author

namespace LessonText

structure Settings extends ModelSettings where
  key : Option Text := none
  keyFile : Option Text := none
  command : List Text := []
  deriving DecidableEq, Repr

end LessonText

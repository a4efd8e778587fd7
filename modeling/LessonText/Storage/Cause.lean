import LessonText.Text

namespace LessonText

inductive Cause
  | missing
  | denied
  | occupied
  | notDirectory
  | isDirectory
  | notUtf8
  | zeroInPath
  | zeroInData
  | other (message : Text)
  deriving DecidableEq, Repr

def Cause.message : Cause → Text
  | .missing => "No such file or directory (os error 2)"
  | .denied => "Permission denied (os error 13)"
  | .occupied => "File exists (os error 17)"
  | .notDirectory => "Not a directory (os error 20)"
  | .isDirectory => "Is a directory (os error 21)"
  | .notUtf8 => "stream did not contain valid UTF-8"
  | .zeroInPath => "file name contained an unexpected NUL byte"
  | .zeroInData => "nul byte found in provided data"
  | .other m => m

end LessonText

import LessonText.Storage.Cause

namespace LessonText

inductive Refusal
  | stream (cause : Cause)
  | file (path : Text) (cause : Cause)
  | rejected (reason : Text)
  deriving DecidableEq, Repr

def Refusal.message : Refusal → Text
  | .stream cause => "Failed to write to clipboard: " ++ cause.message
  | .file path cause =>
    "Failed to write clipboard file " ++ path ++ ": ".toList ++ cause.message
  | .rejected reason => "Clipboard rejected the write: " ++ reason

end LessonText

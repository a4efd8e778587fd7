import LessonText.Text

namespace LessonText.Account

/-- The user that a process runs for, by the status that it has under `/proc`. -/
def user? (status : Text) : Option Text :=
  (Text.lines status).findSome? fun l => (Text.after? "Uid:" l).bind Text.firstWord?

def home? (passwords user : Text) : Option Text :=
  (Text.lines passwords).findSome? fun l =>
    match l.splitOn ':' with
    | [_, _, number, _, _, home, _] => if number = user then some home else none
    | _ => none

end LessonText.Account

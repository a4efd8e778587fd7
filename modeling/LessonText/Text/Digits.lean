import LessonText.Text

namespace LessonText.Text

def natural? (t : Text) : Option Nat :=
  if t.isEmpty || !t.all Char.isDigit then none
  else some (t.foldl (fun n d => 10 * n + (d.toNat - '0'.toNat)) 0)

end LessonText.Text

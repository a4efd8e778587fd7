import LessonText.Text

namespace LessonText

/-- Names with their values. Of several entries for a name the first counts. -/
abbrev Environment := List (Text × Text)

namespace Environment

def get? (e : Environment) (name : Text) : Option Text :=
  e.lookup name

def set (e : Environment) (name value : Text) : Environment :=
  (name, value) :: e

def ofText (t : Text) : Environment :=
  ((t.splitOn '\x00').filter ('=' ∈ ·)).map fun entry =>
    let name := entry.takeWhile (· ≠ '=')
    (name, entry.drop (name.length + 1))

end Environment

end LessonText

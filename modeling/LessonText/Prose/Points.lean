import LessonText.Prose.Span

namespace LessonText.Points

def dash : Char := '-'

def item? (line : Text) : Option (List Span) :=
  (Text.after? [dash] line.trim).map fun rest => Span.ofText rest.trim

def items (t : Text) : List (List Span) :=
  t.lines.filterMap item?

end LessonText.Points

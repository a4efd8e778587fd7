import LessonText.Code.Listing
import LessonText.Markup.Lesson
import LessonText.Prose.Paragraph
import LessonText.Prose.Points

namespace LessonText

inductive Panel
  | prose (role : Role) (spans : List Span)
  | points (items : List (List Span))
  | code (language raw : Text) (listing : Listing)
  deriving DecidableEq, Repr

namespace Panel

def ofBlock (lx : Lexicon) : Block → Panel
  | .prose role t => .prose role (Span.ofText t)
  | .points t => .points (Points.items t)
  | .code language t => .code language t (.ofText lx t)

def snippet? : Panel → Option Text
  | .code _ raw _ => some raw
  | _ => none

end Panel

inductive View
  | structured (panels : List Panel)
  | unstructured (paragraphs : List (List Span))
  deriving DecidableEq, Repr

namespace View

def ofText (lx : Lexicon) (t : Text) : View :=
  match Lesson.ofText t with
  | [] => .unstructured (Paragraph.split t)
  | b :: bs => .structured ((b :: bs).map (Panel.ofBlock lx))

def snippets : View → List Text
  | .structured panels => panels.filterMap Panel.snippet?
  | .unstructured _ => []

end View

end LessonText

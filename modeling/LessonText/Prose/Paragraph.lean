import LessonText.Prose.Span

namespace LessonText.Paragraph

/-- The pieces between pairs of line feeds; `held` is the piece so far, latest character
first. -/
def piecesFrom (held : Text) : Text → List Text
  | [] => [held.reverse]
  | '\n' :: '\n' :: t => held.reverse :: piecesFrom [] t
  | c :: t => piecesFrom (c :: held) t

def pieces (t : Text) : List Text :=
  piecesFrom [] t

def split (t : Text) : List (List Span) :=
  ((pieces t).map Text.trim).filter (!·.isEmpty) |>.map Span.ofText

end LessonText.Paragraph

import LessonText.Markup.Line

namespace LessonText

inductive Passage
  | lines (kind : Kind) (remark : Text) (lines : List Text)
  | fenced (remark : Text) (language : Option Text) (code after : List Text)
  deriving DecidableEq, Repr

def Passage.written : Passage → List Text
  | .lines kind remark ls => (kind.marker ++ remark) :: ls
  | .fenced remark language code after =>
    (Kind.code.marker ++ remark) :: (Fence.mark ++ language.getD []) ::
      (code ++ Fence.mark :: after)

abbrev Draft := List Passage

def Draft.text (d : Draft) : Text :=
  Text.unlines (d.flatMap Passage.written)

end LessonText

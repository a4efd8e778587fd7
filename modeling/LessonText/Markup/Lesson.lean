import LessonText.Markup.Builder

namespace LessonText

abbrev Lesson := List Block

namespace Lesson

def ofText (t : Text) : Lesson :=
  (Builder.empty.pushAll (t.lines.map Line.ofText)).finish

def codeBlocks (l : Lesson) : List Block :=
  l.filter Block.isCode

def snippets (l : Lesson) : List Text :=
  l.codeBlocks.map Block.text

def snippet? (l : Lesson) (number : Nat) : Option Text :=
  if number = 0 then none else l.snippets[number - 1]?

end Lesson

end LessonText

import LessonText.Text

namespace LessonText

inductive Colour
  | darkGrey
  | green
  | yellow
  | blue
  | magenta
  | cyan
  | standard
  deriving DecidableEq, Repr

inductive Face
  | bold
  | italic
  deriving DecidableEq, Repr

structure Style where
  colour : Option Colour := none
  face : Option Face := none
  deriving DecidableEq, Repr

def selectGraphic (parameters : Text) : Text :=
  '\x1b' :: '[' :: (parameters ++ ['m'])

def Colour.parameters : Colour → Text
  | .darkGrey => "38;5;8"
  | .green => "38;5;10"
  | .yellow => "38;5;11"
  | .blue => "38;5;12"
  | .magenta => "38;5;13"
  | .cyan => "38;5;14"
  | .standard => "39"

def Face.parameters : Face → Text
  | .bold => "1"
  | .italic => "3"

namespace Style

def opening (s : Style) : Text :=
  ((s.colour.map Colour.parameters).toList ++ (s.face.map Face.parameters).toList).flatMap
    selectGraphic

/-- Ends a style. A face can be ended only together with everything else; a colour alone gives
way to the standard one. -/
def closing (s : Style) : Text :=
  if s.face.isSome then selectGraphic "0"
  else if s.colour.isSome then selectGraphic Colour.standard.parameters
  else []

def paint (s : Style) (t : Text) : Text :=
  s.opening ++ t ++ s.closing

def coloured (c : Colour) : Style := { colour := some c }

def bold : Style := { face := some .bold }

end Style

end LessonText

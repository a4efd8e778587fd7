import LessonText.Numeral.Decimal

namespace LessonText.Numeral

structure Double where
  negative : Bool
  magnitude? : Option Magnitude
  deriving DecidableEq, Repr

def Double.ofDecimal (negative : Bool) (d : Decimal) : Double :=
  ⟨negative, some d.toDouble⟩

end LessonText.Numeral

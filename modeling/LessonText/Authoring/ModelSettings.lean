import LessonText.Numeral.Single
import LessonText.Text

namespace LessonText

structure ModelSettings where
  model : Text := "llama-3.1-8b-instant"
  temperature : Numeral.Single := .ofDecimal false ⟨9, -1⟩
  maxTokens : UInt32 := 1500
  deriving DecidableEq, Repr

end LessonText

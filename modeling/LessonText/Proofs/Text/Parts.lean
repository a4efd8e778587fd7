import Mathlib.Data.List.Infix
import LessonText.Text

namespace LessonText.Text

variable {t part : Text} {c : Char}

theorem startsWith_iff : startsWith t part ↔ part <+: t := by
  rw [startsWith, Option.isSome_iff_exists]
  apply exists_congr
  intro r
  rw [after?_eq_some_iff, eq_comm]

theorem contains_cons_eq_false_iff :
    contains (c :: t) part = false ↔
      startsWith (c :: t) part = false ∧ contains t part = false := by
  rw [contains, Bool.or_eq_false_iff]

theorem contains_iff : contains t part ↔ part <:+: t := by
  induction t with
  | nil => rw [contains, List.isEmpty_iff, List.infix_nil]
  | cons c t ih => rw [contains, Bool.or_eq_true, startsWith_iff, ih, List.infix_cons_iff]

theorem contains_eq_false_iff : contains t part = false ↔ ¬part <:+: t := by
  rw [← contains_iff, Bool.not_eq_true]

end LessonText.Text

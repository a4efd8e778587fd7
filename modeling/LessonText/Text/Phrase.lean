import LessonText.Text

namespace LessonText

namespace Text

theorem trimEnd_trimEnd (t : Text) : trimEnd (trimEnd t) = trimEnd t := by
  simp [trimEnd, trimStart_trimStart]

theorem trimStart_trimEnd {t : Text} (h : trimStart t = t) :
    trimStart (trimEnd t) = trimEnd t := by
  cases t with
  | nil => rfl
  | cons c t =>
    have hc : Unicode.isWhiteSpace c = false := by
      by_cases hc : Unicode.isWhiteSpace c
      · have shorter := (List.dropWhile_sublist Unicode.isWhiteSpace (l := t)).length_le
        rw [trimStart, List.dropWhile_cons_of_pos hc] at h
        rw [h] at shorter
        exact absurd shorter (Nat.not_succ_le_self _)
      · simpa using hc
    have hd (s : Text) : trimStart (s ++ [c]) = trimStart s ++ [c] := by
      induction s with
      | nil => simp [trimStart, hc]
      | cons a s ih => by_cases ha : Unicode.isWhiteSpace a <;> simp_all [trimStart]
    simp only [trimEnd, List.reverse_cons, hd, List.reverse_append, List.reverse_nil,
      List.nil_append, List.singleton_append]
    simp [trimStart, hc]

theorem trim_trim (t : Text) : trim (trim t) = trim t := by
  have h : trimStart (trim t) = trim t := trimStart_trimEnd (trimStart_trimStart t)
  rw [trim, h]
  exact trimEnd_trimEnd _

end Text

structure Phrase where
  text : Text
  text_ne_nil : text ≠ []
  trim_text : text.trim = text
  deriving DecidableEq

namespace Phrase

def ofText? (t : Text) : Option Phrase :=
  if h : t.trim = [] then none else some ⟨t.trim, h, Text.trim_trim t⟩

theorem ofText?_text (p : Phrase) : ofText? p.text = some p := by
  cases p with
  | mk t h₁ h₂ => simp [ofText?, h₁, h₂]

theorem ofText?_eq_none_iff {t : Text} : ofText? t = none ↔ t.isBlank := by
  simp [ofText?, Text.trim_eq_nil_iff]

end Phrase

end LessonText

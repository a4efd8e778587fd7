import Mathlib.Data.List.Basic
import LessonText.Text.Digits

namespace LessonText.Text

variable {c d : Char} {n : Nat} {s t : Text}

theorem ne_of_kind {p : Char → Bool} (hc : p c) (hd : p d = false) : c ≠ d := by
  rintro rfl
  rw [hc] at hd
  contradiction

structure IsDigits (t : Text) : Prop where
  ne_nil : t ≠ []
  isDigit : ∀ c ∈ t, c.isDigit

structure IsWhole (t : Text) : Prop extends IsDigits t where
  no_zero_leads : t.head? ≠ some '0' ∨ t.length = 1

theorem IsDigits.not_mem (h : IsDigits t) (hd : d.isDigit = false) : d ∉ t :=
  fun hmem => ne_of_kind (h.isDigit d hmem) hd rfl

theorem IsDigits.exists_eq_cons (h : IsDigits t) : ∃ c s, t = c :: s ∧ c.isDigit := by
  obtain ⟨c, s, rfl⟩ := List.exists_cons_of_ne_nil h.ne_nil
  exact ⟨c, s, rfl, h.isDigit c List.mem_cons_self⟩

theorem IsDigits.append (hs : IsDigits s) (ht : ∀ c ∈ t, c.isDigit) : IsDigits (s ++ t) where
  ne_nil := List.append_ne_nil_of_left_ne_nil hs.ne_nil t
  isDigit c hc := (List.mem_append.1 hc).elim (hs.isDigit c) (ht c)

theorem isDigits_toDigits (n : Nat) : IsDigits (Nat.toDigits 10 n) where
  ne_nil := Nat.toDigits_ne_nil
  isDigit _ hc := Nat.isDigit_of_mem_toDigits (by decide) (by decide) hc

theorem head?_toDigits_ne_zero (h : 0 < n) : (Nat.toDigits 10 n).head? ≠ some '0' := by
  induction n using Nat.strongRecOn with
  | ind n ih =>
    rw [Nat.toDigits_eq_if (by decide)]
    by_cases hn : n < 10
    · have hdigit : n.digitChar ≠ '0' := by
        rw [Ne, Nat.digitChar_eq_zero]
        omega
      simpa [hn] using hdigit
    · rw [if_neg hn, List.head?_append_of_ne_nil _ Nat.toDigits_ne_nil]
      exact ih (n / 10) (by omega) (by omega)

theorem isWhole_toDigits (n : Nat) : IsWhole (Nat.toDigits 10 n) where
  toIsDigits := isDigits_toDigits n
  no_zero_leads := by
    obtain rfl | h := Nat.eq_zero_or_pos n
    · exact .inr rfl
    · exact .inl (head?_toDigits_ne_zero h)

theorem natural?_toDigits (n : Nat) : natural? (Nat.toDigits 10 n) = some n := by
  have hdigits := isDigits_toDigits n
  have hvalue := Nat.ofDigitChars_ten_toDigits (n := n)
  rw [Nat.ofDigitChars_eq_foldl] at hvalue
  rw [natural?, List.isEmpty_eq_false_iff.2 hdigits.ne_nil, List.all_eq_true.2 hdigits.isDigit,
    if_neg (by decide), hvalue]

end LessonText.Text

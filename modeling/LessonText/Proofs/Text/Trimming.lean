import Mathlib.Data.List.Induction
import Mathlib.Data.List.TakeWhile
import LessonText.Text.Phrase
import LessonText.Proofs.Text.Runs

namespace LessonText.Text

open Unicode (isWhiteSpace)

variable {s t w : Text} {c : Char}

theorem trimStart_of_head? (h : t.head?.any isWhiteSpace = false) : trimStart t = t :=
  dropWhile_append_of_head? [] h

theorem trimEnd_append (h : s.getLast?.any isWhiteSpace = false) (t : Text) :
    trimEnd (s ++ t) = s ++ trimEnd t := by
  rw [trimEnd, trimStart, List.reverse_append, dropWhile_append_of_head?, List.reverse_append,
    List.reverse_reverse]
  · rfl
  · rwa [List.head?_reverse]

theorem trimEnd_of_getLast? (h : t.getLast?.any isWhiteSpace = false) : trimEnd t = t := by
  have ht := trimEnd_append h []
  rwa [List.append_nil, show trimEnd [] = [] from rfl, List.append_nil] at ht

theorem trim_append (hs : s ≠ []) (hh : s.head?.any isWhiteSpace = false)
    (hl : s.getLast?.any isWhiteSpace = false) (t : Text) : trim (s ++ t) = s ++ trimEnd t := by
  rw [trim, trimStart_of_head?, trimEnd_append hl]
  cases s with
  | nil => contradiction
  | cons c s => exact hh

theorem trimEnd_snoc (hc : isWhiteSpace c) (s : Text) : trimEnd (s ++ [c]) = trimEnd s := by
  simp [trimEnd, trimStart, hc]

theorem trimStart_trimEnd_comm (t : Text) : trimStart (trimEnd t) = trimEnd (trimStart t) := by
  induction t using List.reverseRecOn with
  | nil => rfl
  | append_singleton s c ih =>
    cases hc : isWhiteSpace c with
    | false =>
      have he (u : Text) : trimEnd (u ++ [c]) = u ++ [c] :=
        trimEnd_of_getLast? (by simpa using hc)
      have hs : trimStart (s ++ [c]) = trimStart s ++ [c] :=
        dropWhile_append_of_head? s (by simpa using hc)
      rw [he, hs, he]
    | true =>
      rw [trimEnd_snoc hc, ih]
      by_cases hb : trimStart s = []
      · have hs : trimStart (s ++ [c]) = [] := by
          rw [trimStart_eq_nil_iff] at hb ⊢
          simpa [isBlank, hc] using hb
        rw [hs, hb]
      · have hs : trimStart (s ++ [c]) = trimStart s ++ [c] := by
          rw [trimStart, List.dropWhile_append, ← trimStart, if_neg (by simpa using hb)]
        rw [hs, trimEnd_snoc hc]

theorem trim_trimEnd (t : Text) : trim (trimEnd t) = trim t := by
  rw [trim, trimStart_trimEnd_comm, trimEnd_trimEnd, trim]

theorem any_head?_of_trim_eq (h : trim t = t) : t.head?.any isWhiteSpace = false := by
  rw [← h, trim, ← trimStart_trimEnd_comm]
  exact any_head?_dropWhile _ _

theorem any_getLast?_of_trim_eq (h : trim t = t) : t.getLast?.any isWhiteSpace = false := by
  rw [← h, trim, trimEnd, List.getLast?_reverse]
  exact any_head?_dropWhile _ _

theorem trimStart_append_of_isBlank (h : s.isBlank) (t : Text) :
    trimStart (s ++ t) = trimStart t := by
  rw [trimStart, List.dropWhile_append_of_pos (List.all_eq_true.1 h), trimStart]

theorem trimEnd_of_isBlank (h : t.isBlank) : trimEnd t = [] := by
  rwa [trimEnd, List.reverse_eq_nil_iff, trimStart_eq_nil_iff, isBlank_reverse]

theorem trimEnd_isPrefix (t : Text) : trimEnd t <+: t := by
  have h := (List.dropWhile_suffix isWhiteSpace (l := t.reverse)).reverse
  rwa [List.reverse_reverse] at h

theorem trim_isInfix (t : Text) : trim t <:+: t :=
  (trimEnd_isPrefix _).isInfix.trans (List.dropWhile_suffix isWhiteSpace).isInfix

theorem isBlank_append_iff : isBlank (s ++ t) ↔ s.isBlank ∧ t.isBlank := by
  simp [isBlank]

theorem isBlank_takeWhile (t : Text) : isBlank (t.takeWhile isWhiteSpace) :=
  List.all_takeWhile

theorem exists_append_trim_append (t : Text) :
    ∃ s e, t = s ++ (trim t ++ e) ∧ s.isBlank ∧ e.isBlank := by
  have hend : trimEnd (trimStart t) ++ ((trimStart t).reverse.takeWhile isWhiteSpace).reverse =
      trimStart t := by
    rw [trimEnd, trimStart, ← List.reverse_append, List.takeWhile_append_dropWhile,
      List.reverse_reverse]
  refine ⟨t.takeWhile isWhiteSpace, ((trimStart t).reverse.takeWhile isWhiteSpace).reverse,
    ?_, isBlank_takeWhile t, ?_⟩
  · rw [trim, hend, trimStart, List.takeWhile_append_dropWhile]
  · rw [isBlank_reverse]
    exact isBlank_takeWhile _

theorem trimStart_of_forall (h : ∀ c ∈ w, isWhiteSpace c = false) : trimStart w = w := by
  apply trimStart_of_head?
  cases w with
  | nil => rfl
  | cons c w => exact h c List.mem_cons_self

theorem trimEnd_of_forall (h : ∀ c ∈ w, isWhiteSpace c = false) : trimEnd w = w := by
  rw [trimEnd, trimStart_of_forall, List.reverse_reverse]
  intro c hc
  exact h c (List.mem_reverse.1 hc)

@[mk_iff]
structure IsUnspaced (w : Text) : Prop where
  ne_nil : w ≠ []
  isWhiteSpace : ∀ c ∈ w, isWhiteSpace c = false

instance (w : Text) : Decidable (IsUnspaced w) :=
  decidable_of_iff (w ≠ [] ∧ w.all (!isWhiteSpace ·)) (by simp [isUnspaced_iff])

theorem firstWord?_of_isUnspaced (h : IsUnspaced w) : firstWord? w = some w := by
  rw [firstWord?, trimStart_of_forall h.isWhiteSpace]
  cases w with
  | nil => exact absurd rfl h.ne_nil
  | cons c w =>
    apply congrArg some
    rw [List.takeWhile_eq_self_iff]
    intro d hd
    simp [h.isWhiteSpace d hd]

end LessonText.Text

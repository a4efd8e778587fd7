import Mathlib.Data.List.TakeWhile
import LessonText.Code.Lexicon
import LessonText.Proofs.Text.Runs

namespace LessonText

structure WholeWord (before word after : Text) : Prop where
  ne_nil : word ≠ []
  isWord : ∀ c ∈ word, Unicode.isWord c
  start : before.getLast?.any Unicode.isWord = false
  stop : after.head?.any Unicode.isWord = false

namespace WholeWord

variable {before word after before' word' after' : Text}

theorem takeWhile_eq (h : WholeWord before word after) :
    (word ++ after).takeWhile Unicode.isWord = word := by
  rw [Text.takeWhile_append_of_head? word h.stop]
  exact List.takeWhile_eq_self_iff.2 h.isWord

theorem dropWhile_eq (h : WholeWord before word after) :
    (word ++ after).dropWhile Unicode.isWord = after := by
  have ht := List.takeWhile_append_dropWhile (p := Unicode.isWord) (l := word ++ after)
  rw [h.takeWhile_eq] at ht
  exact List.append_cancel_left ht

theorem isWord_head {c : Char} {w : Text} (h : WholeWord before (c :: w) after) :
    Unicode.isWord c = true :=
  h.isWord c List.mem_cons_self

theorem takeWhile_tail {c : Char} {w : Text} (h : WholeWord before (c :: w) after) :
    (w ++ after).takeWhile Unicode.isWord = w := by
  simpa [h.isWord_head] using h.takeWhile_eq

theorem dropWhile_tail {c : Char} {w : Text} (h : WholeWord before (c :: w) after) :
    (w ++ after).dropWhile Unicode.isWord = after := by
  simpa [h.isWord_head] using h.dropWhile_eq

theorem eq_of_length_le (h : WholeWord before word after) (h' : WholeWord before' word' after')
    (ht : before ++ (word ++ after) = before' ++ (word' ++ after'))
    (hle : before.length ≤ before'.length) (hlt : before'.length < before.length + word.length) :
    before = before' ∧ word = word' ∧ after = after' := by
  obtain ⟨x, rfl⟩ := List.prefix_of_prefix_length_le (List.prefix_append before _)
    (ht ▸ List.prefix_append before' _) hle
  rw [List.append_assoc, List.append_cancel_left_eq] at ht
  -- A character between the two starts would belong to the first word and end what is before
  -- the second.
  have hx : x = [] := Classical.byContradiction fun hx => by
    have hxw : x <+: word := by
      refine List.prefix_of_prefix_length_le (ht ▸ List.prefix_append x _)
        (List.prefix_append word after) ?_
      simp only [List.length_append] at hlt
      omega
    have hl := h.isWord _ (hxw.subset (List.getLast_mem hx))
    have hs := h'.start
    rw [Text.any_getLast?_append_of_ne_nil before hx, List.getLast?_eq_some_getLast hx] at hs
    simp [hl] at hs
  subst hx
  rw [List.nil_append] at ht
  have hw : word = word' := by rw [← h.takeWhile_eq, ht, h'.takeWhile_eq]
  subst hw
  exact ⟨(List.append_nil before).symm, rfl, List.append_cancel_left ht⟩

theorem unique (h : WholeWord before word after) (h' : WholeWord before' word' after')
    (ht : before ++ (word ++ after) = before' ++ (word' ++ after'))
    (hlt : before.length < before'.length + word'.length)
    (hlt' : before'.length < before.length + word.length) :
    before = before' ∧ word = word' ∧ after = after' := by
  rcases Nat.le_total before.length before'.length with hle | hle
  · exact h.eq_of_length_le h' ht hle hlt'
  · obtain ⟨h₁, h₂, h₃⟩ := h'.eq_of_length_le h ht.symm hle hlt
    exact ⟨h₁.symm, h₂.symm, h₃.symm⟩

theorem head_isWord (h : WholeWord before word after) (t : Text) :
    (word ++ t).head?.any Unicode.isWord = true := by
  cases word with
  | nil => exact absurd rfl h.ne_nil
  | cons c w => simpa using h.isWord c

theorem append_iff {x : Text} (hx : x.getLast?.any Unicode.isWord = false ∨
      (before ++ (word ++ after)).head?.any Unicode.isWord = false) :
    WholeWord (x ++ before) word after ↔ WholeWord before word after := by
  by_cases hb : before = []
  · subst hb
    rw [List.append_nil]
    constructor
    · intro h
      exact ⟨h.ne_nil, h.isWord, rfl, h.stop⟩
    · intro h
      have hx : x.getLast?.any Unicode.isWord = false :=
        hx.resolve_right (by rw [List.nil_append, h.head_isWord]; simp)
      exact ⟨h.ne_nil, h.isWord, hx, h.stop⟩
  · have hl := Text.any_getLast?_append_of_ne_nil (p := Unicode.isWord) x hb
    constructor
    · intro h
      exact ⟨h.ne_nil, h.isWord, hl ▸ h.start, h.stop⟩
    · intro h
      exact ⟨h.ne_nil, h.isWord, hl.trans h.start, h.stop⟩

theorem of_cons {c : Char} (t : Text) (hc : Unicode.isWord c) :
    WholeWord [] (c :: t.takeWhile Unicode.isWord) (t.dropWhile Unicode.isWord) where
  ne_nil := by simp
  isWord := by simpa [hc] using fun d => List.mem_takeWhile_imp
  start := rfl
  stop := Text.any_head?_dropWhile _ t

theorem induction {motive : Text → Prop} (nil : motive [])
    (word : ∀ w t, WholeWord [] w t → motive t → motive (w ++ t))
    (char : ∀ c t, Unicode.isWord c = false → motive t → motive (c :: t)) (t : Text) :
    motive t := by
  cases t with
  | nil => exact nil
  | cons c t =>
    cases hc : Unicode.isWord c with
    | true =>
      have h := word _ _ (of_cons t hc) (induction nil word char (t.dropWhile Unicode.isWord))
      rwa [List.cons_append, List.takeWhile_append_dropWhile] at h
    | false => exact char c t hc (induction nil word char t)
termination_by t.length
decreasing_by
  · exact Nat.lt_succ_self _
  · exact Nat.lt_succ_of_le (List.dropWhile_sublist _).length_le

end WholeWord

namespace Lexicon

variable {word before after t : Text} {skip pos i : Nat}

theorem standsAt_iff {prev : Option Char} :
    standsAt word prev t ↔ ∃ rest, t = word ++ rest ∧ Unicode.isBoundary prev t.head? ∧
      Unicode.isBoundary word.getLast? rest.head? := by
  rw [standsAt]
  cases h : Text.after? word t with
  | none => simpa using fun rest ht => by simp [Text.after?_eq_some_iff.2 ht] at h
  | some rest =>
    rw [Text.after?_eq_some_iff] at h
    simp [h]

theorem standsAt_iff_wholeWord (hne : word ≠ []) (hw : ∀ c ∈ word, Unicode.isWord c) :
    standsAt word before.getLast? t ↔ ∃ rest, t = word ++ rest ∧ WholeWord before word rest := by
  rw [standsAt_iff]
  refine exists_congr fun rest => and_congr_right ?_
  rintro rfl
  have hhead : (word ++ rest).head?.any Unicode.isWord = true := by
    cases word with
    | nil => contradiction
    | cons c w => simpa using hw c
  have hlast : word.getLast?.any Unicode.isWord = true := by
    rw [List.getLast?_eq_some_getLast hne]
    simpa using hw _ (List.getLast_mem hne)
  simp only [Unicode.isBoundary, hhead, hlast]
  constructor
  · rintro ⟨hs, he⟩
    exact ⟨hne, hw, by simpa using hs, by simpa using he⟩
  · intro h
    simp [h.start, h.stop]

theorem standsAt_of_mem_occurrencesFrom {prev : Option Char}
    (h : i ∈ occurrencesFrom word skip prev pos t) :
    ∃ x y, t = x ++ y ∧ skip ≤ x.length ∧ i = pos + x.length ∧
      standsAt word (x.getLast?.or prev) y := by
  induction t generalizing skip prev pos with
  | nil => simp [occurrencesFrom] at h
  | cons c t ih =>
    have step {skip' : Nat} (h : i ∈ occurrencesFrom word skip' (some c) (pos + 1) t)
        (hs : skip ≤ skip' + 1) : ∃ x y, c :: t = x ++ y ∧ skip ≤ x.length ∧ i = pos + x.length ∧
          standsAt word (x.getLast?.or prev) y := by
      obtain ⟨x, y, rfl, hx, rfl, hst⟩ := ih h
      refine ⟨c :: x, y, rfl, ?_, ?_, ?_⟩
      · simp only [List.length_cons]
        omega
      · simp only [List.length_cons]
        omega
      · simpa [List.getLast?_cons, Option.or_some] using hst
    cases skip with
    | succ skip => exact step h (Nat.le_refl _)
    | zero =>
      rw [occurrencesFrom] at h
      split at h
      next hst =>
        rcases List.mem_cons.1 h with rfl | h
        · exact ⟨[], c :: t, rfl, Nat.le_refl _, rfl, by simpa using hst⟩
        · exact step h (Nat.zero_le _)
      next => exact step h (Nat.zero_le _)

theorem exists_mem_occurrencesFrom {prev : Option Char} (hne : word ≠ []) (x : Text) {y : Text}
    (hy : y ≠ []) (hs : skip ≤ x.length) (h : standsAt word (x.getLast?.or prev) y) :
    ∃ j ∈ occurrencesFrom word skip prev pos (x ++ y),
      j ≤ pos + x.length ∧ pos + x.length < j + word.length := by
  have hpos : 0 < word.length := List.length_pos_iff.2 hne
  induction x generalizing skip prev pos with
  | nil =>
    obtain ⟨c, y, rfl⟩ := List.exists_cons_of_ne_nil hy
    obtain rfl : skip = 0 := Nat.le_zero.1 hs
    refine ⟨pos, ?_, Nat.le_refl _, ?_⟩
    · rw [List.nil_append, occurrencesFrom, if_pos (by simpa using h)]
      exact List.mem_cons_self
    · simpa using hpos
  | cons c x ih =>
    have h' : standsAt word (x.getLast?.or (some c)) y := by
      simpa [List.getLast?_cons, Option.or_some] using h
    have step {skip' : Nat} (hs : skip' ≤ x.length) :
        ∃ j ∈ occurrencesFrom word skip' (some c) (pos + 1) (x ++ y),
          j ≤ pos + (c :: x).length ∧ pos + (c :: x).length < j + word.length := by
      obtain ⟨j, hj, hle, hlt⟩ := ih hs h'
      refine ⟨j, hj, ?_, ?_⟩ <;> simp only [List.length_cons] <;> omega
    cases skip with
    | succ skip => exact step (Nat.le_of_succ_le_succ hs)
    | zero =>
      rw [List.cons_append, occurrencesFrom]
      split
      next =>
        by_cases hx : word.length - 1 ≤ x.length
        · obtain ⟨j, hj, hle⟩ := step hx
          exact ⟨j, List.mem_cons_of_mem _ hj, hle⟩
        · refine ⟨pos, List.mem_cons_self, by simp, ?_⟩
          simp only [List.length_cons]
          omega
      next => exact step (Nat.zero_le _)

theorem mem_occurrences_iff (hne : word ≠ []) (hw : ∀ c ∈ word, Unicode.isWord c) :
    i ∈ occurrences word t ↔
      ∃ x rest, t = x ++ (word ++ rest) ∧ i = x.length ∧ WholeWord x word rest := by
  constructor
  · intro h
    obtain ⟨x, y, rfl, -, rfl, hst⟩ := standsAt_of_mem_occurrencesFrom h
    rw [Option.or_none, standsAt_iff_wholeWord hne hw] at hst
    obtain ⟨rest, rfl, hx⟩ := hst
    exact ⟨x, rest, rfl, Nat.zero_add _, hx⟩
  · rintro ⟨x, rest, rfl, rfl, hx⟩
    have hst : standsAt word (x.getLast?.or none) (word ++ rest) := by
      rw [Option.or_none, standsAt_iff_wholeWord hne hw]
      exact ⟨rest, rfl, hx⟩
    obtain ⟨j, hj, hle, hlt⟩ : ∃ j ∈ occurrences word (x ++ (word ++ rest)),
        j ≤ 0 + x.length ∧ 0 + x.length < j + word.length :=
      exists_mem_occurrencesFrom hne x (by simp [hne]) (Nat.zero_le _) hst
    -- The occurrence found there is itself a whole word, so it is this one.
    obtain ⟨x', y', ht, -, rfl, hst'⟩ := standsAt_of_mem_occurrencesFrom hj
    rw [Option.or_none, standsAt_iff_wholeWord hne hw] at hst'
    obtain ⟨rest', rfl, hx'⟩ := hst'
    obtain ⟨rfl, -, -⟩ := hx.unique hx' ht (by omega) (by omega)
    simpa using hj

end Lexicon

end LessonText

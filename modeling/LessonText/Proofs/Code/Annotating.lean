import LessonText.Code.Listing
import LessonText.Proofs.Code.OnePass
import LessonText.Proofs.Code.Resolution

namespace LessonText

namespace WholeWord

variable {P : Text → Text → Text → Prop} {word after t : Text} {c : Char}

theorem exists_append_iff (h : WholeWord [] word after) :
    (∃ x w r, word ++ after = x ++ (w ++ r) ∧ WholeWord x w r ∧ P x w r) ↔
      P [] word after ∨ ∃ x w r, after = x ++ (w ++ r) ∧ WholeWord x w r ∧ P (word ++ x) w r := by
  constructor
  · rintro ⟨x, w, r, ht, hw, hP⟩
    by_cases hx : x.length < word.length
    · have hpos : 0 < w.length := List.length_pos_iff.2 hw.ne_nil
      obtain ⟨rfl, rfl, rfl⟩ := h.unique hw ht (by simp; omega) (by simpa using hx)
      exact .inl hP
    · obtain ⟨y, rfl⟩ := List.prefix_of_prefix_length_le (List.prefix_append word after)
        (ht ▸ List.prefix_append x _) (Nat.le_of_not_lt hx)
      rw [List.append_assoc, List.append_cancel_left_eq] at ht
      exact .inr ⟨y, w, r, ht, (append_iff (.inr (ht ▸ h.stop))).1 hw, hP⟩
  · rintro (hP | ⟨x, w, r, rfl, hw, hP⟩)
    · exact ⟨[], word, after, rfl, h, hP⟩
    · exact ⟨word ++ x, w, r, (List.append_assoc ..).symm, (append_iff (.inr h.stop)).2 hw, hP⟩

theorem exists_cons_iff (hc : Unicode.isWord c = false) :
    (∃ x w r, c :: t = x ++ (w ++ r) ∧ WholeWord x w r ∧ P x w r) ↔
      ∃ x w r, t = x ++ (w ++ r) ∧ WholeWord x w r ∧ P (c :: x) w r := by
  constructor
  · rintro ⟨_ | ⟨d, x⟩, w, r, ht, hw, hP⟩
    · have hd := hw.head_isWord r
      rw [← List.nil_append (w ++ r), ← ht] at hd
      simp [hc] at hd
    · obtain ⟨rfl, rfl⟩ := List.cons.inj ht
      exact ⟨x, w, r, rfl, (append_iff (x := [c]) (.inl (by simpa using hc))).1 hw, hP⟩
  · rintro ⟨x, w, r, rfl, hw, hP⟩
    exact ⟨c :: x, w, r, rfl, (append_iff (x := [c]) (.inl (by simpa using hc))).2 hw, hP⟩

end WholeWord

namespace Listing

open OnePass (IsCalled tagOf)

variable {a : Annotation} {t : Text} {pos : Nat}

theorem annotateCallsFrom_cons (c : Char) (t : Text) (hc : Unicode.isWord c = false) :
    annotateCallsFrom pos (c :: t) = annotateCallsFrom (pos + 1) t := by
  rw [annotateCallsFrom]
  simp [hc]

theorem annotateCallsFrom_append {word after : Text} (h : WholeWord [] word after) :
    annotateCallsFrom pos (word ++ after) =
      if IsCalled after then
        ⟨pos, pos + word.length, .call⟩ :: annotateCallsFrom (pos + word.length) after
      else annotateCallsFrom (pos + word.length) after := by
  cases word with
  | nil => exact absurd rfl h.ne_nil
  | cons c w =>
    rw [List.cons_append, annotateCallsFrom, if_pos h.isWord_head]
    simp only [h.takeWhile_tail, h.dropWhile_tail, List.length_cons, Nat.add_assoc, Nat.add_comm 1]
    rfl

theorem mem_annotateCallsFrom :
    a ∈ annotateCallsFrom pos t ↔ ∃ x w r, t = x ++ (w ++ r) ∧ WholeWord x w r ∧
      IsCalled r ∧ a = ⟨pos + x.length, pos + x.length + w.length, .call⟩ := by
  induction t using WholeWord.induction generalizing pos with
  | nil =>
    simp only [annotateCallsFrom, List.not_mem_nil, false_iff]
    rintro ⟨x, w, r, ht, hw, -⟩
    simp [hw.ne_nil] at ht
  | word w t hw ih =>
    rw [annotateCallsFrom_append hw, hw.exists_append_iff]
    simp only [List.length_append, List.length_nil, ← Nat.add_assoc, Nat.add_zero]
    by_cases hr : IsCalled t
    · rw [if_pos hr, List.mem_cons, ih]
      simp only [hr, true_and]
    · rw [if_neg hr, ih]
      simp only [hr, false_and, false_or]
  | char c t hc ih =>
    rw [annotateCallsFrom_cons c t hc, WholeWord.exists_cons_iff hc, ih]
    simp only [List.length_cons, Nat.add_assoc, Nat.add_comm 1]

variable {lx : Lexicon} {ws : List Text} {tag : Tag} {x w r : Text} {i k : Nat}

theorem mem_annotateCalls_and_covers_iff :
    a ∈ annotateCalls t ∧ a.covers i ↔ ∃ x w r, t = x ++ (w ++ r) ∧ WholeWord x w r ∧
      IsCalled r ∧ a = ⟨x.length, x.length + w.length, .call⟩ ∧
      x.length ≤ i ∧ i < x.length + w.length := by
  simp only [annotateCalls, mem_annotateCallsFrom, Nat.zero_add]
  constructor
  · rintro ⟨⟨x, w, r, ht, hw, hr, rfl⟩, hc⟩
    exact ⟨x, w, r, ht, hw, hr, rfl, Annotation.covers_iff.1 hc⟩
  · rintro ⟨x, w, r, ht, hw, hr, rfl, hi⟩
    exact ⟨⟨x, w, r, ht, hw, hr, rfl⟩, Annotation.covers_iff.2 hi⟩

theorem mem_annotateWords_and_covers_iff (hws : ∀ w ∈ ws, ∀ c ∈ w, Unicode.isWord c) :
    a ∈ annotateWords tag ws t ∧ a.covers i ↔ ∃ x w r, t = x ++ (w ++ r) ∧ WholeWord x w r ∧
      w ∈ ws ∧ a = ⟨x.length, x.length + w.length, tag⟩ ∧
      x.length ≤ i ∧ i < x.length + w.length := by
  simp only [annotateWords, List.mem_flatMap, List.mem_map]
  constructor
  · rintro ⟨⟨w, hw, j, hj, rfl⟩, hc⟩
    have hc := Annotation.covers_iff.1 hc
    have hne : w ≠ [] := by
      rintro rfl
      simp only [List.length_nil] at hc
      omega
    obtain ⟨x, r, ht, rfl, h⟩ := (Lexicon.mem_occurrences_iff hne (hws w hw)).1 hj
    exact ⟨x, w, r, ht, h, hw, rfl, hc⟩
  · rintro ⟨x, w, r, ht, h, hw, rfl, hi⟩
    refine ⟨⟨w, hw, x.length, ?_, rfl⟩, Annotation.covers_iff.2 hi⟩
    exact (Lexicon.mem_occurrences_iff h.ne_nil (hws w hw)).2 ⟨x, r, ht, rfl, h⟩

def Earns (lx : Lexicon) (word after : Text) : Tag → Prop
  | .keyword => word ∈ lx.keywords
  | .builtin => word ∈ lx.builtins
  | .call => IsCalled after
  | .comment | .literal | .plain => False

def IsWordLexicon (lx : Lexicon) : Prop :=
  ∀ w ∈ lx.keywords ++ lx.builtins, ∀ c ∈ w, Unicode.isWord c

instance : Decidable (IsWordLexicon lx) :=
  decidable_of_iff ((lx.keywords ++ lx.builtins).all (·.all Unicode.isWord))
    (by simp only [IsWordLexicon, List.all_eq_true])

theorem mem_annotate_and_covers_iff (hlx : IsWordLexicon lx) :
    a ∈ annotate lx t ∧ a.covers i ↔ ∃ x w r, t = x ++ (w ++ r) ∧ WholeWord x w r ∧
      Earns lx w r a.tag ∧ a = ⟨x.length, x.length + w.length, a.tag⟩ ∧
      x.length ≤ i ∧ i < x.length + w.length := by
  have hk : ∀ w ∈ lx.keywords, ∀ c ∈ w, Unicode.isWord c := fun w hw => hlx w (by simp [hw])
  have hb : ∀ w ∈ lx.builtins, ∀ c ∈ w, Unicode.isWord c := fun w hw => hlx w (by simp [hw])
  simp only [annotate, List.mem_append, or_and_right, mem_annotateWords_and_covers_iff hk,
    mem_annotateWords_and_covers_iff hb, mem_annotateCalls_and_covers_iff]
  constructor
  · rintro ((⟨x, w, r, ht, h, hw, rfl, hi⟩ | ⟨x, w, r, ht, h, hw, rfl, hi⟩) |
      ⟨x, w, r, ht, h, hw, rfl, hi⟩)
    all_goals exact ⟨x, w, r, ht, h, hw, rfl, hi⟩
  · rintro ⟨x, w, r, ht, h, he, ha, hi⟩
    cases htag : a.tag with
    | keyword =>
      rw [htag] at he ha
      exact .inl (.inl ⟨x, w, r, ht, h, he, ha, hi⟩)
    | builtin =>
      rw [htag] at he ha
      exact .inl (.inr ⟨x, w, r, ht, h, he, ha, hi⟩)
    | call =>
      rw [htag] at he ha
      exact .inr ⟨x, w, r, ht, h, he, ha, hi⟩
    | comment | literal | plain => simp [htag, Earns] at he

theorem mem_annotate_and_covers_word_iff (hlx : IsWordLexicon lx) (h : WholeWord x w r)
    (hk : k < w.length) :
    a ∈ annotate lx (x ++ (w ++ r)) ∧ a.covers (x.length + k) ↔
      Earns lx w r a.tag ∧ a = ⟨x.length, x.length + w.length, a.tag⟩ := by
  rw [mem_annotate_and_covers_iff hlx]
  constructor
  · rintro ⟨x', w', r', ht, h', he, ha, hle, hlt⟩
    obtain ⟨rfl, rfl, rfl⟩ := h.unique h' ht (by omega) (by omega)
    exact ⟨he, ha⟩
  · rintro ⟨he, ha⟩
    exact ⟨x, w, r, rfl, h, he, ha, by omega, by omega⟩

theorem not_covers_of_not_isWord (hlx : IsWordLexicon lx) {c : Char}
    (hc : Unicode.isWord c = false) (ha : a ∈ annotate lx (x ++ c :: r)) :
    a.covers x.length = false := by
  cases hi : a.covers x.length with
  | false => rfl
  | true =>
    obtain ⟨x', w', r', ht, h', -, -, hle, hlt⟩ := (mem_annotate_and_covers_iff hlx).1 ⟨ha, hi⟩
    have hcw : c ∈ w' := by
      have hget := congrArg (·[x.length]?) ht
      simp only [List.getElem?_append_right (Nat.le_refl _), Nat.sub_self, List.getElem?_cons_zero,
        List.getElem?_append_right hle] at hget
      rw [List.getElem?_append_left (by omega)] at hget
      exact List.mem_of_getElem? hget.symm
    simp [h'.isWord c hcw] at hc

end Listing

end LessonText

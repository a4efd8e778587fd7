import Mathlib.Data.List.Sort
import LessonText.Proofs.Code.WholeWord
import LessonText.Proofs.Text.Leftmost

namespace LessonText.Lexicon

variable {word t : Text} {skip pos i j : Nat}

def WordAt (word t : Text) (start stop : Nat) : Prop :=
  ∃ x y, t = x ++ (word ++ y) ∧ Unicode.isBoundary x.getLast? (word ++ y).head? ∧
    Unicode.isBoundary (x ++ word).getLast? y.head? ∧ start = x.length ∧
    stop = start + word.length

def HitAt (word t : Text) : Nat → Nat → Prop :=
  Text.Leftmost (WordAt word t)

theorem determined_wordAt (hne : word ≠ []) (t : Text) : Text.Determined (WordAt word t) where
  lt h := by
    obtain ⟨x, y, -, -, -, -, rfl⟩ := h
    exact Nat.lt_add_of_pos_right (List.length_pos_iff.2 hne)
  unique h h' := by
    obtain ⟨_, _, -, -, -, -, rfl⟩ := h
    obtain ⟨_, _, -, -, -, -, rfl⟩ := h'
    rfl

theorem wordAt_iff_standsAt (hne : word ≠ []) :
    WordAt word t i j ↔
      ∃ x y, t = x ++ y ∧ standsAt word x.getLast? y ∧ i = x.length ∧ j = i + word.length := by
  have hlast (x : Text) : (x ++ word).getLast? = word.getLast? := by
    rw [List.getLast?_append, List.getLast?_eq_some_getLast hne, Option.some_or]
  simp only [WordAt, standsAt_iff, hlast]
  constructor
  · rintro ⟨x, y, rfl, hs, he, hi, hj⟩
    exact ⟨x, _, rfl, ⟨y, rfl, hs, he⟩, hi, hj⟩
  · rintro ⟨x, _, rfl, ⟨y, rfl, hs, he⟩, hi, hj⟩
    exact ⟨x, y, rfl, hs, he, hi, hj⟩

theorem pairwise_occurrencesFrom {prev : Option Char} :
    (occurrencesFrom word skip prev pos t).Pairwise fun i j => i < j ∧ i + word.length ≤ j := by
  induction t generalizing skip prev pos with
  | nil => simp [occurrencesFrom]
  | cons c t ih =>
    cases skip with
    | succ skip => exact ih
    | zero =>
      rw [occurrencesFrom]
      split
      next =>
        refine List.pairwise_cons.2 ⟨fun j hj => ?_, ih⟩
        obtain ⟨x, y, -, hx, rfl, -⟩ := standsAt_of_mem_occurrencesFrom hj
        omega
      next => exact ih

theorem pairwise_occurrences (word t : Text) :
    (occurrences word t).Pairwise fun i j => i < j ∧ i + word.length ≤ j :=
  pairwise_occurrencesFrom

/-- Places of the word from left to right that are apart and leave out no place without need. -/
structure Finds (word t : Text) (hits : List Nat) : Prop where
  apart : hits.Pairwise fun i j => i < j ∧ i + word.length ≤ j
  wordAt : ∀ i ∈ hits, WordAt word t i (i + word.length)
  covers : ∀ {i j}, WordAt word t i j → i ∈ hits ∨ ∃ k ∈ hits, k < i ∧ i < k + word.length

theorem finds_occurrences (hne : word ≠ []) (t : Text) : Finds word t (occurrences word t) where
  apart := pairwise_occurrences word t
  wordAt i hi := by
    obtain ⟨x, y, rfl, -, rfl, hst⟩ := standsAt_of_mem_occurrencesFrom hi
    rw [Option.or_none] at hst
    exact (wordAt_iff_standsAt hne).2 ⟨x, y, rfl, hst, Nat.zero_add _, rfl⟩
  covers {i j} h := by
    obtain ⟨x, y, rfl, hst, rfl, rfl⟩ := (wordAt_iff_standsAt hne).1 h
    have hy : y ≠ [] := by
      obtain ⟨rest, rfl, -⟩ := standsAt_iff.1 hst
      simp [hne]
    rw [← Option.or_none (o := x.getLast?)] at hst
    obtain ⟨k, hk, hle, hlt⟩ : ∃ k ∈ occurrences word (x ++ y),
        k ≤ 0 + x.length ∧ 0 + x.length < k + word.length :=
      exists_mem_occurrencesFrom hne x hy (Nat.zero_le _) hst
    rw [Nat.zero_add] at hle hlt
    rcases Nat.eq_or_lt_of_le hle with rfl | hlt'
    · exact .inl hk
    · exact .inr ⟨k, hk, hlt', hlt⟩

namespace Finds

variable {hits : List Nat}

theorem selects (h : Finds word t hits) (hne : word ≠ []) :
    Text.Selects (WordAt word t) fun i j => i ∈ hits ∧ j = i + word.length where
  sound {i j} hij := by
    obtain ⟨hi, rfl⟩ := hij
    exact h.wordAt i hi
  disjoint {i j k l} hij hkl hlt := by
    obtain ⟨hi, rfl⟩ := hij
    obtain ⟨m, hm, rfl⟩ := List.getElem_of_mem hi
    obtain ⟨n, hn, rfl⟩ := List.getElem_of_mem hkl.1
    have hp := List.pairwise_iff_getElem.1 h.apart
    rcases Nat.lt_trichotomy m n with hmn | rfl | hmn
    · exact (hp m n hm hn hmn).2
    · exact absurd hlt (Nat.lt_irrefl _)
    · exact absurd hlt (Nat.lt_asymm (hp n m hn hm hmn).1)
  covers {i j} hij := by
    rcases h.covers hij with hi | ⟨k, hk, hle, hlt⟩
    · exact ⟨i, _, ⟨hi, rfl⟩, Nat.le_refl i, Nat.lt_add_of_pos_right (List.length_pos_iff.2 hne)⟩
    · exact ⟨k, _, ⟨hk, rfl⟩, Nat.le_of_lt hle, hlt⟩

theorem mem_iff_hitAt (h : Finds word t hits) (hne : word ≠ []) :
    i ∈ hits ↔ HitAt word t i (i + word.length) := by
  rw [HitAt, ← (h.selects hne).iff_leftmost (determined_wordAt hne t)]
  simp

theorem eq_occurrences (h : Finds word t hits) (hne : word ≠ []) : hits = occurrences word t := by
  have hlt : hits.Pairwise (· < ·) := h.apart.imp And.left
  have hlt' : (occurrences word t).Pairwise (· < ·) := (pairwise_occurrences word t).imp And.left
  refine hlt.eq_of_mem_iff hlt' fun i => ?_
  rw [h.mem_iff_hitAt hne, (finds_occurrences hne t).mem_iff_hitAt hne]

end Finds

theorem mem_occurrences_iff_hitAt (hne : word ≠ []) :
    i ∈ occurrences word t ↔ HitAt word t i (i + word.length) :=
  (finds_occurrences hne t).mem_iff_hitAt hne

theorem HitAt.stop_eq (h : HitAt word t i j) : j = i + word.length := by
  obtain ⟨_, _, -, -, -, -, hj⟩ := h.sound
  exact hj

theorem HitAt.le_length (h : HitAt word t i j) : j ≤ t.length := by
  obtain ⟨x, y, rfl, -, -, rfl, rfl⟩ := h.sound
  simp

/-- A lexicon finds the places of a word that are apart, stand between word boundaries and leave out
none that does not overlap an earlier one. If the word consists of word characters, these are the
places where it is a maximal run. -/
theorem finds_iff_eq_occurrences (hne : word ≠ []) (t : Text) :
    (∀ hits, Finds word t hits ↔ hits = occurrences word t) ∧
      ((∀ c ∈ word, Unicode.isWord c) → ∀ i, i ∈ occurrences word t ↔
        ∃ before after, t = before ++ (word ++ after) ∧ i = before.length ∧
          WholeWord before word after) := by
  refine ⟨fun hits => ⟨fun h => h.eq_occurrences hne, ?_⟩, fun hw i => mem_occurrences_iff hne hw⟩
  rintro rfl
  exact finds_occurrences hne t

theorem finds_iff_eq_occurrences_sampleDashes :
    Finds "-a-" "é-a-a-é" [1] ∧
      ∃ before after, "-été été".toList = before ++ ("été".toList ++ after) ∧
        5 = before.length ∧ WholeWord before "été" after := by
  have hdashes : [1] = occurrences "-a-" "é-a-a-é" := by decide +kernel
  have hletters : "été".toList.all Unicode.isWord := by decide +kernel
  exact ⟨((finds_iff_eq_occurrences (by decide) _).1 [1]).2 hdashes,
    ((finds_iff_eq_occurrences (by decide) _).2 (List.all_eq_true.1 hletters) 5).1
      (by decide +kernel)⟩

end LessonText.Lexicon

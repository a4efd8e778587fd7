/-! Leftmost occurrences: of occurrences that may overlap, those that are taken from left to right
without overlaps. They are the only ones that do not overlap and leave out no occurrence without
need. -/

namespace LessonText.Text

/-- An occurrence is taken unless it starts inside one that is taken before it. -/
def Leftmost (occurs : Nat → Nat → Prop) (start stop : Nat) : Prop :=
  occurs start stop ∧ ∀ i j, i < start → Leftmost occurs i j → j ≤ start
termination_by start

/-- `taken` are occurrences that do not overlap, and every occurrence starts inside one of them. -/
structure Selects (occurs taken : Nat → Nat → Prop) : Prop where
  sound : ∀ {i j}, taken i j → occurs i j
  disjoint : ∀ {i j k l}, taken i j → taken k l → i < k → j ≤ k
  covers : ∀ {i j}, occurs i j → ∃ k l, taken k l ∧ k ≤ i ∧ i < l

structure Determined (occurs : Nat → Nat → Prop) : Prop where
  lt : ∀ {i j}, occurs i j → i < j
  unique : ∀ {i j k}, occurs i j → occurs i k → j = k

variable {occurs occurs' taken : Nat → Nat → Prop} {i j : Nat}

theorem Leftmost.sound (h : Leftmost occurs i j) : occurs i j := by
  rw [Leftmost] at h
  exact h.1

theorem Leftmost.le {k l : Nat} (h : Leftmost occurs k l) (hi : i < k)
    (h' : Leftmost occurs i j) : j ≤ k := by
  rw [Leftmost] at h
  exact h.2 i j hi h'

theorem selects_leftmost (hd : Determined occurs) : Selects occurs (Leftmost occurs) where
  sound := Leftmost.sound
  disjoint h h' hlt := h'.le hlt h
  covers {i j} h := by
    by_cases hc : ∃ k l, Leftmost occurs k l ∧ k < i ∧ i < l
    · obtain ⟨k, l, hkl, hk, hl⟩ := hc
      exact ⟨k, l, hkl, Nat.le_of_lt hk, hl⟩
    · refine ⟨i, j, ?_, Nat.le_refl i, hd.lt h⟩
      rw [Leftmost]
      refine ⟨h, fun k l hk hkl => Nat.le_of_not_lt fun hl => hc ⟨k, l, hkl, hk, hl⟩⟩

theorem Selects.iff_leftmost (h : Selects occurs taken) (hd : Determined occurs) :
    taken i j ↔ Leftmost occurs i j := by
  induction i using Nat.strongRecOn generalizing j with
  | _ i ih =>
    constructor
    · intro ht
      rw [Leftmost]
      exact ⟨h.sound ht, fun k l hk hkl => h.disjoint ((ih k hk).2 hkl) ht hk⟩
    · intro hl
      obtain ⟨k, l, ht, hk, hi⟩ := h.covers hl.sound
      rcases Nat.lt_or_eq_of_le hk with hk | rfl
      · exact absurd (hl.le hk ((ih k hk).1 ht)) (Nat.not_le_of_lt hi)
      · rwa [hd.unique hl.sound (h.sound ht)]

theorem leftmost_append_iff {first rest : Nat} (hd : Determined occurs) (hd' : Determined occurs')
    (free : ∀ {i j}, i < first → ¬occurs i j) (head : occurs first rest)
    (tail : ∀ {i j}, rest ≤ i → (occurs i j ↔ ∃ k l, i = rest + k ∧ j = rest + l ∧ occurs' k l)) :
    Leftmost occurs i j ↔
      i = first ∧ j = rest ∨ ∃ k l, i = rest + k ∧ j = rest + l ∧ Leftmost occurs' k l := by
  have hlt := hd.lt head
  have hs := selects_leftmost hd'
  have hsel : Selects occurs fun i j =>
      i = first ∧ j = rest ∨ ∃ k l, i = rest + k ∧ j = rest + l ∧ Leftmost occurs' k l := by
    constructor
    case sound =>
      rintro i j (⟨rfl, rfl⟩ | ⟨k, l, rfl, rfl, h⟩)
      · exact head
      · exact (tail (Nat.le_add_right rest k)).2 ⟨k, l, rfl, rfl, h.sound⟩
    case disjoint =>
      rintro i j i' j' (⟨rfl, rfl⟩ | ⟨k, l, rfl, rfl, h⟩) (⟨rfl, rfl⟩ | ⟨k', l', rfl, rfl, h'⟩) hi
      · omega
      · exact Nat.le_add_right j k'
      · omega
      · exact Nat.add_le_add_left (hs.disjoint h h' (by omega)) rest
    case covers =>
      intro i j h
      rcases Nat.lt_or_ge i first with hi | hi
      · exact absurd h (free hi)
      rcases Nat.lt_or_ge i rest with hr | hr
      · exact ⟨first, rest, .inl ⟨rfl, rfl⟩, hi, hr⟩
      · obtain ⟨k, l, rfl, rfl, h'⟩ := (tail hr).1 h
        obtain ⟨k', l', hl, hk, hkl⟩ := hs.covers h'
        exact ⟨rest + k', rest + l', .inr ⟨k', l', rfl, rfl, hl⟩, by omega, by omega⟩
  exact (hsel.iff_leftmost hd).symm

end LessonText.Text

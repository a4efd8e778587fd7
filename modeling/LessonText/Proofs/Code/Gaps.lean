import LessonText.Proofs.Code.Literals

namespace LessonText.Literal

/-- The characters from `start` to just before `stop` are all that stands between two literals, or
between a literal and an edge of the line. -/
structure IsGapAt (line : Text) (start stop : Nat) : Prop where
  lt : start < stop
  le : stop ≤ line.length
  free : ∀ {i j}, StandsAt line i j → j ≤ start ∨ stop ≤ i
  starts : start = 0 ∨ ∃ i, StandsAt line i start
  stops : stop = line.length ∨ ∃ j, StandsAt line stop j

variable {gap l r : Text} {i j : Nat}

theorem isGapAt_iff_of_isGap (h : pattern.IsGap gap []) :
    IsGapAt gap i j ↔ gap ≠ [] ∧ i = 0 ∧ j = gap.length := by
  have hnone {i j : Nat} : ¬StandsAt gap i j := not_standsAt_of_isGap h
  constructor
  · rintro ⟨hlt, hle, -, hi, hj⟩
    have hi : i = 0 := hi.resolve_right fun ⟨_, h⟩ => hnone h
    have hj : j = gap.length := hj.resolve_right fun ⟨_, h⟩ => hnone h
    refine ⟨?_, hi, hj⟩
    rintro rfl
    simp at hj
    omega
  · rintro ⟨hne, rfl, rfl⟩
    exact ⟨List.length_pos_iff.2 hne, Nat.le_refl _, fun h => absurd h hnone, .inl rfl, .inl rfl⟩

section Append

variable (h : pattern.IsGap gap (l ++ r)) (hm : match? (l ++ r) = some (l, r))
include h hm

theorem standsAt_first :
    StandsAt (gap ++ (l ++ r)) gap.length (gap.length + l.length) :=
  (standsAt_append_iff h hm).2 (.inl ⟨rfl, rfl⟩)

theorem standsAt_add_iff :
    StandsAt (gap ++ (l ++ r)) (gap.length + l.length + i) (gap.length + l.length + j) ↔
      StandsAt r i j := by
  have hpos := (standsAt_first h hm).lt
  rw [standsAt_append_iff h hm]
  constructor
  · rintro (⟨heq, -⟩ | ⟨i', j', hi, hj, hs⟩)
    · omega
    · rwa [Nat.add_left_cancel hi, Nat.add_left_cancel hj]
  · exact fun hs => .inr ⟨i, j, rfl, rfl, hs⟩

theorem exists_standsAt_add_iff :
    (∃ k, StandsAt (gap ++ (l ++ r)) k (gap.length + l.length + j)) ↔
      j = 0 ∨ ∃ k, StandsAt r k j := by
  constructor
  · rintro ⟨k, hk⟩
    rcases (standsAt_append_iff h hm).1 hk with ⟨-, heq⟩ | ⟨k, j', rfl, heq, hs⟩
    · exact .inl (by omega)
    · exact .inr ⟨k, Nat.add_left_cancel heq ▸ hs⟩
  · rintro (rfl | ⟨k, hs⟩)
    · exact ⟨_, standsAt_first h hm⟩
    · exact ⟨_, (standsAt_add_iff h hm).2 hs⟩

theorem exists_standsAt_of_add (hs : StandsAt (gap ++ (l ++ r)) (gap.length + l.length + i) j) :
    ∃ k, StandsAt r i k := by
  have hpos := (standsAt_first h hm).lt
  rcases (standsAt_append_iff h hm).1 hs with ⟨heq, -⟩ | ⟨i', k, heq, -, hs⟩
  · omega
  · exact ⟨k, Nat.add_left_cancel heq ▸ hs⟩

theorem isGapAt_iff_of_le (hj : j ≤ gap.length) :
    IsGapAt (gap ++ (l ++ r)) i j ↔ gap ≠ [] ∧ i = 0 ∧ j = gap.length := by
  have hfirst := standsAt_first h hm
  have hpos := hfirst.lt
  constructor
  · rintro ⟨hlt, hle, -, hi, hj'⟩
    have hi : i = 0 := hi.resolve_right fun ⟨k, hk⟩ => by
      rcases (standsAt_append_iff h hm).1 hk with ⟨-, heq⟩ | ⟨_, _, -, heq, -⟩ <;> omega
    have hj : j = gap.length := by
      rcases hj' with hj' | ⟨k, hk⟩
      · simp only [List.length_append] at hj'
        omega
      · rcases (standsAt_append_iff h hm).1 hk with ⟨heq, -⟩ | ⟨_, _, heq, -, -⟩ <;> omega
    exact ⟨List.length_pos_iff.1 (by omega), hi, hj⟩
  · rintro ⟨hne, rfl, rfl⟩
    refine ⟨List.length_pos_iff.2 hne, by simp, fun hs => ?_, .inl rfl, .inr ⟨_, hfirst⟩⟩
    rcases (standsAt_append_iff h hm).1 hs with ⟨heq, -⟩ | ⟨_, _, heq, -, -⟩ <;> omega

theorem isGapAt_add_iff :
    IsGapAt (gap ++ (l ++ r)) (gap.length + l.length + i) (gap.length + l.length + j) ↔
      IsGapAt r i j := by
  have hpos := (standsAt_first h hm).lt
  have hlen : (gap ++ (l ++ r)).length = gap.length + l.length + r.length := by
    simp [Nat.add_assoc]
  constructor
  · rintro ⟨hlt, hle, hfree, hi, hj⟩
    rw [hlen] at hle hj
    refine ⟨by omega, by omega, fun hs => ?_, ?_, ?_⟩
    · have := hfree ((standsAt_add_iff h hm).2 hs)
      omega
    · exact (exists_standsAt_add_iff h hm).1 (hi.resolve_left (by omega))
    · exact hj.imp Nat.add_left_cancel fun ⟨_, hk⟩ => exists_standsAt_of_add h hm hk
  · rintro ⟨hlt, hle, hfree, hi, hj⟩
    refine ⟨by omega, by omega, fun hs => ?_, .inr ((exists_standsAt_add_iff h hm).2 hi), ?_⟩
    · rcases (standsAt_append_iff h hm).1 hs with ⟨rfl, rfl⟩ | ⟨_, _, rfl, rfl, hs'⟩
      · omega
      · have := hfree hs'
        omega
    · exact hj.imp (fun heq => by omega) fun ⟨k, hk⟩ => ⟨_, (standsAt_add_iff h hm).2 hk⟩

theorem isGapAt_append_iff :
    IsGapAt (gap ++ (l ++ r)) i j ↔ gap ≠ [] ∧ i = 0 ∧ j = gap.length ∨
      ∃ i' j', i = gap.length + l.length + i' ∧ j = gap.length + l.length + j' ∧
        IsGapAt r i' j' := by
  constructor
  · intro hg
    rcases hg.free (standsAt_first h hm) with hb | hb
    · obtain ⟨i, rfl⟩ := Nat.exists_eq_add_of_le hb
      obtain ⟨j, rfl⟩ := Nat.exists_eq_add_of_le (Nat.le_trans hb (Nat.le_of_lt hg.lt))
      exact .inr ⟨i, j, rfl, rfl, (isGapAt_add_iff h hm).1 hg⟩
    · exact .inl ((isGapAt_iff_of_le h hm hb).1 hg)
  · rintro (hfirst | ⟨i, j, rfl, rfl, hg⟩)
    · exact (isGapAt_iff_of_le h hm (Nat.le_of_eq hfirst.2.2)).2 hfirst
    · exact (isGapAt_add_iff h hm).2 hg

end Append

end LessonText.Literal

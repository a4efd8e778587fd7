import LessonText.Proofs.Text.Lines

namespace LessonText.Text

variable {start t r l w : Text} {ls : List Text} {c : Char}

theorem trimStart_subset (t : Text) : trimStart t ⊆ t :=
  (List.dropWhile_sublist _).subset

theorem trimEnd_subset (t : Text) : trimEnd t ⊆ t := by
  intro c hc
  rw [trimEnd, List.mem_reverse] at hc
  exact List.mem_reverse.1 (trimStart_subset _ hc)

theorem trim_subset (t : Text) : trim t ⊆ t :=
  List.Subset.trans (trimEnd_subset _) (trimStart_subset t)

theorem subset_of_after? (h : after? start t = some r) : r ⊆ t := by
  rw [after?_eq_some_iff.1 h]
  exact List.subset_append_right start r

theorem subset_of_firstWord? (h : firstWord? t = some w) : w ⊆ t := by
  rw [firstWord?] at h
  split at h
  · contradiction
  next c r hr =>
    rw [← Option.some.inj h, ← hr]
    exact List.Subset.trans (List.takeWhile_sublist _).subset (trimStart_subset t)

theorem unlines_cons_of_ne_nil (l : Text) (h : ls ≠ []) :
    unlines (l :: ls) = l ++ '\n' :: unlines ls := by
  rw [unlines, List.intercalate_cons_of_ne_nil h, List.append_assoc, List.singleton_append, unlines]

theorem subset_unlines (h : l ∈ ls) : l ⊆ unlines ls := by
  induction ls with
  | nil => contradiction
  | cons k ls ih =>
    rcases Decidable.em (ls = []) with rfl | hne
    · rw [List.mem_singleton] at h
      simp [h, unlines]
    · rw [unlines_cons_of_ne_nil k hne]
      rcases List.mem_cons.1 h with rfl | h
      · exact List.subset_append_left l _
      · exact List.Subset.trans (ih h)
          (List.subset_append_of_subset_right k (List.subset_cons_self _ _))

theorem not_mem_unlines (hc : c ≠ '\n') (h : ∀ l ∈ ls, c ∉ l) : c ∉ unlines ls := by
  induction ls with
  | nil => exact List.not_mem_nil
  | cons l ls ih =>
    rw [List.forall_mem_cons] at h
    rcases Decidable.em (ls = []) with rfl | hne
    · simpa [unlines] using h.1
    · rw [unlines_cons_of_ne_nil l hne, List.mem_append, List.mem_cons]
      rintro (hl | hfeed | hls)
      · exact h.1 hl
      · exact hc hfeed
      · exact ih h.2 hls

theorem subset_of_mem_lines (h : l ∈ lines t) : l ⊆ t := by
  have hl := subset_unlines h
  rwa [unlines_lines] at hl

end LessonText.Text

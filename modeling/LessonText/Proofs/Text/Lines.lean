import LessonText.Text

namespace LessonText.Text

theorem lines_cons (c : Char) (t : Text) :
    lines (c :: t) = if c = '\n' then [] :: lines t else (lines t).modifyHead (c :: ·) := by
  simp [lines, List.splitOn_cons_eq_if_modifyHead]

theorem lineFeed_not_mem_of_mem_lines {l t : Text} (h : l ∈ lines t) : '\n' ∉ l := by
  induction t generalizing l with
  | nil =>
    have : l = [] := by simpa [lines] using h
    simp [this]
  | cons c t ih =>
    rw [lines_cons] at h
    split at h
    next =>
      rcases List.mem_cons.1 h with rfl | h
      · simp
      · exact ih h
    next hc =>
      obtain ⟨k, ks, hk⟩ := List.exists_cons_of_ne_nil (lines_ne_nil t)
      rw [hk, List.modifyHead_cons] at h
      rcases List.mem_cons.1 h with rfl | h
      · simpa [Ne.symm hc] using ih (hk ▸ List.mem_cons_self)
      · exact ih (hk ▸ List.mem_cons_of_mem k h)

theorem lines_unlines {ls : List Text} (h : ∀ l ∈ ls, '\n' ∉ l) (hne : ls ≠ []) :
    lines (unlines ls) = ls :=
  List.splitOn_intercalate '\n' h hne

end LessonText.Text

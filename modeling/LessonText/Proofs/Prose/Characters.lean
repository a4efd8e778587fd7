import LessonText.Proofs.Prose.Emphasis
import LessonText.Proofs.Text.Characters
import LessonText.Prose.Paragraph
import LessonText.Prose.Points

namespace LessonText

variable {t held piece line : Text} {ss : List Span} {c : Char}

theorem Span.not_mem_plainText (h : ∀ s ∈ ss, c ∉ s.text) : c ∉ plainText ss := by
  rw [plainText, List.mem_flatMap]
  rintro ⟨s, hs, hc⟩
  exact h s hs hc

namespace Points

theorem subset_of_item? (h : item? line = some ss) : ∀ s ∈ ss, s.text ⊆ line := by
  obtain ⟨rest, hrest, rfl⟩ := Option.map_eq_some_iff.1 h
  intro s hs
  calc s.text
    _ ⊆ rest.trim := Span.text_subset_of_mem_ofText hs
    _ ⊆ rest := Text.trim_subset rest
    _ ⊆ line.trim := Text.subset_of_after? hrest
    _ ⊆ line := Text.trim_subset line

theorem subset_of_mem_items (h : ss ∈ items t) : ∀ s ∈ ss, s.text ⊆ t := by
  obtain ⟨line, hline, hitem⟩ := List.mem_filterMap.1 h
  exact fun s hs =>
    List.Subset.trans (subset_of_item? hitem s hs) (Text.subset_of_mem_lines hline)

end Points

namespace Paragraph

theorem subset_of_mem_piecesFrom (h : piece ∈ piecesFrom held t) : piece ⊆ held ++ t := by
  induction held, t using piecesFrom.induct with
  | case1 held =>
    rw [piecesFrom, List.mem_singleton] at h
    simp [h]
  | case2 held t ih =>
    rw [piecesFrom, List.mem_cons] at h
    rcases h with rfl | h
    · simp
    · have ht : t ⊆ '\n' :: '\n' :: t := fun c hc => by simp [hc]
      exact List.Subset.trans (ih h) (List.subset_append_of_subset_right held ht)
  | case3 held c t hpair ih =>
    rw [piecesFrom] at h
    · exact List.Subset.trans (ih h) List.perm_middle.symm.subset
    · exact hpair

theorem subset_of_mem_split (h : ss ∈ split t) : ∀ s ∈ ss, s.text ⊆ t := by
  obtain ⟨u, hu, rfl⟩ := List.mem_map.1 h
  obtain ⟨piece, hpiece, rfl⟩ := List.mem_map.1 (List.mem_filter.1 hu).1
  intro s hs
  calc s.text
    _ ⊆ piece.trim := Span.text_subset_of_mem_ofText hs
    _ ⊆ piece := Text.trim_subset piece
    _ ⊆ t := subset_of_mem_piecesFrom hpiece

end Paragraph

end LessonText

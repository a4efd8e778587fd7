import LessonText.Proofs.Markup.Segment
import LessonText.Proofs.Text.Characters

namespace LessonText

variable {t u w : Text} {c : Char}

theorem Marker.subset_of_ofText? {m : Marker} (h : ofText? t = some m) :
    ∀ w ∈ m.headline, w ⊆ t := by
  obtain ⟨k, -, hk⟩ := List.exists_of_findSome?_eq_some h
  obtain ⟨rest, hrest, rfl⟩ := Option.map_eq_some_iff.1 hk
  intro w hw
  dsimp only at hw
  obtain ⟨hw, -⟩ := Option.filter_eq_some_iff.1 hw
  rw [← Option.some.inj hw]
  exact List.Subset.trans (Text.trim_subset rest) (Text.subset_of_after? hrest)

theorem Fence.subset_of_ofText? {f : Fence} (h : ofText? t = some f) :
    ∀ w ∈ f.language, w ⊆ t := by
  obtain ⟨rest, hrest, rfl⟩ := Option.map_eq_some_iff.1 h
  intro w hw
  exact List.Subset.trans (Text.subset_of_firstWord? hw) (Text.subset_of_after? hrest)

namespace Line

theorem subset_of_marker {m : Marker} (h : ofText u = .marker m) : ∀ w ∈ m.headline, w ⊆ u := by
  intro w hw
  rw [ofText] at h
  split at h
  next n _ hm =>
    injection h with h
    rw [h] at hm
    exact List.Subset.trans (Marker.subset_of_ofText? hm w hw) (Text.trim_subset u)
  next => contradiction
  next => contradiction

theorem subset_of_fence {f : Fence} (h : ofText u = .fence f) : ∀ w ∈ f.language, w ⊆ u := by
  intro w hw
  rw [ofText] at h
  split at h
  next => contradiction
  next n _ hf =>
    injection h with h
    rw [h] at hf
    exact List.Subset.trans (Fence.subset_of_ofText? hf w hw) (Text.trim_subset u)
  next => contradiction

theorem eq_of_content (h : ofText u = .content w) : w = u := by
  rw [ofText] at h
  split at h
  next => contradiction
  next => contradiction
  next =>
    injection h with h
    exact h.symm

end Line

namespace Segment

theorem lines_subset {ls : List Line} {s : Segment} (h : s ∈ cut ls) : s.lines ⊆ ls := by
  intro l hl
  rw [← takeWhile_append_cut ls]
  exact List.mem_append_right _ (List.mem_flatMap.2 ⟨s, h, hl⟩)

theorem exists_line {s : Segment} {l : Line} (h : s ∈ cut (t.lines.map Line.ofText))
    (hl : l ∈ s.lines) : ∃ u ∈ t.lines, Line.ofText u = l :=
  List.mem_map.1 (lines_subset h hl)

theorem text_subset {s : Segment} (h : s ∈ cut (t.lines.map Line.ofText)) :
    ∀ w ∈ s.texts, w ⊆ t := by
  intro w hw
  rcases List.mem_append.1 hw with hw | hw
  · obtain ⟨u, hut, hu⟩ := exists_line h (l := .marker s.marker) List.mem_cons_self
    have hheadline : w ∈ s.marker.headline := by simpa using hw
    exact List.Subset.trans (Line.subset_of_marker hu w hheadline) (Text.subset_of_mem_lines hut)
  · obtain ⟨l, hl, hlw⟩ := List.mem_filterMap.1 hw
    obtain ⟨u, hut, hu⟩ := exists_line h (List.mem_cons_of_mem _ hl)
    cases l with
    | marker m => contradiction
    | fence f => contradiction
    | content v =>
      rw [Line.eq_of_content hu] at hlw
      rw [← Option.some.inj hlw]
      exact Text.subset_of_mem_lines hut

theorem language_subset {s : Segment} (h : s ∈ cut (t.lines.map Line.ofText)) :
    ∀ w ∈ s.language?, w ⊆ t := by
  intro w hw
  obtain ⟨l, hl, hlw⟩ := List.exists_of_findSome?_eq_some hw
  obtain ⟨u, hut, hu⟩ := exists_line h (List.mem_cons_of_mem _ hl)
  cases l with
  | marker m => contradiction
  | fence f =>
    exact List.Subset.trans (Line.subset_of_fence hu w hlw) (Text.subset_of_mem_lines hut)
  | content v => contradiction

end Segment

namespace Lesson

variable {b : Block}

theorem ofText_eq_filterMap (t : Text) :
    ofText t = (Segment.cut (t.lines.map Line.ofText)).filterMap Segment.block? :=
  Builder.finish_pushAll _

theorem exists_segment (h : b ∈ ofText t) :
    ∃ s ∈ Segment.cut (t.lines.map Line.ofText), b = s.block := by
  rw [ofText_eq_filterMap] at h
  obtain ⟨s, hs, hb⟩ := List.mem_filterMap.1 h
  exact ⟨s, hs, (Segment.block?_eq_some_iff.1 hb).2⟩

theorem not_mem_text (hc : c ≠ '\n') (ht : c ∉ t) (hb : b ∈ ofText t) : c ∉ b.text := by
  obtain ⟨s, hs, rfl⟩ := exists_segment hb
  have hlines : c ∉ Text.unlines s.texts :=
    Text.not_mem_unlines hc fun w hw hcw => ht (Segment.text_subset hs w hw hcw)
  rw [Segment.text_block]
  exact fun h => hlines (Text.trim_subset _ h)

theorem not_mem_language (hc : c ∉ Fence.defaultLanguage) (ht : c ∉ t) (hb : b ∈ ofText t) :
    ∀ w ∈ b.language?, c ∉ w := by
  intro w hw
  obtain ⟨s, hs, rfl⟩ := exists_segment hb
  rw [Segment.language?_block] at hw
  split at hw
  next =>
    rw [← Option.some.inj hw]
    cases hl : s.language? with
    | none => exact hc
    | some v => exact fun h => ht (Segment.language_subset hs v hl h)
  next => contradiction

end Lesson

end LessonText

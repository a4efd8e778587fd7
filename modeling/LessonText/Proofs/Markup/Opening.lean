import Mathlib.Data.List.Infix
import LessonText.Proofs.Markup.Characters
import LessonText.Proofs.Markup.Joining

namespace LessonText

namespace Kind

variable {k : Kind} {remark h : Text}

theorem headline?_eq_some_iff :
    k.headline? remark = some h ↔ k.takesHeadline ∧ remark.isBlank = false ∧ remark.trim = h := by
  rw [headline?]
  cases k.takesHeadline <;> cases remark.isBlank <;> simp

theorem headline?_isSome_iff :
    (k.headline? remark).isSome ↔ k.takesHeadline ∧ remark.isBlank = false := by
  simp [Option.isSome_iff_exists, headline?_eq_some_iff]

end Kind

namespace Line

variable {l u rest : Text} {k : Kind} {m : Marker}

theorem ofText_of_trim_eq (h : l.trim = k.marker ++ rest) :
    ofText l = .marker ⟨k, k.headline? rest⟩ := by
  rw [ofText, h, Marker.ofText?_append, k.headline?_eq_filter]

theorem exists_of_marker (h : ofText l = .marker m) :
    ∃ k rest, l.trim = k.marker ++ rest ∧ m = ⟨k, k.headline? rest⟩ := by
  obtain ⟨k, -, hl⟩ := isMarker_ofText_iff.1 (by rw [h]; rfl)
  obtain ⟨rest, hrest⟩ := Option.isSome_iff_exists.1 hl
  have htrim := Text.after?_eq_some_iff.1 hrest
  rw [ofText_of_trim_eq htrim] at h
  injection h with h
  exact ⟨k, rest, htrim, h.symm⟩

def IsFence (l : Text) : Prop :=
  l.trim.startsWith Fence.mark

instance : DecidablePred IsFence :=
  fun l => inferInstanceAs (Decidable (l.trim.startsWith Fence.mark = true))

theorem content?_ofText_isSome_iff (h : IsUnmarked u) :
    (ofText u).content?.isSome ↔ ¬IsFence u := by
  by_cases hf : IsFence u
  · obtain ⟨r, hr⟩ := Option.isSome_iff_exists.1 hf
    rw [ofText, Marker.ofText?_eq_none_iff.2 h, Fence.ofText?, hr]
    simp [content?, hf]
  · rw [ofText, Marker.ofText?_eq_none_iff.2 h,
      Fence.ofText?_eq_none_iff.2 (Bool.eq_false_iff.2 hf)]
    simp [content?, hf]

theorem exists_content_iff {ls : List Text} (h : ∀ u ∈ ls, IsUnmarked u) :
    (∃ l ∈ ls.map ofText, l.content?.isSome) ↔ ∃ u ∈ ls, ¬IsFence u := by
  constructor
  · rintro ⟨_, hl, hcontent⟩
    obtain ⟨u, hu, rfl⟩ := List.mem_map.1 hl
    exact ⟨u, hu, (content?_ofText_isSome_iff (h u hu)).1 hcontent⟩
  · rintro ⟨u, hu, hfence⟩
    exact ⟨ofText u, List.mem_map_of_mem hu, (content?_ofText_isSome_iff (h u hu)).2 hfence⟩

end Line

namespace Segment

theorem texts_ne_nil_iff {s : Segment} :
    s.texts ≠ [] ↔ s.marker.headline.isSome ∨ ∃ l ∈ s.body, l.content?.isSome := by
  rw [texts, ne_eq, List.append_eq_nil_iff, not_and_or]
  apply or_congr
  · cases s.marker.headline <;> simp
  · rw [List.filterMap_eq_nil_iff]
    simp [Option.isSome_iff_ne_none]

theorem isSome_block?_iff {s : Segment} : s.block?.isSome ↔ s.texts ≠ [] := by
  cases h : s.texts <;> simp [block?, h]

theorem takeWhile_map_ofText (ls : List Text) :
    (ls.map Line.ofText).takeWhile (!·.isMarker) =
      (ls.takeWhile (Line.IsUnmarked ·)).map Line.ofText := by
  have hp : (fun l => !l.isMarker) ∘ Line.ofText = fun u => decide (Line.IsUnmarked u) := by
    funext u
    rw [Function.comp_apply, Bool.eq_iff_iff, Bool.not_eq_true', decide_eq_true_iff,
      ← Line.not_isMarked_iff, ← Line.isMarker_ofText_iff, Bool.not_eq_true]
  rw [List.takeWhile_map, hp]

end Segment

/-- Whether the first of these lines is a marker's and there is text for its block: on that line,
for the kinds that take it, or on a line before the next marker's that is no fence. -/
def OpensBlock : List Text → Prop
  | [] => False
  | l :: ls => ∃ k ∈ Kind.all, ∃ rest ∈ Text.after? k.marker l.trim,
      (k.takesHeadline ∧ rest.isBlank = false) ∨
        ∃ u ∈ ls.takeWhile (Line.IsUnmarked ·), ¬Line.IsFence u

instance : DecidablePred OpensBlock
  | [] => inferInstanceAs (Decidable False)
  | l :: ls => inferInstanceAs (Decidable (∃ k ∈ Kind.all, ∃ rest ∈ Text.after? k.marker l.trim,
      (k.takesHeadline ∧ rest.isBlank = false) ∨
        ∃ u ∈ ls.takeWhile (Line.IsUnmarked ·), ¬Line.IsFence u))

namespace OpensBlock

variable {l : Text} {ls : List Text} {m : Marker}

theorem isMarked (h : OpensBlock (l :: ls)) : Line.IsMarked l := by
  obtain ⟨k, hk, rest, hrest, -⟩ := h
  refine ⟨k, hk, ?_⟩
  rw [Text.startsWith, Option.mem_def.1 hrest]
  rfl

theorem iff_texts_ne_nil (hm : Line.ofText l = .marker m) :
    OpensBlock (l :: ls) ↔
      Segment.texts ⟨m, (ls.takeWhile (Line.IsUnmarked ·)).map Line.ofText⟩ ≠ [] := by
  have hkind (k : Kind) (rest : Text) (h : l.trim = k.marker ++ rest) :
      m.headline.isSome ↔ k.takesHeadline ∧ rest.isBlank = false := by
    rw [Line.ofText_of_trim_eq h] at hm
    injection hm with hm
    rw [← hm, Kind.headline?_isSome_iff]
  have hunmarked : ∀ u ∈ ls.takeWhile (Line.IsUnmarked ·), Line.IsUnmarked u := by
    intro u hu
    simpa using List.mem_takeWhile_imp hu
  rw [Segment.texts_ne_nil_iff, Line.exists_content_iff hunmarked]
  constructor
  · rintro ⟨k, -, rest, hrest, h⟩
    rwa [hkind k rest (Text.after?_eq_some_iff.1 hrest)]
  · obtain ⟨k, rest, hrest, -⟩ := Line.exists_of_marker hm
    rw [hkind k rest hrest]
    exact fun h => ⟨k, k.mem_all, rest, Text.after?_eq_some_iff.2 hrest, h⟩

end OpensBlock

namespace Lesson

variable {l : Text}

def ofLines (ls : List Text) : Lesson :=
  (Segment.cut (ls.map Line.ofText)).filterMap Segment.block?

theorem ofText_eq_ofLines (t : Text) : ofText t = ofLines t.lines :=
  ofText_eq_filterMap t

theorem ofLines_cons_of_isUnmarked (h : Line.IsUnmarked l) (ls : List Text) :
    ofLines (l :: ls) = ofLines ls := by
  have hskip : ∀ k ∈ [Line.ofText l], k.isMarker = false := by
    simpa using Line.isMarker_ofText h
  rw [ofLines, ofLines, List.map_cons, ← List.singleton_append, Segment.cut_append hskip]

theorem ofLines_cons_of_marker {m : Marker} (h : Line.ofText l = .marker m) (ls : List Text) :
    ofLines (l :: ls) =
      (Segment.block? ⟨m, (ls.takeWhile (Line.IsUnmarked ·)).map Line.ofText⟩).toList ++
        ofLines ls := by
  rw [ofLines, ofLines, List.map_cons, h, Segment.filterMap_block?_cut,
    Segment.takeWhile_map_ofText]

theorem length_ofLines (ls : List Text) :
    (ofLines ls).length = ls.tails.countP (OpensBlock ·) := by
  induction ls with
  | nil => rfl
  | cons l ls ih =>
    rw [List.tails_cons, List.countP_cons, ← ih]
    by_cases hl : Line.IsMarked l
    · obtain ⟨m, hm⟩ := Line.exists_marker_of_isMarked hl
      have hopens : OpensBlock (l :: ls) ↔ _ := OpensBlock.iff_texts_ne_nil hm
      rw [← Segment.isSome_block?_iff] at hopens
      rw [ofLines_cons_of_marker hm, List.length_append, Nat.add_comm]
      cases hb : Segment.block? ⟨m, (ls.takeWhile (Line.IsUnmarked ·)).map Line.ofText⟩ <;>
        simp [hopens, hb]
    · have hclosed : ¬OpensBlock (l :: ls) := fun h => hl h.isMarked
      rw [ofLines_cons_of_isUnmarked (Line.not_isMarked_iff.1 hl)]
      simp [hclosed]

theorem length_ofText (t : Text) : (ofText t).length = t.lines.tails.countP (OpensBlock ·) := by
  rw [ofText_eq_ofLines, length_ofLines]

end Lesson

end LessonText

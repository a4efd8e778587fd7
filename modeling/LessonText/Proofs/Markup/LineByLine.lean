import LessonText.Proofs.Markup.LineStarts

namespace LessonText

namespace Line

variable {l : Text}

theorem ofText_of_marks_eq_nil (h : marks l = []) : ofText l = .content l := by
  obtain ⟨hmarker, hfence⟩ := marks_eq_nil_iff.1 h
  rw [ofText, Marker.ofText?_eq_none_iff.2 hmarker, Fence.ofText?_eq_none_iff.2 hfence]

theorem not_isMarked_of_marks_eq_nil (h : marks l = []) : ¬IsMarked l :=
  not_isMarked_iff.2 (marks_eq_nil_iff.1 h).1

end Line

namespace Lesson

variable {as bs cs ls : List Text} {l t u r : Text} {k : Kind}

theorem ofLines_append (hl : Line.IsMarked l) (as bs : List Text) :
    ofLines (as ++ l :: bs) = ofLines as ++ ofLines (l :: bs) := by
  obtain ⟨m, hm⟩ := Line.exists_marker_of_isMarked hl
  simp only [ofLines, ← Builder.finish_pushAll, List.map_append, List.map_cons, hm,
    Builder.pushAll_append]
  exact Builder.finish_pushAll_marker _ m _

theorem ofLines_flatMap {α : Type} {f : α → List Text} {xs : List α}
    (h : ∀ x ∈ xs, ∃ l ls, f x = l :: ls ∧ Line.IsMarked l) :
    ofLines (xs.flatMap f) = xs.flatMap fun x => ofLines (f x) := by
  induction xs using List.reverseRecOn with
  | nil => rfl
  | append_singleton xs x ih =>
    rw [List.forall_mem_append, List.forall_mem_singleton] at h
    obtain ⟨hxs, l, ls, hf, hl⟩ := h
    rw [List.flatMap_append, List.flatMap_append, List.flatMap_singleton, List.flatMap_singleton,
      hf, ofLines_append hl, ih hxs]

theorem ofLines_eq_nil (h : ∀ l ∈ ls, Line.IsUnmarked l) : ofLines ls = [] := by
  induction ls with
  | nil => rfl
  | cons l ls ih =>
    rw [List.forall_mem_cons] at h
    rw [ofLines_cons_of_isUnmarked h.1, ih h.2]

theorem ofLines_marker_cons {m : Marker} (hm : Line.ofText l = .marker m)
    (h : ∀ l ∈ ls, Line.IsUnmarked l) :
    ofLines (l :: ls) = (Segment.block? ⟨m, ls.map Line.ofText⟩).toList := by
  have htake : ls.takeWhile (Line.IsUnmarked ·) = ls := by
    rw [List.takeWhile_eq_self_iff]
    exact fun l hl => decide_eq_true (h l hl)
  rw [ofLines_cons_of_marker hm, htake, ofLines_eq_nil h, List.append_nil]

theorem ofLines_cons_ne_nil {m : Marker} (hm : Line.ofText l = .marker m)
    (h : m.headline.isSome ∨
      ∃ u ∈ ls.takeWhile (Line.IsUnmarked ·), (Line.ofText u).content?.isSome) :
    ofLines (l :: ls) ≠ [] := by
  have hsome : Segment.block?
      ⟨m, (ls.takeWhile (Line.IsUnmarked ·)).map Line.ofText⟩ |>.isSome := by
    rw [Segment.isSome_block?_iff, Segment.texts_ne_nil_iff]
    refine h.imp_right ?_
    rintro ⟨u, hu, hcontent⟩
    exact ⟨_, List.mem_map_of_mem hu, hcontent⟩
  obtain ⟨b, hb⟩ := Option.isSome_iff_exists.1 hsome
  rw [ofLines_cons_of_marker hm, hb]
  exact List.append_ne_nil_of_left_ne_nil (List.cons_ne_nil b []) _

theorem ofLines_ne_nil (has : ∃ l ∈ as, Line.IsMarked l) (ht : Line.marks t = [])
    (bs : List Text) : ofLines (as ++ t :: bs) ≠ [] := by
  induction as with
  | nil => simp at has
  | cons a as ih =>
    rw [List.cons_append]
    by_cases htail : ∃ l ∈ as, Line.IsMarked l
    · -- The last marker above the content is what takes it.
      by_cases ha : Line.IsMarked a
      · obtain ⟨m, hm⟩ := Line.exists_marker_of_isMarked ha
        rw [ofLines_cons_of_marker hm]
        exact List.append_ne_nil_of_right_ne_nil _ (ih htail)
      · rw [ofLines_cons_of_isUnmarked (Line.not_isMarked_iff.1 ha)]
        exact ih htail
    · have ha : Line.IsMarked a := by simpa [htail] using has
      have hfree : ∀ l ∈ as, Line.IsUnmarked l := fun l hl =>
        Line.not_isMarked_iff.1 fun hl' => htail ⟨l, hl, hl'⟩
      have hcontent : (Line.ofText t).content?.isSome := by
        rw [Line.ofText_of_marks_eq_nil ht]
        rfl
      have hmem : t ∈ (as ++ t :: bs).takeWhile (Line.IsUnmarked ·) := by
        rw [List.takeWhile_append_of_pos fun l hl => decide_eq_true (hfree l hl),
          List.takeWhile_cons_of_pos]
        · exact List.mem_append_right _ List.mem_cons_self
        · exact decide_eq_true (Line.not_isMarked_iff.1 (Line.not_isMarked_of_marks_eq_nil ht))
      obtain ⟨m, hm⟩ := Line.exists_marker_of_isMarked ha
      exact ofLines_cons_ne_nil hm (.inr ⟨t, hmem, hcontent⟩)

theorem two_le_length_ofLines (has : ∃ l ∈ as, Line.IsMarked l) (ht : Line.marks t = [])
    (hbs : ∃ l ∈ bs, Line.IsMarked l) (hu : Line.marks u = []) (cs : List Text) :
    2 ≤ (ofLines (as ++ t :: (bs ++ u :: cs))).length := by
  obtain ⟨l, hl, hmarked⟩ := hbs
  obtain ⟨bs₁, bs₂, rfl⟩ := List.append_of_mem hl
  have hsplit : as ++ t :: (bs₁ ++ l :: bs₂ ++ u :: cs) =
      (as ++ t :: bs₁) ++ l :: (bs₂ ++ u :: cs) := by simp
  have hfirst := List.length_pos_iff.2 (ofLines_ne_nil has ht bs₁)
  have hsecond : 0 < (ofLines (l :: bs₂ ++ u :: cs)).length :=
    List.length_pos_iff.2 (ofLines_ne_nil ⟨l, List.mem_cons_self, hmarked⟩ hu cs)
  rw [List.cons_append] at hsecond
  rw [hsplit, ofLines_append hmarked, List.length_append]
  omega

end Lesson

end LessonText

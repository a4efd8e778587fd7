import LessonText.Proofs.Markup.Opening

namespace LessonText

variable {t : Text}

namespace Text

variable {h : Text}

theorem head?_unlines_cons (hne : h ≠ []) (ws : List Text) :
    (unlines (h :: ws)).head? = h.head? := by
  rcases Decidable.em (ws = []) with rfl | hws
  · simp [unlines]
  · rw [unlines_cons_of_ne_nil h hws, List.head?_append_of_ne_nil h hne]

theorem map_trim_lines_trim_unlines_cons (hne : h ≠ []) (htrim : h.trim = h) (ws : List Text) :
    (lines (unlines (h :: ws)).trim).map trim <+: (lines (unlines (h :: ws))).map trim := by
  have hstart : (unlines (h :: ws)).trimStart = unlines (h :: ws) := by
    apply trimStart_of_head?
    rw [head?_unlines_cons hne]
    exact any_head?_of_trim_eq htrim
  rw [trim, hstart]
  exact map_trim_lines_trimEnd _

end Text

namespace Line

variable {l u w : Text}

theorem isFence_congr (h : l.trim = u.trim) : IsFence l ↔ IsFence u := by
  rw [IsFence, IsFence, h]

theorem not_isFence_of_content (h : ofText l = .content w) : ¬IsFence l := by
  have hunmarked : IsUnmarked l := by
    rw [← not_isMarked_iff, ← isMarker_ofText_iff, h]
    simp
  exact (content?_ofText_isSome_iff hunmarked).1 (by rw [h]; rfl)

theorem isBlank_eq_false_of_isFence (h : IsFence l) : l.isBlank = false := by
  rw [Bool.eq_false_iff]
  intro hb
  rw [IsFence, Text.trim_eq_nil_iff.2 hb] at h
  contradiction

end Line

namespace Segment

variable {s : Segment} {h w : Text}

theorem exists_mem_cut {m : Marker} {ls : List Line} (hm : .marker m ∈ ls) :
    ∃ s ∈ cut ls, s.marker = m := by
  induction ls with
  | nil => contradiction
  | cons l ls ih =>
    cases l with
    | marker n =>
      rcases List.mem_cons.1 hm with hn | hm
      · injection hn with hn
        exact ⟨_, List.mem_cons_self, hn.symm⟩
      · obtain ⟨s, hs, hsm⟩ := ih hm
        exact ⟨s, List.mem_cons_of_mem _ hs, hsm⟩
    | fence f => exact ih (by simpa using hm)
    | content w => exact ih (by simpa using hm)

variable (hs : s ∈ cut (t.lines.map Line.ofText))
include hs

theorem of_mem_body (hw : w ∈ s.body.filterMap Line.content?) : w ∈ t.lines ∧ ¬Line.IsFence w := by
  obtain ⟨l, hl, hlw⟩ := List.mem_filterMap.1 hw
  obtain ⟨u, hu, rfl⟩ := exists_line hs (List.mem_cons_of_mem _ hl)
  cases hc : Line.ofText u with
  | marker m => simp [hc, Line.content?] at hlw
  | fence f => simp [hc, Line.content?] at hlw
  | content v =>
    rw [hc] at hlw
    obtain rfl : v = w := Option.some.inj hlw
    obtain rfl : v = u := Line.eq_of_content hc
    exact ⟨hu, Line.not_isFence_of_content hc⟩

theorem of_headline (hh : s.marker.headline = some h) :
    ∃ u ∈ t.lines, ∃ rest, u.trim = s.marker.kind.marker ++ rest ∧ s.marker.kind.takesHeadline ∧
      rest.isBlank = false ∧ rest.trim = h := by
  obtain ⟨u, hu, hm⟩ := exists_line hs (l := .marker s.marker) List.mem_cons_self
  obtain ⟨k, rest, htrim, hk⟩ := Line.exists_of_marker hm
  rw [hk] at hh ⊢
  exact ⟨u, hu, rest, htrim, Kind.headline?_eq_some_iff.1 hh⟩

theorem lineFeed_not_mem_texts : ∀ w ∈ s.texts, '\n' ∉ w := by
  intro w hw
  rcases List.mem_append.1 hw with hw | hw
  · obtain ⟨u, hu, rest, htrim, -, -, rfl⟩ := of_headline hs (by simpa using hw : _ = some w)
    intro hfeed
    have hmem : '\n' ∈ u.trim := by
      rw [htrim]
      exact List.mem_append_right _ (Text.trim_subset rest hfeed)
    exact Text.lineFeed_not_mem_of_mem_lines hu (Text.trim_subset u hmem)
  · exact Text.lineFeed_not_mem_of_mem_lines (of_mem_body hs hw).1

theorem lines_unlines_texts (hne : s.texts ≠ []) : Text.lines (Text.unlines s.texts) = s.texts :=
  Text.lines_unlines (lineFeed_not_mem_texts hs) hne

theorem not_isFence_of_headline_eq_none (hne : s.texts ≠ []) (hh : s.marker.headline = none) :
    ∀ l ∈ s.block.text.lines, ¬Line.IsFence l := by
  intro l hl
  have hmiddle := Text.map_trim_lines_trim (Text.unlines s.texts)
  rw [lines_unlines_texts hs hne, ← text_block] at hmiddle
  obtain ⟨w, hw, htrim⟩ := List.mem_map.1 (hmiddle.subset (List.mem_map_of_mem hl))
  have hbody : w ∈ s.body.filterMap Line.content? := by simpa [texts, hh] using hw
  rw [← Line.isFence_congr htrim]
  exact (of_mem_body hs hbody).2

theorem exists_lines_of_headline_eq_some (hh : s.marker.headline = some h) :
    ∃ l ls, s.block.text.lines = l :: ls ∧ l.trim = h ∧ ∀ k ∈ ls, ¬Line.IsFence k := by
  obtain ⟨u, hu, rest, -, -, hrest, rfl⟩ := of_headline hs hh
  have htexts : s.texts = rest.trim :: s.body.filterMap Line.content? := by simp [texts, hh]
  have hne : rest.trim ≠ [] := by
    rw [ne_eq, Text.trim_eq_nil_iff, hrest]
    decide
  have hfront := Text.map_trim_lines_trim_unlines_cons hne (Text.trim_trim rest)
    (s.body.filterMap Line.content?)
  rw [← htexts, lines_unlines_texts hs (by simp [htexts]), ← text_block] at hfront
  obtain ⟨l, ls, hl⟩ := Text.exists_lines_eq_cons s.block.text
  rw [hl, htexts, List.map_cons, List.map_cons, List.cons_prefix_cons, Text.trim_trim] at hfront
  refine ⟨l, ls, hl, hfront.1, fun k hk => ?_⟩
  obtain ⟨w, hw, htrim⟩ := List.mem_map.1 (hfront.2.subset (List.mem_map_of_mem hk))
  rw [← Line.isFence_congr htrim]
  exact (of_mem_body hs hw).2

end Segment

namespace Lesson

variable {b : Block}

theorem mem_ofText_iff : b ∈ ofText t ↔
    ∃ s ∈ Segment.cut (t.lines.map Line.ofText), s.texts ≠ [] ∧ b = s.block := by
  simp only [ofText_eq_filterMap, List.mem_filterMap, Segment.block?_eq_some_iff]

theorem not_isFence_of_mem_tail (hb : b ∈ ofText t) :
    ∀ l ∈ b.text.lines.tail, ¬Line.IsFence l := by
  obtain ⟨s, hs, hne, rfl⟩ := mem_ofText_iff.1 hb
  intro l hl
  cases hh : s.marker.headline with
  | none => exact Segment.not_isFence_of_headline_eq_none hs hne hh l (List.mem_of_mem_tail hl)
  | some h =>
    obtain ⟨k, ks, hlines, -, hks⟩ := Segment.exists_lines_of_headline_eq_some hs hh
    rw [hlines] at hl
    exact hks l hl

theorem not_isFence_of_takesHeadline_eq_false (hb : b ∈ ofText t)
    (hk : b.kind.takesHeadline = false) : ∀ l ∈ b.text.lines, ¬Line.IsFence l := by
  obtain ⟨s, hs, hne, rfl⟩ := mem_ofText_iff.1 hb
  rw [Segment.kind_block] at hk
  apply Segment.not_isFence_of_headline_eq_none hs hne
  rw [Option.eq_none_iff_forall_ne_some]
  intro h hh
  obtain ⟨-, -, -, -, htakes, -⟩ := Segment.of_headline hs hh
  rw [hk] at htakes
  contradiction

theorem exists_headline_of_isFence (hb : b ∈ ofText t) {l : Text} (hl : l ∈ b.text.lines)
    (hf : Line.IsFence l) : ∃ u ∈ t.lines, ∃ k ∈ Kind.all, ∃ rest ∈ Text.after? k.marker u.trim,
      k.takesHeadline ∧ Line.IsFence rest := by
  obtain ⟨s, hs, hne, rfl⟩ := mem_ofText_iff.1 hb
  cases hh : s.marker.headline with
  | none => exact absurd hf (Segment.not_isFence_of_headline_eq_none hs hne hh l hl)
  | some h =>
    obtain ⟨k, ks, hlines, hk, hks⟩ := Segment.exists_lines_of_headline_eq_some hs hh
    obtain ⟨u, hu, rest, htrim, htakes, -, rfl⟩ := Segment.of_headline hs hh
    rw [hlines] at hl
    rcases List.mem_cons.1 hl with rfl | hl
    · refine ⟨u, hu, s.marker.kind, s.marker.kind.mem_all, rest,
        Text.after?_eq_some_iff.2 htrim, htakes, ?_⟩
      exact (Line.isFence_congr hk).1 hf
    · exact absurd hf (hks l hl)

theorem exists_isFence_of_headline {u rest : Text} {k : Kind} (hu : u ∈ t.lines)
    (htrim : u.trim = k.marker ++ rest) (htakes : k.takesHeadline) (hf : Line.IsFence rest) :
    ∃ b ∈ ofText t, ∃ l ∈ b.text.lines, Line.IsFence l := by
  have hm : Line.marker ⟨k, k.headline? rest⟩ ∈ t.lines.map Line.ofText :=
    List.mem_map.2 ⟨u, hu, Line.ofText_of_trim_eq htrim⟩
  obtain ⟨s, hs, hsm⟩ := Segment.exists_mem_cut hm
  have hh : s.marker.headline = some rest.trim := by
    rw [hsm]
    exact Kind.headline?_eq_some_iff.2 ⟨htakes, Line.isBlank_eq_false_of_isFence hf, rfl⟩
  have hne : s.texts ≠ [] := Segment.texts_ne_nil_iff.2 (.inl (by simp [hh]))
  obtain ⟨l, ls, hlines, hl, -⟩ := Segment.exists_lines_of_headline_eq_some hs hh
  refine ⟨s.block, mem_ofText_iff.2 ⟨s, hs, hne, rfl⟩, l, ?_, (Line.isFence_congr hl).2 hf⟩
  rw [hlines]
  exact List.mem_cons_self

/-- Text that begins like a fence comes into a block only behind the marker of a title or heading,
whose first line it is then. No other line of any block begins so. -/
theorem isFence_text_iff_headline (t : Text) :
    (∀ b ∈ ofText t, (∀ l ∈ b.text.lines.tail, ¬Line.IsFence l) ∧
        (b.kind.takesHeadline = false → ∀ l ∈ b.text.lines, ¬Line.IsFence l)) ∧
      ((∃ b ∈ ofText t, ∃ l ∈ b.text.lines, Line.IsFence l) ↔
        ∃ u ∈ t.lines, ∃ k ∈ Kind.all, ∃ rest ∈ Text.after? k.marker u.trim,
          k.takesHeadline ∧ Line.IsFence rest) := by
  refine ⟨fun b hb => ⟨not_isFence_of_mem_tail hb, not_isFence_of_takesHeadline_eq_false hb⟩, ?_⟩
  constructor
  · rintro ⟨b, hb, l, hl, hf⟩
    exact exists_headline_of_isFence hb hl hf
  · rintro ⟨u, hu, k, -, rest, hrest, htakes, hf⟩
    exact exists_isFence_of_headline hu (Text.after?_eq_some_iff.1 hrest) htakes hf

theorem isFence_title :
    ¬∀ t, ∀ b ∈ ofText t, ∀ l ∈ b.text.lines, ¬Line.IsFence l := by
  intro h
  have hb : Block.prose .title "```" ∈ ofText "##TITLE## ```" := by decide +kernel
  exact h _ _ hb "```" (by decide) (by decide)

end Lesson

end LessonText

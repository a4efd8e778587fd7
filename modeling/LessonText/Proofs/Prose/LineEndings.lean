import LessonText.Proofs.Prose.Paragraphs
import LessonText.Proofs.Text.LineEndings

/-! Prose whose lines end with a carriage return. What is emphasized stays the same, but a line feed
with a return in front of it parts no paragraphs: such a text is all one paragraph. -/

namespace LessonText

namespace Span

open Text (after?)

variable {t gap rest : Text}

def addReturns : Span → Span
  | .plain t => .plain t.addReturns
  | .emphasized t => .emphasized t.addReturns

theorem text_addReturns (s : Span) : s.addReturns.text = s.text.addReturns := by
  cases s <;> rfl

theorem plainText_map_addReturns (spans : List Span) :
    plainText (spans.map addReturns) = (plainText spans).addReturns := by
  induction spans with
  | nil => rfl
  | cons s spans ih =>
    rw [List.map_cons, plainText, plainText, List.flatMap_cons, List.flatMap_cons,
      Text.addReturns_append, text_addReturns]
    exact congrArg (s.text.addReturns ++ ·) ih

theorem emphasis?_addReturns (t : Text) :
    emphasis? t.addReturns = (emphasis? t).map (Prod.map Text.addReturns Text.addReturns) := by
  have hafter : ∀ t, after? delimiter (Text.addReturns t) =
      (after? delimiter t).map Text.addReturns :=
    Text.after?_addReturns (by decide) (by decide)
  rw [emphasis?, emphasis?, hafter]
  cases after? delimiter t with
  | none => rfl
  | some r =>
    have hempty : ∀ u, (Text.addReturns u).isEmpty = u.isEmpty := by
      intro u
      rw [Bool.eq_iff_iff, List.isEmpty_iff, List.isEmpty_iff, Text.addReturns_eq_nil_iff]
    simp only [Option.map_some, Option.bind_some, hempty, hafter,
      Text.takeWhile_addReturns (p := (· != star)) rfl rfl,
      Text.dropWhile_addReturns (p := (· != star)) rfl rfl]
    split
    · rfl
    · rw [Option.map_map, Option.map_map]
      rfl

theorem isGap_addReturns (h : pattern.IsGap gap rest) :
    pattern.IsGap gap.addReturns rest.addReturns := by
  have hmatch (t : Text) : pattern.match? t.addReturns =
      (pattern.match? t).map (Prod.map Text.addReturns Text.addReturns) :=
    emphasis?_addReturns t
  have hplain {c : Char} (hc : c ≠ star) (t : Text) : pattern.match? (c :: t) = none :=
    emphasis?_eq_none (after?_delimiter_of_ne hc)
  induction gap with
  | nil =>
    refine .nil (h.stop.imp (congrArg Text.addReturns) ?_)
    rintro ⟨inner, r, hm⟩
    exact ⟨inner.addReturns, r.addReturns, by rw [hmatch, hm]; rfl⟩
  | cons c gap ih =>
    have htail := ih (h.suffix (List.suffix_cons c gap))
    rcases eq_or_ne c '\n' with rfl | hc
    · exact (htail.cons (hplain (by decide) _)).cons (hplain (by decide) _)
    · have hnone : pattern.match? (Text.addReturns (c :: (gap ++ rest))) = none := by
        rw [hmatch, h.match?_cons]
        rfl
      rw [Text.addReturns_cons hc, Text.addReturns_append] at hnone
      rw [Text.addReturns_cons hc]
      exact htail.cons hnone

theorem ofText_append_addReturns (h : pattern.IsGap gap rest)
    (hrest : ofText rest.addReturns = (ofText rest).map addReturns) :
    ofText (gap ++ rest).addReturns = (ofText (gap ++ rest)).map addReturns := by
  rw [Text.addReturns_append]
  by_cases hne : gap = []
  case pos => simpa [hne] using hrest
  case neg =>
    have hne' : gap.addReturns ≠ [] := mt Text.addReturns_eq_nil_iff.1 hne
    rw [ofText_append h hne, ofText_append (isGap_addReturns h) hne', hrest]
    rfl

theorem map_addReturns_ofText (t : Text) : (ofText t).map addReturns = ofText t.addReturns := by
  rw [eq_comm]
  induction t using Pattern.gap_induction (p := pattern) with
  | last gap h =>
    rw [← List.append_nil gap]
    exact ofText_append_addReturns h (by simp)
  | found gap rest inner r h hm ih =>
    have hread : emphasis? rest = some (inner, r) := hm
    have hread' : emphasis? rest.addReturns = some (inner.addReturns, r.addReturns) := by
      rw [emphasis?_addReturns, hread]
      rfl
    apply ofText_append_addReturns h
    rw [ofText_of_emphasis? hread, ofText_of_emphasis? hread', ih]
    rfl

end Span

namespace Paragraph

open Text (dropReturns)

variable {t m : Text}

theorem pieces_of_not_isInfix (h : ¬feeds <:+: t) : pieces t = [t] := by
  induction t using pieces_induction with
  | nil => rfl
  | pair t ih => exact absurd (List.prefix_append feeds t).isInfix h
  | cons c t hc ih =>
    rw [pieces_cons hc, ih fun ht => h (ht.trans (List.suffix_cons c t).isInfix),
      List.modifyHead_cons]

theorem not_feeds_isInfix_addReturns (t : Text) : ¬feeds <:+: t.addReturns := by
  have hhead (t : Text) : t.addReturns.head? ≠ some '\n' := by
    cases t with
    | nil => simp
    | cons c t => rcases eq_or_ne c '\n' with rfl | hc <;> simp [Text.addReturns_cons, *]
  have halone (c : Char) (t : Text) : ¬feeds <+: c :: t.addReturns := by
    rw [feeds_isPrefix_iff]
    rintro ⟨r, -, hr⟩
    exact hhead t (by rw [hr]; rfl)
  induction t with
  | nil => simp [feeds]
  | cons c t ih =>
    rcases eq_or_ne c '\n' with rfl | hc
    · rw [Text.addReturns_lineFeed, List.infix_cons_iff, List.infix_cons_iff, not_or, not_or]
      refine ⟨?_, halone '\n' t, ih⟩
      rw [feeds_isPrefix_iff]
      rintro ⟨r, hr, -⟩
      revert hr
      decide
    · rw [Text.addReturns_cons hc, List.infix_cons_iff, not_or]
      exact ⟨halone c t, ih⟩

theorem trimmed_singleton (t : Text) : trimmed [t] = if t.isBlank then [] else [t.trim] := by
  cases h : t.isBlank with
  | true => rw [trimmed_cons_of_isBlank h]; rfl
  | false => rw [trimmed_cons_of_not_isBlank h]; rfl

theorem split_addReturns (t : Text) : split t.addReturns =
    if t.isBlank then [] else [(Span.ofText t.trim).map Span.addReturns] := by
  have hblank : t.addReturns.isBlank = t.isBlank := by
    rw [Bool.eq_iff_iff, ← Text.trim_eq_nil_iff, ← Text.trim_eq_nil_iff, Text.trim_addReturns,
      Text.addReturns_eq_nil_iff]
  have hsplit : split t.addReturns = (trimmed (pieces t.addReturns)).map Span.ofText := rfl
  rw [hsplit, pieces_of_not_isInfix (not_feeds_isInfix_addReturns t), trimmed_singleton, hblank,
    Text.trim_addReturns, Span.map_addReturns_ofText]
  split <;> rfl

theorem IsWritten.trim_append_append {s w : Text} (hm : IsWritten m) (hs : s.isBlank)
    (hw : w.isBlank) : (s ++ (m ++ w)).trim = m := by
  rw [Text.trim, Text.trimStart_append_of_isBlank hs, ← Text.trim,
    Text.trim_append hm.ne_nil hm.head hm.last, Text.trimEnd_of_isBlank hw, List.append_nil]

theorem isBlank_of_trimmed_pieces (h : trimmed (pieces t) = []) : t.isBlank := by
  have hdivides := divides_trimmed_pieces t
  rw [h] at hdivides
  obtain ⟨front, laid, hmap, rfl, hs⟩ := hdivides.exists_spaced
  obtain rfl := List.map_eq_nil_iff.1 hmap
  rw [join_nil, List.append_nil]
  exact hs.isBlank_front

theorem eq_trim_of_trimmed_pieces (h : trimmed (pieces t) = [m]) :
    m = t.trim ∧ t.isBlank = false := by
  have hdivides := divides_trimmed_pieces t
  rw [h] at hdivides
  have hm : IsWritten m := hdivides.isWritten m List.mem_cons_self
  obtain ⟨front, laid, hmap, rfl, hs⟩ := hdivides.exists_spaced
  obtain ⟨⟨m, w⟩, rfl, rfl⟩ := List.map_eq_singleton_iff.1 hmap
  have hw : w.isBlank := hs.isBlank (m, w) List.mem_cons_self
  have htrim : (front ++ join [(m, w)]).trim = m := by
    rw [join_cons, join_nil, List.append_nil, hm.trim_append_append hs.isBlank_front hw]
  refine ⟨htrim.symm, ?_⟩
  rw [← Bool.not_eq_true, ← Text.trim_eq_nil_iff, htrim]
  exact hm.ne_nil

theorem split_of_length_le_one (h : (split t).length ≤ 1) :
    split t = if t.isBlank then [] else [Span.ofText t.trim] := by
  have hsplit : split t = (trimmed (pieces t)).map Span.ofText := rfl
  rw [hsplit, List.length_map] at h
  rw [hsplit]
  match hps : trimmed (pieces t), h with
  | [], _ => rw [if_pos (isBlank_of_trimmed_pieces hps)]; rfl
  | [m], _ =>
    obtain ⟨rfl, hblank⟩ := eq_trim_of_trimmed_pieces hps
    rw [hblank]
    rfl

theorem dropReturns_plainText_map_addReturns (h : '\r' ∉ t) :
    dropReturns (Span.plainText ((Span.ofText t).map Span.addReturns)) =
      Span.plainText (Span.ofText t) := by
  have hfree : '\r' ∉ Span.plainText (Span.ofText t) :=
    Span.not_mem_plainText fun s hs hr => h (Span.text_subset_of_mem_ofText hs hr)
  rw [Span.plainText_map_addReturns, Text.dropReturns_addReturns, Text.dropReturns_eq_self hfree]

/-- With a return at the end of each line a text is one paragraph, unless it is blank. So it has the
paragraphs that it has without, up to returns, only if nothing parts them there either. -/
theorem split_addReturns_iff_length_le_one (h : '\r' ∉ t) :
    split t.addReturns = (if t.isBlank then [] else [(Span.ofText t.trim).map Span.addReturns]) ∧
      ((split t.addReturns).map (fun p => dropReturns (Span.plainText p)) =
        (split t).map Span.plainText ↔ (split t).length ≤ 1) := by
  refine ⟨split_addReturns t, fun heq => ?_, fun hle => ?_⟩
  · have hlength := congrArg List.length heq
    rw [List.length_map, List.length_map, split_addReturns] at hlength
    rw [← hlength]
    split <;> simp
  · have hfree : '\r' ∉ t.trim := fun hr => h (Text.trim_subset t hr)
    rw [split_addReturns, split_of_length_le_one hle]
    split
    · rfl
    · exact congrArg (fun u => [u]) (dropReturns_plainText_map_addReturns hfree)

def sampleProse : Text :=
  "\n\n Loops **repeat\nthings**. \n\n\n"

theorem split_addReturns_iff_length_le_one_sampleProse :
    '\r' ∉ sampleProse ∧ (split sampleProse).length ≤ 1 ∧
      (split sampleProse.addReturns).map (fun p => dropReturns (Span.plainText p)) =
        (split sampleProse).map Span.plainText := by
  have hfree : '\r' ∉ sampleProse := by decide
  have hone : (split sampleProse).length ≤ 1 := by decide +kernel
  exact ⟨hfree, hone, (split_addReturns_iff_length_le_one hfree).2.2 hone⟩

theorem length_split_addReturns_twoParagraphs :
    '\r' ∉ "a\n\nb".toList ∧
      (split (Text.addReturns "a\n\nb")).length ≠ (split "a\n\nb").length := by
  decide +kernel

end Paragraph

end LessonText

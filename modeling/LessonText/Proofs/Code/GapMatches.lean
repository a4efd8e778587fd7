import LessonText.Proofs.Code.Annotating
import LessonText.Proofs.Code.Cuts
import LessonText.Proofs.Code.Occurrences
import LessonText.Proofs.Code.Ownership

/-! Matches in the text between two literals. The annotations of such a text are its matches,
listed in the order in which they are preferred, so its tokens follow them. -/

namespace LessonText

open Listing (annotate annotateWords annotateCalls annotateCallsFrom)
open OnePass (IsCalled)
open Annotation (owner resolve tags_resolve cutAt_resolve_iff)

/-- A match in the text between two literals, which is read without its surroundings: an occurrence
of a word of the lexicon, or a whole word that is called. -/
inductive GapMatch (lx : Lexicon) (gap : Text) : Match → Prop
  | keyword {n i j : Nat} {w : Text} (hw : lx.keywords[n]? = some w)
      (h : Lexicon.HitAt w gap i j) : GapMatch lx gap ⟨⟨i, j, .keyword⟩, n⟩
  | builtin {n i j : Nat} {w : Text} (hw : lx.builtins[n]? = some w)
      (h : Lexicon.HitAt w gap i j) : GapMatch lx gap ⟨⟨i, j, .builtin⟩, n⟩
  | call {x w r : Text} (ht : gap = x ++ (w ++ r)) (h : WholeWord x w r) (hr : IsCalled r) :
      GapMatch lx gap ⟨⟨x.length, x.length + w.length, .call⟩, 0⟩

namespace GapMatch

open Match (Owns Before Follows classAt)

variable {lx : Lexicon} {ws : List Text} {gap t : Text} {m : Match} {tag : Tag} {i j pos : Nat}

theorem tag_eq (h : GapMatch lx gap m) :
    m.tag = .keyword ∨ m.tag = .builtin ∨ m.tag = .call := by
  cases h <;> simp

theorem mono {lx' : Lexicon} (hk : lx.keywords ⊆ lx'.keywords) (hb : lx.builtins ⊆ lx'.builtins)
    (h : GapMatch lx gap m) : ∃ n, GapMatch lx' gap { m with entry := n } := by
  cases h with
  | keyword hw h =>
    obtain ⟨n, hn⟩ := List.mem_iff_getElem?.1 (hk (List.mem_of_getElem? hw))
    exact ⟨n, .keyword hn h⟩
  | builtin hw h =>
    obtain ⟨n, hn⟩ := List.mem_iff_getElem?.1 (hb (List.mem_of_getElem? hw))
    exact ⟨n, .builtin hn h⟩
  | call ht h hr => exact ⟨0, .call ht h hr⟩

theorem stop_le (h : GapMatch lx gap m) : m.stop ≤ gap.length := by
  cases h with
  | keyword hw h => exact h.le_length
  | builtin hw h => exact h.le_length
  | call ht h hr => simp [ht]

def ofWords (tag : Tag) (ws : List Text) (gap : Text) : List Match :=
  ws.zipIdx.flatMap fun wn =>
    (Lexicon.occurrences wn.1 gap).map fun i => ⟨⟨i, i + wn.1.length, tag⟩, wn.2⟩

def ofCalls (gap : Text) : List Match :=
  (annotateCalls gap).map (⟨·, 0⟩)

def list (lx : Lexicon) (gap : Text) : List Match :=
  ofWords .keyword lx.keywords gap ++ ofWords .builtin lx.builtins gap ++ ofCalls gap

theorem map_toAnnotation_ofWords (tag : Tag) (ws : List Text) (gap : Text) :
    (ofWords tag ws gap).map Match.toAnnotation = annotateWords tag ws gap := by
  have hfst (f : Text → List Annotation) :
      (ws.zipIdx.flatMap fun wn => f wn.1) = ws.flatMap f := by
    rw [← List.flatMap_map Prod.fst, List.zipIdx_map_fst]
  simp only [ofWords, annotateWords, List.map_flatMap, List.map_map, Function.comp_def]
  exact hfst fun w => (Lexicon.occurrences w gap).map fun i => ⟨i, i + w.length, tag⟩

theorem map_toAnnotation_list (lx : Lexicon) (gap : Text) :
    (list lx gap).map Match.toAnnotation = annotate lx gap := by
  simp only [list, annotate, List.map_append, map_toAnnotation_ofWords, ofCalls, List.map_map,
    Function.comp_def, List.map_id']

theorem mem_ofWords_iff :
    m ∈ ofWords tag ws gap ↔ ∃ w, ws[m.entry]? = some w ∧ m.start ∈ Lexicon.occurrences w gap ∧
      m.stop = m.start + w.length ∧ m.tag = tag := by
  obtain ⟨⟨start, stop, tag'⟩, entry⟩ := m
  simp only [ofWords, List.mem_flatMap, List.mem_map, Prod.exists, List.mk_mem_zipIdx_iff_getElem?]
  constructor
  · rintro ⟨w, n, hw, i, hi, heq⟩
    cases heq
    exact ⟨w, hw, hi, rfl, rfl⟩
  · rintro ⟨w, hw, hi, rfl, rfl⟩
    exact ⟨w, entry, hw, start, hi, rfl⟩

theorem ne_nil_of_covers {w : Text} (hstop : m.stop = m.start + w.length) (hc : m.covers i) :
    w ≠ [] := by
  rintro rfl
  have hlt := Match.covers_iff.1 hc
  simp only [List.length_nil] at hstop
  omega

theorem mem_ofWords_and_covers_iff : m ∈ ofWords tag ws gap ∧ m.covers i ↔
    (∃ w, ws[m.entry]? = some w ∧ Lexicon.HitAt w gap m.start m.stop ∧ m.tag = tag) ∧
      m.covers i := by
  rw [mem_ofWords_iff, and_congr_left_iff]
  intro hc
  refine exists_congr fun w => and_congr_right fun _ => ?_
  rw [← and_assoc, and_congr_left_iff]
  intro _
  constructor
  · rintro ⟨hi, hstop⟩
    rw [hstop]
    exact (Lexicon.mem_occurrences_iff_hitAt (ne_nil_of_covers hstop hc)).1 hi
  · intro hit
    have hne := ne_nil_of_covers hit.stop_eq hc
    refine ⟨(Lexicon.mem_occurrences_iff_hitAt hne).2 ?_, hit.stop_eq⟩
    rwa [← hit.stop_eq]

theorem mem_ofCalls_iff : m ∈ ofCalls gap ↔ ∃ x w r, gap = x ++ (w ++ r) ∧ WholeWord x w r ∧
    IsCalled r ∧ m = ⟨⟨x.length, x.length + w.length, .call⟩, 0⟩ := by
  simp only [ofCalls, List.mem_map, annotateCalls, Listing.mem_annotateCallsFrom, Nat.zero_add]
  constructor
  · rintro ⟨a, ⟨x, w, r, ht, hw, hr, rfl⟩, rfl⟩
    exact ⟨x, w, r, ht, hw, hr, rfl⟩
  · rintro ⟨x, w, r, ht, hw, hr, rfl⟩
    exact ⟨_, ⟨x, w, r, ht, hw, hr, rfl⟩, rfl⟩

theorem mem_list_and_covers_iff :
    m ∈ list lx gap ∧ m.covers i ↔ GapMatch lx gap m ∧ m.covers i := by
  simp only [list, List.mem_append, or_and_right, mem_ofWords_and_covers_iff, mem_ofCalls_iff]
  constructor
  · rintro ((⟨⟨w, hw, hit, htag⟩, hc⟩ | ⟨⟨w, hw, hit, htag⟩, hc⟩) | ⟨⟨x, w, r, ht, h, hr, rfl⟩, hc⟩)
    · obtain ⟨⟨start, stop, tag⟩, entry⟩ := m
      subst htag
      exact ⟨.keyword hw hit, hc⟩
    · obtain ⟨⟨start, stop, tag⟩, entry⟩ := m
      subst htag
      exact ⟨.builtin hw hit, hc⟩
    · exact ⟨.call ht h hr, hc⟩
  · rintro ⟨h, hc⟩
    cases h with
    | keyword hw h => exact .inl (.inl ⟨⟨_, hw, h, rfl⟩, hc⟩)
    | builtin hw h => exact .inl (.inr ⟨⟨_, hw, h, rfl⟩, hc⟩)
    | call ht h hr => exact .inr ⟨⟨_, _, _, ht, h, hr, rfl⟩, hc⟩

theorem pairwise_ofWords (tag : Tag) (ws : List Text) (gap : Text) :
    (ofWords tag ws gap).Pairwise Before := by
  rw [ofWords, List.pairwise_flatMap]
  constructor
  · intro wn _
    rw [List.pairwise_map]
    exact (Lexicon.pairwise_occurrences wn.1 gap).imp fun h => .inr ⟨rfl, .inr ⟨rfl, h.1⟩⟩
  · have hlt : ws.zipIdx.Pairwise fun wn wn' => wn.2 < wn'.2 := by
      rw [← List.pairwise_map, List.zipIdx_map_snd]
      exact List.pairwise_lt_range'
    refine hlt.imp fun {wn wn'} h m hm m' hm' => ?_
    obtain ⟨i, -, rfl⟩ := List.mem_map.1 hm
    obtain ⟨j, -, rfl⟩ := List.mem_map.1 hm'
    exact .inr ⟨rfl, .inl h⟩

theorem pairwise_annotateCallsFrom :
    (annotateCallsFrom pos t).Pairwise fun a b => a.start < b.start := by
  induction t using WholeWord.induction generalizing pos with
  | nil => simp [annotateCallsFrom]
  | word w t hw ih =>
    rw [Listing.annotateCallsFrom_append hw]
    split
    next =>
      refine List.pairwise_cons.2 ⟨fun b hb => ?_, ih⟩
      obtain ⟨x, w', r, -, -, -, rfl⟩ := Listing.mem_annotateCallsFrom.1 hb
      have := List.length_pos_iff.2 hw.ne_nil
      dsimp only
      omega
    next => exact ih
  | char c t hc ih =>
    rw [Listing.annotateCallsFrom_cons c t hc]
    exact ih

theorem tag_of_mem_ofWords (h : m ∈ ofWords tag ws gap) : m.tag = tag := by
  obtain ⟨w, -, -, -, htag⟩ := mem_ofWords_iff.1 h
  exact htag

theorem tag_of_mem_ofCalls (h : m ∈ ofCalls gap) : m.tag = .call := by
  obtain ⟨x, w, r, -, -, -, rfl⟩ := mem_ofCalls_iff.1 h
  rfl

theorem pairwise_list (lx : Lexicon) (gap : Text) : (list lx gap).Pairwise Before := by
  have hcalls : (ofCalls gap).Pairwise Before := by
    rw [ofCalls, List.pairwise_map]
    refine pairwise_annotateCallsFrom.imp_of_mem fun {a b} ha hb h => .inr ⟨?_, .inr ⟨rfl, h⟩⟩
    obtain ⟨_, _, _, -, -, -, rfl⟩ := Listing.mem_annotateCallsFrom.1 ha
    obtain ⟨_, _, _, -, -, -, rfl⟩ := Listing.mem_annotateCallsFrom.1 hb
    rfl
  rw [list, List.pairwise_append, List.pairwise_append]
  refine ⟨⟨pairwise_ofWords .., pairwise_ofWords .., fun m hm m' hm' => .inl ?_⟩, hcalls,
    fun m hm m' hm' => .inl ?_⟩
  · rw [tag_of_mem_ofWords hm, tag_of_mem_ofWords hm']
    decide
  · rw [tag_of_mem_ofCalls hm']
    rcases List.mem_append.1 hm with hm | hm
    · rw [tag_of_mem_ofWords hm]
      decide
    · rw [tag_of_mem_ofWords hm]
      decide

theorem exists_getElem?_list {o : Annotation.Placed} (h : owner (annotate lx gap) i = some o) :
    ∃ m, (list lx gap)[o.2]? = some m ∧ m.toAnnotation = o.1 ∧ Owns (GapMatch lx gap) i m := by
  have hown := Annotation.owns_of_owner h
  have hget := hown.getElem?
  rw [← map_toAnnotation_list, List.getElem?_map, Option.map_eq_some_iff] at hget
  obtain ⟨m, hm, ho⟩ := hget
  have hc : m.covers i := by
    rw [ho]
    exact hown.covers
  refine ⟨m, hm, ho, (mem_list_and_covers_iff.1 ⟨List.mem_of_getElem? hm, hc⟩).1, hc, ?_⟩
  intro m' hm' hc'
  obtain ⟨n, hn⟩ := List.mem_iff_getElem?.1 (mem_list_and_covers_iff.2 ⟨hm', hc'⟩).1
  have ha : (annotate lx gap)[n]? = some m'.toAnnotation := by
    rw [← map_toAnnotation_list, List.getElem?_map, hn, Option.map_some]
  rcases Nat.lt_or_eq_of_le (hown.rank_le ha hc') with hr | hr
  · rw [← ho] at hr
    exact .inr (.inl hr)
  · rcases Nat.lt_or_eq_of_le (hown.first ha hc' hr) with hlt | heq
    · obtain ⟨h₁, hm⟩ := List.getElem?_eq_some_iff.1 hm
      obtain ⟨h₂, hn⟩ := List.getElem?_eq_some_iff.1 hn
      have hb := List.pairwise_iff_getElem.1 (pairwise_list lx gap) o.2 n h₁ h₂ hlt
      rw [hm, hn] at hb
      exact .inr hb
    · rw [← heq, hm] at hn
      exact .inl (Option.some.inj hn).symm

theorem not_covers_of_owner_eq_none (h : owner (annotate lx gap) i = none)
    (hm : GapMatch lx gap m) : m.covers i = false := by
  rw [← Bool.not_eq_true]
  intro hc
  have hmem := List.mem_map_of_mem (f := Match.toAnnotation) (mem_list_and_covers_iff.2 ⟨hm, hc⟩).1
  rw [map_toAnnotation_list] at hmem
  have := Annotation.owner_eq_none_iff.1 h _ hmem
  simp [hc] at this

theorem owns_iff : Owns (GapMatch lx gap) i m ↔
    ∃ o, owner (annotate lx gap) i = some o ∧ (list lx gap)[o.2]? = some m := by
  constructor
  · intro h
    cases ho : owner (annotate lx gap) i with
    | none =>
      have hc := h.covers
      rw [not_covers_of_owner_eq_none ho h.isKnown] at hc
      contradiction
    | some o =>
      obtain ⟨m', hm', -, h'⟩ := exists_getElem?_list ho
      rw [h.unique h']
      exact ⟨o, rfl, hm'⟩
  · rintro ⟨o, ho, hm⟩
    obtain ⟨m', hm', -, h'⟩ := exists_getElem?_list ho
    rw [hm, Option.some_inj] at hm'
    rwa [hm']

theorem nodup_list (lx : Lexicon) (gap : Text) : (list lx gap).Nodup :=
  (pairwise_list lx gap).imp fun h heq => (heq ▸ h).asymm (heq ▸ h)

theorem forall_owns_iff : (∀ m, Owns (GapMatch lx gap) i m ↔ Owns (GapMatch lx gap) j m) ↔
    owner (annotate lx gap) i = owner (annotate lx gap) j := by
  refine ⟨fun h => ?_, fun h => by simp only [owns_iff, h, implies_true]⟩
  cases hi : owner (annotate lx gap) i with
  | none =>
    cases hj : owner (annotate lx gap) j with
    | none => rfl
    | some o =>
      obtain ⟨m, -, -, hm⟩ := exists_getElem?_list hj
      obtain ⟨o', ho', -⟩ := owns_iff.1 ((h m).2 hm)
      rw [hi] at ho'
      contradiction
  | some o =>
    obtain ⟨m, hm, -, hown⟩ := exists_getElem?_list hi
    obtain ⟨o', ho', hm'⟩ := owns_iff.1 ((h m).1 hown)
    have hplace : o.2 = o'.2 :=
      (List.getElem?_inj (List.getElem?_eq_some_iff.1 hm).1 (nodup_list lx gap)).1
        (hm.trans hm'.symm)
    rw [← hi]
    apply Annotation.owner_eq_of_map_snd
    rw [hi, ho', Option.map_some, Option.map_some, hplace]

theorem follows_resolve (lx : Lexicon) (gap : Text) :
    Follows (GapMatch lx gap) (resolve gap (annotate lx gap)) gap.length where
  exists_owns {i m} _ hm hc := by
    cases ho : owner (annotate lx gap) i with
    | none =>
      rw [not_covers_of_owner_eq_none ho hm] at hc
      contradiction
    | some o =>
      obtain ⟨m', -, -, h⟩ := exists_getElem?_list ho
      exact ⟨m', h⟩
  tags_eq := by
    rw [tags_resolve]
    refine List.map_congr_left fun i _ => ?_
    cases ho : owner (annotate lx gap) i with
    | none =>
      rw [Match.classAt_of_forall_not_covers fun _ => not_covers_of_owner_eq_none ho]
      rfl
    | some o =>
      obtain ⟨m, -, hm, h⟩ := exists_getElem?_list ho
      rw [h.classAt_eq (.inr h.isKnown.tag_eq), hm]
      rfl
  cutAt_iff hi := by
    rw [cutAt_resolve_iff hi, ne_eq, forall_owns_iff]

end GapMatch

end LessonText

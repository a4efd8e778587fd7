import LessonText.Proofs.Prose.Characters
import LessonText.Proofs.Text.Splicing

namespace LessonText.Paragraph

open Unicode (isWhiteSpace)

def feeds : Text := ['\n', '\n']

structure IsWritten (m : Text) : Prop where
  isBlank : m.isBlank = false
  head : m.head?.any isWhiteSpace = false
  last : m.getLast?.any isWhiteSpace = false
  unbroken : m.contains feeds = false

def join (laid : List (Text × Text)) : Text :=
  laid.flatMap fun mw => mw.1 ++ mw.2

/-- White space in front of paragraphs and behind each of them. Wherever another one follows there
are two line feeds in a row. -/
structure Spaced (front : Text) (laid : List (Text × Text)) : Prop where
  isBlank_front : front.isBlank
  isBlank : ∀ mw ∈ laid, mw.2.isBlank
  parted : ∀ mw ∈ laid.dropLast, mw.2.contains feeds

structure Divides (t : Text) (ms : List Text) : Prop where
  isWritten : ∀ m ∈ ms, IsWritten m
  exists_spaced : ∃ front laid, laid.map Prod.fst = ms ∧ t = front ++ join laid ∧
    Spaced front laid

def trimmed (ps : List Text) : List Text :=
  (ps.map Text.trim).filter (!·.isEmpty)

variable {t r m w p front gap : Text} {ps ms : List Text} {laid : List (Text × Text)} {c : Char}

theorem IsWritten.ne_nil (hm : IsWritten m) : m ≠ [] := by
  rintro rfl
  exact absurd hm.isBlank (by decide)

theorem trimmed_cons_of_isBlank (h : p.isBlank) (ps : List Text) :
    trimmed (p :: ps) = trimmed ps := by
  simp [trimmed, Text.trim_eq_nil_iff.2 h]

theorem trimmed_cons_of_not_isBlank (h : p.isBlank = false) (ps : List Text) :
    trimmed (p :: ps) = p.trim :: trimmed ps := by
  have hne : p.trim ≠ [] := by
    rw [ne_eq, Text.trim_eq_nil_iff, h]
    decide
  simp [trimmed, hne]

theorem map_write_split (t : Text) :
    (split t).map (·.flatMap Span.write) = trimmed (pieces t) := by
  rw [split, List.map_map, trimmed]
  simp only [Function.comp_def, Span.flatMap_write_ofText, List.map_id']

theorem pieces_feeds (t : Text) : pieces ('\n' :: '\n' :: t) = [] :: pieces t := by
  simp [pieces, piecesFrom]

theorem piecesFrom_append (held held' t : Text) :
    piecesFrom (held ++ held') t = (piecesFrom held t).modifyHead (held'.reverse ++ ·) := by
  induction held, t using piecesFrom.induct with
  | case1 held => simp [piecesFrom]
  | case2 held t ih => simp [piecesFrom]
  | case3 held c t hpair ih =>
    rw [piecesFrom, piecesFrom, ← ih, List.cons_append]
    · exact hpair
    · exact hpair

theorem feeds_isPrefix_iff : feeds <+: c :: t ↔ ∃ r, c = '\n' ∧ t = '\n' :: r := by
  constructor
  · rintro ⟨r, hr⟩
    obtain ⟨rfl, rfl⟩ := List.cons.inj hr
    exact ⟨r, rfl, rfl⟩
  · rintro ⟨r, rfl, rfl⟩
    exact List.prefix_append feeds r

theorem pieces_cons (h : ¬feeds <+: c :: t) :
    pieces (c :: t) = (pieces t).modifyHead (c :: ·) := by
  rw [pieces, piecesFrom]
  · exact piecesFrom_append [] [c] t
  · exact fun r hc ht => h (feeds_isPrefix_iff.2 ⟨r, hc, ht⟩)

theorem pieces_induction {motive : Text → Prop} (nil : motive [])
    (pair : ∀ t, motive t → motive ('\n' :: '\n' :: t))
    (cons : ∀ c t, ¬feeds <+: c :: t → motive t → motive (c :: t)) (t : Text) : motive t := by
  refine piecesFrom.induct (fun _ t => motive t) (fun _ => nil) (fun _ t => pair t) ?_ [] t
  intro _ c t hpair
  apply cons
  rw [feeds_isPrefix_iff]
  rintro ⟨r, hc, ht⟩
  exact hpair r hc ht

theorem exists_pieces_eq_cons (t : Text) : ∃ p ps, pieces t = p :: ps := by
  induction t using pieces_induction with
  | nil => exact ⟨[], [], rfl⟩
  | pair t ih => exact ⟨_, _, pieces_feeds t⟩
  | cons c t h ih =>
    obtain ⟨p, ps, ht⟩ := ih
    exact ⟨c :: p, ps, by rw [pieces_cons h, ht, List.modifyHead_cons]⟩

theorem intercalate_pieces (t : Text) : List.intercalate feeds (pieces t) = t := by
  induction t using pieces_induction with
  | nil => rfl
  | pair t ih =>
    obtain ⟨p, ps, ht⟩ := exists_pieces_eq_cons t
    rw [pieces_feeds, List.intercalate_cons_of_ne_nil (by simp [ht]), ih]
    rfl
  | cons c t h ih =>
    obtain ⟨p, ps, ht⟩ := exists_pieces_eq_cons t
    rw [pieces_cons h, ht, List.modifyHead_cons]
    rw [ht] at ih
    rcases Decidable.em (ps = []) with rfl | hne
    · simpa using ih
    · rw [List.intercalate_cons_of_ne_nil hne] at ih ⊢
      rw [List.cons_append, List.cons_append, ih]

theorem isPrefix_of_pieces (h : pieces t = p :: ps) : p <+: t := by
  rw [← intercalate_pieces t, h]
  rcases Decidable.em (ps = []) with rfl | hne
  · simp
  · rw [List.intercalate_cons_of_ne_nil hne, List.append_assoc]
    exact List.prefix_append _ _

theorem not_feeds_isInfix_of_mem_pieces (h : p ∈ pieces t) : ¬feeds <:+: p := by
  induction t using pieces_induction generalizing p with
  | nil =>
    obtain rfl := List.mem_singleton.1 h
    simp [feeds]
  | pair t ih =>
    rw [pieces_feeds, List.mem_cons] at h
    rcases h with rfl | h
    · simp [feeds]
    · exact ih h
  | cons c t hc ih =>
    obtain ⟨q, qs, ht⟩ := exists_pieces_eq_cons t
    rw [pieces_cons hc, ht, List.modifyHead_cons, List.mem_cons] at h
    rw [ht] at ih
    rcases h with rfl | h
    · rw [List.infix_cons_iff, not_or]
      refine ⟨fun hp => hc ?_, ih List.mem_cons_self⟩
      exact hp.trans ((List.prefix_cons_inj c).2 (isPrefix_of_pieces ht))
    · exact ih (List.mem_cons_of_mem q h)

theorem isWritten_of_mem_trimmed (h : m ∈ trimmed (pieces t)) : IsWritten m := by
  obtain ⟨hmem, hne⟩ := List.mem_filter.1 h
  obtain ⟨p, hp, rfl⟩ := List.mem_map.1 hmem
  constructor
  case isBlank =>
    rw [← Bool.not_eq_true, ← Text.trim_eq_nil_iff, Text.trim_trim]
    simpa using hne
  case head => exact Text.any_head?_of_trim_eq (Text.trim_trim p)
  case last => exact Text.any_getLast?_of_trim_eq (Text.trim_trim p)
  case unbroken =>
    rw [Text.contains_eq_false_iff]
    exact fun hin => not_feeds_isInfix_of_mem_pieces hp (hin.trans (Text.trim_isInfix p))

@[simp] theorem join_nil : join [] = [] := rfl

@[simp] theorem join_cons (m w : Text) (laid : List (Text × Text)) :
    join ((m, w) :: laid) = m ++ (w ++ join laid) := by
  simp [join]

theorem Spaced.cons {s e : Text} (h : Spaced gap laid) (hgap : laid = [] ∨ gap.contains feeds)
    (hs : s.isBlank) (he : e.isBlank) : Spaced s ((m, e ++ gap) :: laid) where
  isBlank_front := hs
  isBlank := by
    have hblank : (e ++ gap).isBlank := Text.isBlank_append_iff.2 ⟨he, h.isBlank_front⟩
    exact List.forall_mem_cons.2 ⟨hblank, h.isBlank⟩
  parted := by
    rcases hgap with rfl | hgap
    · simp
    · have hparted : (e ++ gap).contains feeds := by
        rw [Text.contains_iff] at hgap ⊢
        exact hgap.trans (List.suffix_append e gap).isInfix
      cases laid with
      | nil => simp
      | cons mw laid =>
        rw [List.dropLast_cons_cons]
        exact List.forall_mem_cons.2 ⟨hparted, h.parted⟩

theorem exists_spaced_cons (hmap : laid.map Prod.fst = trimmed ps) (h : Spaced gap laid)
    (hgap : laid = [] ∨ gap.contains feeds) (p : Text) :
    ∃ front laid', laid'.map Prod.fst = trimmed (p :: ps) ∧
      p ++ (gap ++ join laid) = front ++ join laid' ∧ Spaced front laid' := by
  cases hp : p.isBlank with
  | true =>
    refine ⟨p ++ gap, laid, ?_, (List.append_assoc ..).symm, ?_, h.isBlank, h.parted⟩
    · rw [hmap, trimmed_cons_of_isBlank hp]
    · exact Text.isBlank_append_iff.2 ⟨hp, h.isBlank_front⟩
  | false =>
    obtain ⟨s, e, heq, hs, he⟩ := Text.exists_append_trim_append p
    refine ⟨s, (p.trim, e ++ gap) :: laid, ?_, ?_, h.cons hgap hs he⟩
    · rw [List.map_cons, hmap, trimmed_cons_of_not_isBlank hp]
    · rw [join_cons]
      conv_lhs => rw [heq]
      simp

theorem exists_spaced (h : ps ≠ []) : ∃ front laid, laid.map Prod.fst = trimmed ps ∧
    List.intercalate feeds ps = front ++ join laid ∧ Spaced front laid := by
  induction ps with
  | nil => contradiction
  | cons p ps ih =>
    rcases Decidable.em (ps = []) with rfl | hne
    · have hnone : Spaced [] [] := ⟨rfl, by simp, by simp⟩
      have hmap : List.map Prod.fst ([] : List (Text × Text)) = trimmed [] := rfl
      simpa [join] using exists_spaced_cons hmap hnone (.inl rfl) p
    · obtain ⟨front, laid, hmap, heq, hs⟩ := ih hne
      have hblank : (feeds ++ front).isBlank :=
        Text.isBlank_append_iff.2 ⟨by decide, hs.isBlank_front⟩
      have hfeeds : (feeds ++ front).contains feeds :=
        Text.contains_iff.2 (List.prefix_append feeds front).isInfix
      rw [List.intercalate_cons_of_ne_nil hne, heq, List.append_assoc, ← List.append_assoc feeds]
      exact exists_spaced_cons hmap ⟨hblank, hs.isBlank, hs.parted⟩ (.inr hfeeds) p

theorem divides_trimmed_pieces (t : Text) : Divides t (trimmed (pieces t)) where
  isWritten _ := isWritten_of_mem_trimmed
  exists_spaced := by
    obtain ⟨p, ps, ht⟩ := exists_pieces_eq_cons t
    have hne : pieces t ≠ [] := by simp [ht]
    have hspaced := exists_spaced hne
    rwa [intercalate_pieces] at hspaced

/-- White space in front of a text may pair up other line feeds, but it leaves the same
paragraphs. -/
theorem trimmed_pieces_cons (hc : isWhiteSpace c) (t : Text) :
    trimmed (pieces (c :: t)) = trimmed (pieces t) := by
  -- A character that pairs with nothing is trimmed away with the front of its piece.
  have apart {c : Char} {t : Text} (hc : isWhiteSpace c) (h : ¬feeds <+: c :: t) :
      trimmed (pieces (c :: t)) = trimmed (pieces t) := by
    obtain ⟨p, ps, ht⟩ := exists_pieces_eq_cons t
    rw [pieces_cons h, ht, List.modifyHead_cons, trimmed, trimmed, List.map_cons, List.map_cons,
      Text.trim_cons_of_isWhiteSpace hc]
  induction t generalizing c with
  | nil => exact apart hc (by simp [feeds_isPrefix_iff])
  | cons d t ih =>
    by_cases h : feeds <+: c :: d :: t
    case pos =>
      obtain ⟨r, rfl, ht⟩ := feeds_isPrefix_iff.1 h
      obtain ⟨rfl, rfl⟩ := List.cons.inj ht
      -- The second line feed is free again in the shorter text.
      rw [pieces_feeds, trimmed_cons_of_isBlank rfl, ih hc]
    case neg => exact apart hc h

theorem trimmed_pieces_append (hw : w.isBlank) (t : Text) :
    trimmed (pieces (w ++ t)) = trimmed (pieces t) := by
  induction w with
  | nil => rfl
  | cons c w ih =>
    rw [Text.isBlank, List.all_cons, Bool.and_eq_true] at hw
    rw [List.cons_append, trimmed_pieces_cons hw.1, ih hw.2]

theorem pieces_append (hlast : m.getLast?.any isWhiteSpace = false) (hm : ¬feeds <:+: m)
    (t : Text) : pieces (m ++ t) = (pieces t).modifyHead (m ++ ·) := by
  induction m with
  | nil =>
    obtain ⟨p, ps, ht⟩ := exists_pieces_eq_cons t
    rw [List.nil_append, ht, List.modifyHead_cons, List.nil_append]
  | cons c m ih =>
    rw [List.infix_cons_iff, not_or] at hm
    cases m with
    | nil =>
      have hc : isWhiteSpace c = false := by simpa using hlast
      apply pieces_cons
      rw [feeds_isPrefix_iff]
      rintro ⟨r, rfl, -⟩
      revert hc
      decide
    | cons d m =>
      have hfeeds : ¬feeds <+: c :: (d :: m ++ t) := by
        rw [feeds_isPrefix_iff] at hm ⊢
        rintro ⟨r, rfl, hd⟩
        obtain ⟨rfl, -⟩ := List.cons.inj hd
        exact hm.1 ⟨m, rfl, rfl⟩
      have hlast' : (d :: m).getLast?.any isWhiteSpace = false := by
        rwa [List.getLast?_cons_cons] at hlast
      rw [List.cons_append, pieces_cons hfeeds, ih hlast' hm.2, List.modifyHead_modifyHead]
      rfl

theorem isBlank_of_pieces_append (hw : w.isBlank) (h : r = [] ∨ w.contains feeds)
    (hp : pieces (w ++ r) = p :: ps) : p.isBlank := by
  induction w generalizing p ps with
  | nil =>
    obtain rfl : r = [] := h.resolve_right (by decide)
    cases hp
    rfl
  | cons c w ih =>
    by_cases hfeeds : feeds <+: c :: (w ++ r)
    case pos =>
      obtain ⟨r', rfl, ht⟩ := feeds_isPrefix_iff.1 hfeeds
      rw [List.cons_append, ht, pieces_feeds] at hp
      cases hp
      rfl
    case neg =>
      rw [Text.isBlank, List.all_cons, Bool.and_eq_true] at hw
      have hrest : r = [] ∨ Text.contains w feeds := by
        refine h.imp_right fun hin => ?_
        rw [Text.contains_iff, List.infix_cons_iff] at hin
        refine Text.contains_iff.2 (hin.resolve_left fun hpre => hfeeds ?_)
        exact hpre.trans (List.prefix_append (c :: w) r)
      obtain ⟨q, qs, hq⟩ := exists_pieces_eq_cons (w ++ r)
      rw [List.cons_append, pieces_cons hfeeds, hq, List.modifyHead_cons] at hp
      cases hp
      rw [Text.isBlank, List.all_cons, Bool.and_eq_true]
      exact ⟨hw.1, ih hw.2 hrest hq⟩

theorem trimmed_pieces_append_append (hm : IsWritten m) (hw : w.isBlank)
    (h : r = [] ∨ w.contains feeds) :
    trimmed (pieces (m ++ (w ++ r))) = m :: trimmed (pieces r) := by
  obtain ⟨p, ps, hp⟩ := exists_pieces_eq_cons (w ++ r)
  have hblank := isBlank_of_pieces_append hw h hp
  have htrim : (m ++ p).trim = m := by
    rw [Text.trim_append hm.ne_nil hm.head hm.last, Text.trimEnd_of_isBlank hblank, List.append_nil]
  have hmp : (m ++ p).isBlank = false := by
    rw [← Bool.not_eq_true, ← Text.trim_eq_nil_iff, htrim]
    exact hm.ne_nil
  rw [pieces_append hm.last (Text.contains_eq_false_iff.1 hm.unbroken), hp, List.modifyHead_cons,
    trimmed_cons_of_not_isBlank hmp, htrim, ← trimmed_cons_of_isBlank hblank, ← hp,
    trimmed_pieces_append hw]

theorem trimmed_pieces_join (hm : ∀ m ∈ laid.map Prod.fst, IsWritten m) (h : Spaced front laid) :
    trimmed (pieces (join laid)) = laid.map Prod.fst := by
  induction laid generalizing front with
  | nil => rfl
  | cons mw laid ih =>
    obtain ⟨m, w⟩ := mw
    rw [List.map_cons, List.forall_mem_cons] at hm
    have hw : w.isBlank := h.isBlank (m, w) List.mem_cons_self
    cases laid with
    | nil =>
      rw [join_cons, join_nil, trimmed_pieces_append_append hm.1 hw (.inl rfl)]
      rfl
    | cons mw laid =>
      have hfeeds : w.contains feeds := h.parted (m, w) (by simp)
      have htail : Spaced w (mw :: laid) := by
        refine ⟨hw, fun x hx => h.isBlank x (List.mem_cons_of_mem _ hx), fun x hx => ?_⟩
        exact h.parted x (List.mem_cons_of_mem _ hx)
      rw [join_cons, trimmed_pieces_append_append hm.1 hw (.inr hfeeds), ih hm.2 htail]
      rfl

theorem Divides.trimmed_pieces (h : Divides t ms) : trimmed (pieces t) = ms := by
  obtain ⟨front, laid, rfl, rfl, hs⟩ := h.exists_spaced
  rw [trimmed_pieces_append hs.isBlank_front, trimmed_pieces_join h.isWritten hs]

/-- The paragraphs of a text, written back, are all of it but white space, and there is only one
way to divide it. -/
theorem map_write_split_eq_iff_divides (t : Text) (ms : List Text) :
    (split t).map (·.flatMap Span.write) = ms ↔ Divides t ms := by
  rw [map_write_split]
  constructor
  · rintro rfl
    exact divides_trimmed_pieces t
  · exact Divides.trimmed_pieces

end LessonText.Paragraph

import LessonText.Proofs.Code.Agreement
import LessonText.Proofs.Code.Places
import LessonText.Proofs.Text.Leftmost

/-! String literals by their places in a line. They are the only ranges that do not overlap, hold
two equal quotes and nothing equal between them, and leave out no quote that has a partner. -/

namespace LessonText

namespace Literal

/-- The characters from `start` to just before `stop` are two equal quotes, and between them none
of that kind. -/
def QuotedAt (line : Text) (start stop : Nat) : Prop :=
  ∃ x q body y, line = x ++ q :: (body ++ q :: y) ∧ isQuote q ∧ q ∉ body ∧ start = x.length ∧
    stop = start + body.length + 2

def StandsAt (line : Text) : Nat → Nat → Prop :=
  Text.Leftmost (QuotedAt line)

variable {line gap rest l r t body : Text} {q : Char} {i j : Nat}

theorem quotedAt_iff_match? :
    QuotedAt line i j ↔ ∃ l r, match? (line.drop i) = some (l, r) ∧ j = i + l.length := by
  constructor
  · rintro ⟨x, q, body, y, rfl, hq, hbody, rfl, rfl⟩
    refine ⟨q :: (body ++ [q]), y, ?_, ?_⟩
    · rw [List.drop_left, match?_quoted hq hbody]
    · simp
      omega
  · rintro ⟨l, r, hm, rfl⟩
    obtain ⟨q, body, hq, rfl, hbody, ht⟩ := match?_eq_some hm
    have hi : i < line.length := by
      rw [← List.drop_eq_nil_iff.not.trans Nat.not_le, ht]
      simp
    refine ⟨line.take i, q, body, r, ?_, hq, hbody, ?_, ?_⟩
    · have hline := List.take_append_drop i line
      rw [ht] at hline
      simpa using hline.symm
    · rw [List.length_take_of_le (Nat.le_of_lt hi)]
    · simp
      omega

theorem determined_quotedAt (line : Text) : Text.Determined (QuotedAt line) where
  lt h := by
    obtain ⟨_, _, _, _, -, -, -, -, rfl⟩ := h
    omega
  unique h h' := by
    obtain ⟨l, r, hm, rfl⟩ := quotedAt_iff_match?.1 h
    obtain ⟨l', r', hm', rfl⟩ := quotedAt_iff_match?.1 h'
    rw [hm] at hm'
    cases hm'
    rfl

theorem selects_standsAt (line : Text) : Text.Selects (QuotedAt line) (StandsAt line) :=
  Text.selects_leftmost (determined_quotedAt line)

theorem StandsAt.lt (h : StandsAt line i j) : i < j :=
  (determined_quotedAt line).lt h.sound

theorem StandsAt.unique {k : Nat} (h : StandsAt line i j) (h' : StandsAt line i k) : j = k :=
  (determined_quotedAt line).unique h.sound h'.sound

theorem StandsAt.le_length (h : StandsAt line i j) : j ≤ line.length := by
  obtain ⟨x, q, body, y, rfl, -, -, rfl, rfl⟩ := h.sound
  simp
  omega

theorem exists_quotedAt (hi : t[i]? = some q) (hq : isQuote q) (hlt : i < j)
    (hj : t[j]? = some q) : ∃ k, QuotedAt t i k := by
  have hmem : q ∈ t.drop (i + 1) := by
    refine List.mem_of_getElem? (i := j - (i + 1)) ?_
    rw [List.getElem?_drop, Nat.add_sub_cancel' hlt, hj]
  obtain ⟨body, y, ht, hbody⟩ := List.eq_append_cons_of_mem hmem
  obtain ⟨hlen, hget⟩ := List.getElem?_eq_some_iff.1 hi
  refine ⟨i + (q :: (body ++ [q])).length, quotedAt_iff_match?.2 ⟨_, y, ?_, rfl⟩⟩
  rw [List.drop_eq_getElem_cons hlen, hget, ht, match?_quoted hq hbody]

theorem not_quotedAt_of_isGap (h : pattern.IsGap gap rest) (hi : i < gap.length) :
    ¬QuotedAt (gap ++ rest) i j := by
  rw [quotedAt_iff_match?, List.drop_append_of_le_length (Nat.le_of_lt hi)]
  rintro ⟨l, r, hm, -⟩
  have hnone : match? (gap.drop i ++ rest) = none :=
    h.free _ (List.drop_suffix i gap) (by simpa using hi)
  rw [hnone] at hm
  contradiction

theorem not_standsAt_of_isGap (h : pattern.IsGap gap []) : ¬StandsAt gap i j := by
  intro hs
  have hlt : i < gap.length := Nat.lt_of_lt_of_le hs.lt hs.le_length
  have hnone : ¬QuotedAt (gap ++ []) i j := not_quotedAt_of_isGap h hlt
  rw [List.append_nil] at hnone
  exact hnone hs.sound

theorem standsAt_append_iff (h : pattern.IsGap gap (l ++ r)) (hm : match? (l ++ r) = some (l, r)) :
    StandsAt (gap ++ (l ++ r)) i j ↔ i = gap.length ∧ j = gap.length + l.length ∨
      ∃ i' j', i = gap.length + l.length + i' ∧ j = gap.length + l.length + j' ∧
        StandsAt r i' j' := by
  apply Text.leftmost_append_iff (determined_quotedAt _) (determined_quotedAt _)
  case free => exact not_quotedAt_of_isGap h
  case head =>
    rw [quotedAt_iff_match?, List.drop_left]
    exact ⟨l, r, hm, rfl⟩
  case tail =>
    intro i j hi
    obtain ⟨k, rfl⟩ := Nat.exists_eq_add_of_le hi
    have hdrop : (gap ++ (l ++ r)).drop (gap.length + l.length + k) = r.drop k := by
      rw [← List.append_assoc, ← List.length_append, List.drop_length_add_append]
    simp only [quotedAt_iff_match?, hdrop]
    constructor
    · rintro ⟨u, v, hu, rfl⟩
      exact ⟨k, k + u.length, rfl, Nat.add_assoc .., u, v, hu, rfl⟩
    · rintro ⟨k', j', hk, rfl, u, v, hu, rfl⟩
      obtain rfl := Nat.add_left_cancel hk
      exact ⟨u, v, hu, (Nat.add_assoc ..).symm⟩

/-- Ranges of a line, as a relation between where one starts and where it stops, that are exactly
what is quoted there. -/
structure Exact (t : Text) (ranges : Nat → Nat → Prop) : Prop where
  disjoint : ∀ {i j k l}, ranges i j → ranges k l → (i, j) ≠ (k, l) → j ≤ k ∨ l ≤ i
  quoted : ∀ {i j}, ranges i j → QuotedAt t i j
  unpaired : ∀ {n q}, t[n]? = some q → isQuote q → (∀ i j, ranges i j → ¬(i ≤ n ∧ n < j)) →
    ∀ m, n < m → t[m]? ≠ some q

theorem Exact.selects {ranges : Nat → Nat → Prop} (h : Exact line ranges) :
    Text.Selects (QuotedAt line) ranges where
  sound := h.quoted
  disjoint {i j k l} hij hkl hlt := by
    have hne : (i, j) ≠ (k, l) := fun he => by
      simp at he
      omega
    have hkl' := (determined_quotedAt line).lt (h.quoted hkl)
    have := h.disjoint hij hkl hne
    omega
  covers {i j} hq := by
    obtain ⟨x, q, body, y, rfl, hquote, -, rfl, rfl⟩ := hq
    have hfirst : (x ++ q :: (body ++ q :: y))[x.length]? = some q := by simp
    have hlast : (x ++ q :: (body ++ q :: y))[x.length + 1 + body.length]? = some q := by
      simp [Nat.add_assoc, Nat.add_comm 1]
    refine Classical.byContradiction fun hnone =>
      h.unpaired hfirst hquote ?_ _ (by omega) hlast
    intro i j hij hle
    exact hnone ⟨i, j, hij, hle⟩

theorem exact_standsAt (line : Text) : Exact line (StandsAt line) where
  disjoint {i j k l} h h' hne := by
    rcases Nat.lt_trichotomy i k with hlt | rfl | hlt
    · exact .inl ((selects_standsAt line).disjoint h h' hlt)
    · exact absurd (by rw [h.unique h']) hne
    · exact .inr ((selects_standsAt line).disjoint h' h hlt)
  quoted h := h.sound
  unpaired {n q} hn hq hfree m hm hlast := by
    obtain ⟨k, hk⟩ := exists_quotedAt hn hq hm hlast
    obtain ⟨i, j, hs, hi, hj⟩ := (selects_standsAt line).covers hk
    exact hfree i j hs ⟨hi, hj⟩

theorem exact_iff {ranges : Nat → Nat → Prop} :
    Exact line ranges ↔ ∀ i j, ranges i j ↔ StandsAt line i j := by
  constructor
  · intro h i j
    exact h.selects.iff_leftmost (determined_quotedAt line)
  · intro h
    obtain rfl : ranges = StandsAt line := by
      funext i j
      exact propext (h i j)
    exact exact_standsAt line

end Literal

theorem Annotation.tag_of_mem_resolve {t : Text} {as : List Annotation} {k : Token}
    (h : k ∈ resolve t as) : k.tag = .plain ∨ ∃ a ∈ as, k.tag = a.tag := by
  obtain ⟨run, hrun, rfl⟩ := List.mem_map.1 h
  obtain ⟨⟨c, o⟩, cs, rfl⟩ := List.exists_cons_of_ne_nil (List.ne_nil_of_mem_splitBy hrun)
  cases o with
  | none => exact .inl rfl
  | some o =>
    have hmem : (c, some o) ∈ ((owned t as).splitBy sameOwner).flatten :=
      List.mem_flatten.2 ⟨_, hrun, List.mem_cons_self⟩
    rw [List.flatten_splitBy] at hmem
    obtain ⟨ci, -, hci⟩ := List.mem_map.1 hmem
    exact .inr ⟨o.1, (owns_of_owner (Prod.mk.inj hci).2).mem, rfl⟩

namespace Listing

open Annotation (resolve)

variable {lx : Lexicon} {line gap : Text} {k : Token} {i j n : Nat}

theorem tag_of_mem_annotate {a : Annotation} (h : a ∈ annotate lx gap) :
    a.tag = .keyword ∨ a.tag = .builtin ∨ a.tag = .call := by
  rw [annotate, List.mem_append, List.mem_append] at h
  rcases h with (h | h) | h
  · obtain ⟨w, -, hw⟩ := List.mem_flatMap.1 h
    obtain ⟨i, -, rfl⟩ := List.mem_map.1 hw
    exact .inl rfl
  · obtain ⟨w, -, hw⟩ := List.mem_flatMap.1 h
    obtain ⟨i, -, rfl⟩ := List.mem_map.1 hw
    exact .inr (.inl rfl)
  · obtain ⟨x, w, r, -, -, -, rfl⟩ := mem_annotateCallsFrom.1 h
    exact .inr (.inr rfl)

theorem not_fills_literal_resolve :
    ¬Token.Fills (resolve gap (annotate lx gap)) .literal i j := by
  intro h
  obtain ⟨k, hk, htag⟩ := h.mem
  rcases Annotation.tag_of_mem_resolve hk with hp | ⟨a, ha, hka⟩
  · simp [htag] at hp
  · have := tag_of_mem_annotate ha
    simp [← hka, htag] at this

theorem fills_literal_flatMap_iff (lx : Lexicon) (line : Text) :
    Token.Fills ((Literal.pattern.cut line).flatMap (tokensOf lx)) .literal i j ↔
      Literal.StandsAt line i j := by
  induction line using Pattern.gap_induction (p := Literal.pattern) generalizing i j with
  | last gap h =>
    rw [h.cut_eq, flatMap_tokensOf_release, List.flatMap_nil, List.append_nil]
    exact iff_of_false not_fills_literal_resolve (Literal.not_standsAt_of_isGap h)
  | found gap rest l r h hm ih =>
    obtain rfl := Literal.append_of_match? hm
    rw [h.cut_append hm, flatMap_tokensOf_release, List.flatMap_cons, tokensOf,
      List.singleton_append, Token.fills_append_iff, Literal.standsAt_append_iff h hm]
    simp only [Token.fills_cons_iff, ih, Annotation.join_resolve]
    constructor
    · rintro (hgap | ⟨_, _, ⟨-, rfl, rfl⟩ | ⟨i', j', hs, rfl, rfl⟩, rfl, rfl⟩)
      · exact absurd hgap not_fills_literal_resolve
      · exact .inl ⟨rfl, rfl⟩
      · exact .inr ⟨i', j', (Nat.add_assoc ..).symm, (Nat.add_assoc ..).symm, hs⟩
    · rintro (⟨rfl, rfl⟩ | ⟨i', j', rfl, rfl, hs⟩)
      · exact .inr ⟨0, l.length, .inl ⟨trivial, rfl, rfl⟩, rfl, rfl⟩
      · exact .inr ⟨_, _, .inr ⟨i', j', hs, rfl, rfl⟩, Nat.add_assoc .., Nat.add_assoc ..⟩

theorem tokens_of_not_isComment (lx : Lexicon) (h : Line.isComment line = false) :
    tokens lx line = (Literal.pattern.cut line).flatMap (tokensOf lx) := by
  rw [tokens]
  split
  next he => simp [List.isEmpty_iff.1 he, Pattern.cut, Pattern.release]
  next => simp [h]

theorem fills_literal_iff (h : Line.isComment line = false) :
    Token.Fills (tokens lx line) .literal i j ↔ Literal.StandsAt line i j := by
  rw [tokens_of_not_isComment lx h, fills_literal_flatMap_iff]

/-- Outside of comments, what the tokens tagged as literals hold is all that is quoted in the
line, and nothing else is; whatever stands in a literal has its tag. -/
theorem exact_iff_fills_literal (lx : Lexicon) (h : Line.isComment line = false) :
    (∀ ranges, Literal.Exact line ranges ↔
      ∀ i j, ranges i j ↔ Token.Fills (tokens lx line) .literal i j) ∧
      ∀ i j n, Token.Fills (tokens lx line) .literal i j → i ≤ n → n < j →
        (Token.tags (tokens lx line))[n]? = some .literal := by
  refine ⟨fun ranges => ?_, fun i j n hf => hf.getElem?_tags⟩
  simp only [Literal.exact_iff, fills_literal_iff h]

def sampleQuotes : Text :=
  "say(\"it's\"'a (\"b'`if`)` + \"end"

theorem exact_iff_fills_literal_sampleQuotes :
    Line.isComment sampleQuotes = false ∧
      Literal.Exact sampleQuotes (Token.Fills (tokens .javascript sampleQuotes) .literal) ∧
      tokens .javascript sampleQuotes =
        [⟨"say", .call⟩, ⟨"(", .plain⟩, ⟨"\"it's\"", .literal⟩, ⟨"'a (\"b'", .literal⟩,
          ⟨"`if`", .literal⟩, ⟨")` + \"end", .plain⟩] := by
  have h : Line.isComment sampleQuotes = false := by decide
  refine ⟨h, ?_, by decide +kernel⟩
  exact ((exact_iff_fills_literal .javascript h).1 _).2 fun _ _ => Iff.rfl

end Listing

end LessonText

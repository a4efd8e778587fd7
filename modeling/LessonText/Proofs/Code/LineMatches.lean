import LessonText.Proofs.Code.GapMatches
import LessonText.Proofs.Code.Gaps

namespace LessonText

open Match (Owns Follows classAt)
open Listing (tokensOf annotate)
open Annotation (resolve)

inductive LineMatch (lx : Lexicon) (line : Text) : Match → Prop
  | literal {i j : Nat} (h : Literal.StandsAt line i j) :
      LineMatch lx line ⟨⟨i, j, .literal⟩, 0⟩
  | gap {i j : Nat} {m : Match} (h : Literal.IsGapAt line i j)
      (hm : GapMatch lx ((line.take j).drop i) m) : LineMatch lx line (m.shift i)

namespace LineMatch

variable {lx : Lexicon} {line gap l r : Text} {m : Match} {i : Nat}

theorem iff_of_isGap (h : Literal.pattern.IsGap gap []) :
    LineMatch lx gap m ↔ gap ≠ [] ∧ GapMatch lx gap m := by
  constructor
  · intro hm
    cases hm with
    | literal hs => exact absurd hs (Literal.not_standsAt_of_isGap h)
    | gap hg hm =>
      obtain ⟨hne, rfl, rfl⟩ := (Literal.isGapAt_iff_of_isGap h).1 hg
      exact ⟨hne, by simpa using hm⟩
  · rintro ⟨hne, hm⟩
    rw [← Match.shift_zero m]
    exact .gap ((Literal.isGapAt_iff_of_isGap h).2 ⟨hne, rfl, rfl⟩) (by simpa using hm)

theorem drop_take_append (gap l r : Text) (i j : Nat) :
    ((gap ++ (l ++ r)).take (gap.length + l.length + j)).drop (gap.length + l.length + i) =
      (r.take j).drop i := by
  rw [← List.append_assoc, ← List.length_append, List.take_length_add_append,
    List.drop_length_add_append]

def Leading (lx : Lexicon) (gap l : Text) (m : Match) : Prop :=
  gap ≠ [] ∧ GapMatch lx gap m ∨ m = ⟨⟨gap.length, gap.length + l.length, .literal⟩, 0⟩

theorem Leading.stop_le (h : Leading lx gap l m) : m.stop ≤ gap.length + l.length := by
  rcases h with ⟨-, h⟩ | rfl
  · exact Nat.le_add_right_of_le h.stop_le
  · exact Nat.le_refl _

theorem Leading.eq_of_covers (h : Leading lx gap l m) (hc : m.covers i) (hi : gap.length ≤ i) :
    m = ⟨⟨gap.length, gap.length + l.length, .literal⟩, 0⟩ := by
  rcases h with ⟨-, h⟩ | rfl
  · rw [Match.not_covers_of_stop_le (Nat.le_trans h.stop_le hi)] at hc
    contradiction
  · rfl

theorem append_iff (h : Literal.pattern.IsGap gap (l ++ r))
    (hm : Literal.match? (l ++ r) = some (l, r)) :
    LineMatch lx (gap ++ (l ++ r)) m ↔
      Leading lx gap l m ∨ ∃ m', LineMatch lx r m' ∧ m = m'.shift (gap.length + l.length) := by
  constructor
  · intro hl
    cases hl with
    | literal hs =>
      rcases (Literal.standsAt_append_iff h hm).1 hs with ⟨rfl, rfl⟩ | ⟨i, j, rfl, rfl, hs'⟩
      · exact .inl (.inr rfl)
      · exact .inr ⟨_, .literal hs', rfl⟩
    | gap hg hm' =>
      rcases (Literal.isGapAt_append_iff h hm).1 hg with ⟨hne, rfl, rfl⟩ | ⟨i, j, rfl, rfl, hg'⟩
      · rw [Match.shift_zero]
        exact .inl (.inl ⟨hne, by simpa using hm'⟩)
      · rw [drop_take_append] at hm'
        exact .inr ⟨_, .gap hg' hm', Match.shift_add ..⟩
  · rintro ((⟨hne, hg⟩ | rfl) | ⟨m', hl, rfl⟩)
    · rw [← Match.shift_zero m]
      exact .gap ((Literal.isGapAt_append_iff h hm).2 (.inl ⟨hne, rfl, rfl⟩)) (by simpa using hg)
    · exact .literal ((Literal.standsAt_append_iff h hm).2 (.inl ⟨rfl, rfl⟩))
    · cases hl with
      | literal hs =>
        exact .literal ((Literal.standsAt_append_iff h hm).2 (.inr ⟨_, _, rfl, rfl, hs⟩))
      | gap hg hm' =>
        rw [← Match.shift_add]
        refine .gap ((Literal.isGapAt_append_iff h hm).2 (.inr ⟨_, _, rfl, rfl, hg⟩)) ?_
        rwa [drop_take_append]

theorem follows_leading (lx : Lexicon) (gap l : Text) :
    Follows (Leading lx gap l) (resolve gap (annotate lx gap) ++ [⟨l, .literal⟩])
      (gap.length + l.length) := by
  apply (GapMatch.follows_resolve lx gap).append (Match.follows_literal l)
  case left =>
    intro i hi m hc
    constructor
    · rintro (⟨-, h⟩ | rfl)
      · exact h
      · rw [Match.not_covers_of_lt_start hi] at hc
        contradiction
    · intro h
      exact .inl ⟨List.length_pos_iff.1 (Nat.zero_lt_of_lt hi), h⟩
  case right =>
    intro i m hc
    constructor
    · intro h
      exact ⟨_, rfl, h.eq_of_covers hc (Nat.le_add_right _ _)⟩
    · rintro ⟨m', rfl, rfl⟩
      exact .inr rfl
  case meet =>
    intro i _ hl
    exact .inr ⟨_, Match.owns_literal hl⟩

theorem follows_flatMap (lx : Lexicon) (line : Text) :
    Follows (LineMatch lx line) ((Literal.pattern.cut line).flatMap (tokensOf lx)) line.length := by
  induction line using Pattern.gap_induction (p := Literal.pattern) with
  | last gap h =>
    rw [h.cut_eq, Listing.flatMap_tokensOf_release, List.flatMap_nil, List.append_nil]
    refine (GapMatch.follows_resolve lx gap).congr fun i hi m _ => ?_
    rw [iff_of_isGap h]
    exact and_iff_right (List.length_pos_iff.1 (Nat.zero_lt_of_lt hi))
  | found gap rest l r h hm ih =>
    obtain rfl := Literal.append_of_match? hm
    have hl : 0 < l.length := List.length_pos_iff.2 (Literal.ne_nil_of_match? hm)
    have hlen : (gap ++ (l ++ r)).length = gap.length + l.length + r.length := by
      simp [Nat.add_assoc]
    rw [hlen, h.cut_append hm, Listing.flatMap_tokensOf_release, List.flatMap_cons, tokensOf,
      ← List.append_assoc (resolve gap _)]
    apply (follows_leading lx gap l).append ih
    case left =>
      intro i hi m hc
      rw [append_iff h hm]
      refine or_iff_left ?_
      rintro ⟨m', -, rfl⟩
      rw [Match.not_covers_of_lt_start (Nat.lt_add_right _ hi)] at hc
      contradiction
    case right =>
      intro i m hc
      rw [append_iff h hm]
      refine or_iff_right fun hm => ?_
      rw [Match.not_covers_of_stop_le (Nat.le_add_right_of_le hm.stop_le)] at hc
      contradiction
    case meet =>
      intro i hi _
      have hgap : gap.length ≤ i := by omega
      have hlit : i < gap.length + l.length := by omega
      exact .inl ⟨_, Match.owns_of_forall (.inr rfl) (Match.covers_iff.2 ⟨hgap, hlit⟩)
        fun m' hm' hc' => hm'.eq_of_covers hc' hgap⟩

theorem tag_eq (h : LineMatch lx line m) :
    m.tag = .literal ∨ m.tag = .keyword ∨ m.tag = .builtin ∨ m.tag = .call := by
  cases h with
  | literal h => exact .inl rfl
  | gap h hm => exact .inr hm.tag_eq

theorem mono {lx' : Lexicon} (hk : lx.keywords ⊆ lx'.keywords) (hb : lx.builtins ⊆ lx'.builtins)
    (h : LineMatch lx line m) : ∃ n, LineMatch lx' line { m with entry := n } := by
  cases h with
  | literal h => exact ⟨0, .literal h⟩
  | gap h hm =>
    obtain ⟨n, hn⟩ := hm.mono hk hb
    exact ⟨n, .gap h hn⟩

theorem covered_mono {lx' : Lexicon} {tag : Tag} (hk : lx.keywords ⊆ lx'.keywords)
    (hb : lx.builtins ⊆ lx'.builtins) (h : Match.Covered (LineMatch lx line) tag i) :
    Match.Covered (LineMatch lx' line) tag i := by
  obtain ⟨m, hm, htag, hc⟩ := h
  obtain ⟨n, hn⟩ := hm.mono hk hb
  exact ⟨_, hn, htag, hc⟩

theorem classAt_eq_of_words {lx' : Lexicon} (hk : ∀ w, w ∈ lx.keywords ↔ w ∈ lx'.keywords)
    (hb : ∀ w, w ∈ lx.builtins ↔ w ∈ lx'.builtins) (line : Text) (i : Nat) :
    classAt (LineMatch lx line) i = classAt (LineMatch lx' line) i := by
  refine Match.classAt_eq_of_covered_iff fun tag => ⟨fun h => ?_, fun h => ?_⟩
  · exact covered_mono (fun w => (hk w).1) (fun w => (hb w).1) h
  · exact covered_mono (fun w => (hk w).2) (fun w => (hb w).2) h

end LineMatch

namespace Listing

variable {lx lx' : Lexicon} {line : Text} {k : Token}

theorem tokens_of_isComment (lx : Lexicon) (h : Line.isComment line) :
    tokens lx line = [⟨line, .comment⟩] := by
  rw [tokens]
  split
  next he =>
    rw [List.isEmpty_iff.1 he] at h
    exact absurd h (by decide)
  next => rfl

theorem tag_ne_comment (h : Line.isComment line = false) (hk : k ∈ tokens lx line) :
    k.tag ≠ .comment := by
  rw [tokens_of_not_isComment lx h] at hk
  obtain ⟨f, -, hf⟩ := List.mem_flatMap.1 hk
  cases f with
  | found l =>
    rw [List.mem_singleton.1 hf]
    simp
  | plain gap =>
    rcases Annotation.tag_of_mem_resolve hf with ht | ⟨a, ha, ht⟩
    · simp [ht]
    · rcases tag_of_mem_annotate ha with ha | ha | ha <;> simp [ht, ha]

theorem exists_comment_iff (lx : Lexicon) (line : Text) :
    (∃ k ∈ tokens lx line, k.tag = .comment) ↔ Line.isComment line := by
  constructor
  · rintro ⟨k, hk, htag⟩
    rw [← Bool.not_eq_false]
    exact fun h => tag_ne_comment h hk htag
  · intro h
    exact ⟨⟨line, .comment⟩, by simp [tokens_of_isComment lx h], rfl⟩

theorem follows_tokens (lx : Lexicon) (h : Line.isComment line = false) :
    Follows (LineMatch lx line) (tokens lx line) line.length := by
  rw [tokens_of_not_isComment lx h]
  exact LineMatch.follows_flatMap lx line

theorem tags_tokens_eq_of_words (hk : ∀ w, w ∈ lx.keywords ↔ w ∈ lx'.keywords)
    (hb : ∀ w, w ∈ lx.builtins ↔ w ∈ lx'.builtins) (h : Line.isComment line = false) :
    Token.tags (tokens lx line) = Token.tags (tokens lx' line) := by
  rw [(follows_tokens lx h).tags_eq, (follows_tokens lx' h).tags_eq]
  exact List.map_congr_left fun i _ => LineMatch.classAt_eq_of_words hk hb line i

/-- A line is one comment or none of it is. Outside of comments each character has the class of
the match that owns it, or is plain, whatever the order of the words in the lexicon, and a token
ends where the owner changes. -/
theorem tokens_follow_matches (lx : Lexicon) (line : Text) :
    ((∃ k ∈ tokens lx line, k.tag = .comment) ↔ Line.isComment line) ∧
      (Line.isComment line → tokens lx line = [⟨line, .comment⟩]) ∧
      (Line.isComment line = false →
        Follows (LineMatch lx line) (tokens lx line) line.length ∧
        (∀ i m, Owns (LineMatch lx line) i m → m.tag = classAt (LineMatch lx line) i) ∧
        ∀ lx' : Lexicon, (∀ w, w ∈ lx.keywords ↔ w ∈ lx'.keywords) →
          (∀ w, w ∈ lx.builtins ↔ w ∈ lx'.builtins) →
            Token.tags (tokens lx line) = Token.tags (tokens lx' line)) := by
  refine ⟨exists_comment_iff lx line, tokens_of_isComment lx,
    fun h => ⟨follows_tokens lx h, ?_, ?_⟩⟩
  · intro i m hm
    exact (hm.classAt_eq hm.isKnown.tag_eq).symm
  · intro lx' hk hb
    exact tags_tokens_eq_of_words hk hb h

def sampleLexicon : Lexicon :=
  .ofWords ["a b", "b c"] ["c d"]

theorem tokens_follow_matches_sampleLexicon :
    Follows (LineMatch sampleLexicon "a b c d('d(')")
      [⟨"a b", .keyword⟩, ⟨" c", .keyword⟩, ⟨" d", .builtin⟩, ⟨"(", .plain⟩, ⟨"'d('", .literal⟩,
        ⟨")", .plain⟩] 13 := by
  have htokens : tokens sampleLexicon "a b c d('d(')" =
      [⟨"a b", .keyword⟩, ⟨" c", .keyword⟩, ⟨" d", .builtin⟩, ⟨"(", .plain⟩, ⟨"'d('", .literal⟩,
        ⟨")", .plain⟩] := by
    decide +kernel
  have h := (tokens_follow_matches sampleLexicon "a b c d('d(')").2.2 (by decide)
  rw [htokens] at h
  exact h.1

end Listing

end LessonText

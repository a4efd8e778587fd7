import LessonText.Proofs.Code.Annotating
import LessonText.Proofs.Code.Tiling

/-! The tokens of a line are those of the lexer that reads it once: annotations of whole words
never cut a word, and the tag that ranks highest is the one that the lexer looks for first. -/

namespace LessonText.Listing

open Annotation
open OnePass (IsCalled tagOf tokensFrom release)

variable {lx : Lexicon} {x w r t held : Text} {tag : Tag} {c : Char} {k : Nat}

theorem tagOf_cases (lx : Lexicon) (w r : Text) :
    tagOf lx w r = .keyword ∧ w ∈ lx.keywords ∨
      tagOf lx w r = .builtin ∧ w ∉ lx.keywords ∧ w ∈ lx.builtins ∨
      tagOf lx w r = .call ∧ w ∉ lx.keywords ∧ w ∉ lx.builtins ∧ IsCalled r ∨
      tagOf lx w r = .plain ∧ w ∉ lx.keywords ∧ w ∉ lx.builtins ∧ ¬IsCalled r := by
  by_cases hk : w ∈ lx.keywords
  · exact .inl ⟨by simp [tagOf, hk], hk⟩
  · by_cases hb : w ∈ lx.builtins
    · exact .inr (.inl ⟨by simp [tagOf, hk, hb], hk, hb⟩)
    · by_cases hc : IsCalled r
      · exact .inr (.inr (.inl ⟨by simp [tagOf, hk, hb, hc], hk, hb, hc⟩))
      · exact .inr (.inr (.inr ⟨by simp [tagOf, hk, hb, hc], hk, hb, hc⟩))

theorem not_earns_of_tagOf (h : tagOf lx w r = .plain) (tag : Tag) : ¬Earns lx w r tag := by
  rcases tagOf_cases lx w r with ⟨ht, -⟩ | ⟨ht, -⟩ | ⟨ht, -⟩ | ⟨-, hk, hb, hc⟩
  · simp [h] at ht
  · simp [h] at ht
  · simp [h] at ht
  · cases tag <;> simp [Earns, hk, hb, hc]

theorem earns_tagOf (h : tagOf lx w r ≠ .plain) : Earns lx w r (tagOf lx w r) := by
  rcases tagOf_cases lx w r with ⟨ht, hk⟩ | ⟨ht, -, hb⟩ | ⟨ht, -, -, hc⟩ | ⟨ht, -⟩
  · rwa [ht]
  · rwa [ht]
  · rwa [ht]
  · contradiction

theorem tagOf_eq_of_earns (h : Earns lx w r tag) (hr : (tagOf lx w r).rank ≤ tag.rank) :
    tagOf lx w r = tag := by
  rcases tagOf_cases lx w r with ⟨ht, -⟩ | ⟨ht, hk, -⟩ | ⟨ht, hk, hb, -⟩ | ⟨ht, -⟩
  · rw [ht] at hr ⊢
    cases tag <;> simp [Earns, Tag.rank] at h hr ⊢
  · rw [ht] at hr ⊢
    cases tag <;> simp [Earns, Tag.rank, hk] at h hr ⊢
  · rw [ht]
    cases tag <;> simp [Earns, hk, hb] at h ⊢
  · exact absurd h (not_earns_of_tagOf ht tag)

theorem owner_annotate_plain (hlx : IsWordLexicon lx) (h : WholeWord x w r)
    (ht : tagOf lx w r = .plain) (hk : k < w.length) :
    owner (annotate lx (x ++ (w ++ r))) (x.length + k) = none := by
  rw [owner_eq_none_iff]
  intro a ha
  rw [← Bool.not_eq_true]
  intro hc
  obtain ⟨he, -⟩ := (mem_annotate_and_covers_word_iff hlx h hk).1 ⟨ha, hc⟩
  exact not_earns_of_tagOf ht a.tag he

theorem exists_owner_annotate (hlx : IsWordLexicon lx) (h : WholeWord x w r)
    (ht : tagOf lx w r ≠ .plain) :
    ∃ o, o.1.tag = tagOf lx w r ∧
      ∀ k < w.length, owner (annotate lx (x ++ (w ++ r))) (x.length + k) = some o := by
  have h₀ : 0 < w.length := List.length_pos_iff.2 h.ne_nil
  have hbest := (mem_annotate_and_covers_word_iff
    (a := ⟨x.length, x.length + w.length, tagOf lx w r⟩) hlx h h₀).2 ⟨earns_tagOf ht, rfl⟩
  cases ho : owner (annotate lx (x ++ (w ++ r))) (x.length + 0) with
  | none =>
    have hn := owner_eq_none_iff.1 ho _ hbest.1
    rw [hn] at hbest
    exact absurd hbest.2 Bool.false_ne_true
  | some o =>
    have hown := owns_of_owner ho
    obtain ⟨he, -⟩ := (mem_annotate_and_covers_word_iff hlx h h₀).1 ⟨hown.mem, hown.covers⟩
    refine ⟨o, ?_, ?_⟩
    · exact (tagOf_eq_of_earns he (hown.rank_le_of_mem hbest.1 hbest.2)).symm
    · -- What covers one character of the word covers them all.
      intro k hk
      rw [← ho]
      apply owner_congr
      intro a ha
      have hiff := (mem_annotate_and_covers_word_iff (a := a) hlx h hk).trans
        (mem_annotate_and_covers_word_iff hlx h h₀).symm
      rw [Bool.eq_iff_iff]
      simpa only [ha, true_and] using hiff

theorem owner_annotate_char (hlx : IsWordLexicon lx) (hc : Unicode.isWord c = false) (x r : Text) :
    owner (annotate lx (x ++ c :: r)) x.length = none :=
  owner_eq_none_iff.2 fun _ => not_covers_of_not_isWord hlx hc

theorem owner_head_annotate (hlx : IsWordLexicon lx) (ht : t.head?.any Unicode.isWord = false)
    (x : Text) :
    ∀ y ∈ (ownedFrom (annotate lx (x ++ t)) x.length t).head?, y.2 = none := by
  cases t with
  | nil => simp
  | cons c t =>
    have hc : Unicode.isWord c = false := by simpa using ht
    simp [owner_annotate_char hlx hc]

theorem tokensOfOwned_held (held : Text) : tokensOfOwned (held.map (·, none)) = release held := by
  cases held with
  | nil => rfl
  | cons c held =>
    rw [tokensOfOwned_map (List.cons_ne_nil c held), tokenOf_map_none]
    rfl

theorem tokensOfOwned_held_word (held : Text) (hw : w ≠ []) (o : Placed)
    {cs : List (Char × Option Placed)} (h : ∀ y ∈ cs.head?, y.2 = none) :
    tokensOfOwned (held.map (·, none) ++ (w.map (·, some o) ++ cs)) =
      release held ++ ⟨w, o.1.tag⟩ :: tokensOfOwned cs := by
  have hheld : ∀ a ∈ (held.map fun c => (c, (none : Option Placed))).getLast?, a.2 = none := by
    intro a ha
    obtain ⟨c, -, rfl⟩ := List.mem_map.1 (List.mem_of_mem_getLast? ha)
    rfl
  have hlast : ∀ a ∈ (w.map (·, some o)).getLast?, a.2 = some o := by
    intro a ha
    obtain ⟨c, -, rfl⟩ := List.mem_map.1 (List.mem_of_mem_getLast? ha)
    rfl
  have hhead : ∀ b ∈ (w.map (·, some o) ++ cs).head?, b.2 = some o := by
    cases w with
    | nil => contradiction
    | cons c w => simp
  rw [tokensOfOwned_append, tokensOfOwned_held, tokensOfOwned_append, tokensOfOwned_map hw,
    tokenOf_map_some hw]
  · rfl
  · intro a ha b hb
    simp [sameOwner, hlast a ha, h b hb]
  · intro a ha b hb
    simp [sameOwner, hheld a ha, hhead b hb]

/-- What is left of a gap gives the tokens that the lexer reads there. `held` is the plain text
just before. -/
theorem tokensOfOwned_eq_tokensFrom (hlx : IsWordLexicon lx)
    (hx : x.getLast?.any Unicode.isWord = false ∨ t.head?.any Unicode.isWord = false)
    (hfree : ∀ u, u <:+ t → Literal.match? u = none) :
    tokensOfOwned (held.map (·, none) ++ ownedFrom (annotate lx (x ++ t)) x.length t) =
      tokensFrom lx held t := by
  induction t using WholeWord.induction generalizing x held with
  | nil => simp [tokensOfOwned_held]
  | word w t hw ih =>
    -- By the edge condition the word does not start in the text before.
    have hwx : WholeWord x w t := by
      rw [← List.append_nil x]
      exact (WholeWord.append_iff hx).2 hw
    have hfree' : ∀ u, u <:+ t → Literal.match? u = none := fun u hu =>
      hfree u (hu.trans (List.suffix_append w t))
    have hhead := owner_head_annotate hlx hw.stop (x ++ w)
    rw [ownedFrom_append, OnePass.tokensFrom_word hw, ← List.length_append]
    by_cases ht : tagOf lx w t = .plain
    · have ho := ownedFrom_eq_map fun _ => owner_annotate_plain hlx hwx ht
      have hrest := @ih (x ++ w) (held ++ w) (.inr hw.stop) hfree'
      rw [if_pos ht, ← hrest, ho, List.map_append, List.append_assoc, List.append_assoc]
    · obtain ⟨o, htag, hw'⟩ := exists_owner_annotate hlx hwx ht
      have hrest := @ih (x ++ w) [] (.inr hw.stop) hfree'
      rw [List.append_assoc] at hhead hrest
      rw [if_neg ht, ← hrest, ownedFrom_eq_map hw', tokensOfOwned_held_word held hw.ne_nil o hhead,
        htag]
      rfl
  | char c t hc ih =>
    have hm := hfree (c :: t) (List.suffix_refl _)
    have hrest := @ih (x ++ [c]) (held ++ [c]) (.inl (by simpa using hc)) fun u hu =>
      hfree u (hu.trans (List.suffix_cons c t))
    rw [OnePass.tokensFrom_char hm hc, ← hrest, ownedFrom_cons, owner_annotate_char hlx hc]
    simp

theorem resolve_annotate {gap rest : Text} (hlx : IsWordLexicon lx)
    (h : Literal.pattern.IsGap gap rest) :
    resolve gap (annotate lx gap) = tokensFrom lx [] gap := by
  have hr : tokensOfOwned (([] : Text).map (·, none) ++ ownedFrom (annotate lx ([] ++ gap)) 0 gap) =
      tokensFrom lx [] gap :=
    tokensOfOwned_eq_tokensFrom hlx (.inl rfl) fun _ => Literal.match?_of_isGap h
  rwa [ownedFrom_zero, List.map_nil, List.nil_append, List.nil_append, tokensOfOwned_owned] at hr

theorem flatMap_tokensOf_release (lx : Lexicon) (gap : Text) (fs : List (Fragment Text)) :
    (Pattern.release gap.reverse fs).flatMap (tokensOf lx) =
      resolve gap (annotate lx gap) ++ fs.flatMap (tokensOf lx) := by
  cases gap with
  | nil => rfl
  | cons c gap => simp [Pattern.release, tokensOf]

theorem flatMap_tokensOf_cut (hlx : IsWordLexicon lx) (line : Text) :
    (Literal.pattern.cut line).flatMap (tokensOf lx) = OnePass.tokens lx line := by
  rw [OnePass.tokens]
  induction line using Pattern.gap_induction (p := Literal.pattern) with
  | last gap h =>
    rw [h.cut_eq, flatMap_tokensOf_release, resolve_annotate hlx h]
    exact List.append_nil _
  | found gap rest l r h hm ih =>
    rw [h.cut_append hm, flatMap_tokensOf_release, resolve_annotate hlx h, List.flatMap_cons, ih,
      OnePass.tokensFrom_append h, OnePass.tokensFrom_literal hm]
    rfl

/-- When a lexicon holds words only, tokens are what one pass over the line reads, and those that
are neither literals nor plain are whole words. -/
theorem tokens_eq_onePass {line : Text} (hlx : IsWordLexicon lx)
    (hline : Line.isComment line = false) :
    tokens lx line = OnePass.tokens lx line ∧
      ∀ before k after, tokens lx line = before ++ k :: after → k.tag ≠ .literal →
        k.tag ≠ .plain → WholeWord (Token.join before) k.text (Token.join after) ∧
          k.tag = tagOf lx k.text (Token.join after) := by
  have heq : tokens lx line = OnePass.tokens lx line := by
    rw [tokens, ← flatMap_tokensOf_cut hlx]
    split
    next he =>
      simp [List.isEmpty_iff.1 he, Pattern.cut, Pattern.release]
    next => simp [hline]
  refine ⟨heq, ?_⟩
  rw [heq]
  exact OnePass.wordsWhole_tokensFrom (x := []) (.inl rfl)

theorem tokens_eq_onePass_javascript :
    IsWordLexicon .javascript ∧
      Line.isComment "constant = if (größe(`new `)) x" = false ∧
      tokens .javascript "constant = if (größe(`new `)) x" =
        OnePass.tokens .javascript "constant = if (größe(`new `)) x" ∧
      OnePass.tokens .javascript "constant = if (größe(`new `)) x" =
        [⟨"constant = ", .plain⟩, ⟨"if", .keyword⟩, ⟨" (", .plain⟩, ⟨"größe", .call⟩,
          ⟨"(", .plain⟩, ⟨"`new `", .literal⟩, ⟨")) x", .plain⟩] := by
  have hlx : IsWordLexicon .javascript := by decide +kernel
  have hline : Line.isComment "constant = if (größe(`new `)) x" = false := by decide
  exact ⟨hlx, hline, (tokens_eq_onePass hlx hline).1, by decide +kernel⟩

end LessonText.Listing

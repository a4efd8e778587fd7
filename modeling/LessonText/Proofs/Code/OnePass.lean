import LessonText.Code.Listing
import LessonText.Proofs.Code.Tiling
import LessonText.Proofs.Code.WholeWord

namespace LessonText

namespace Literal

variable {c : Char} {t l r gap rest : Text}

theorem isQuote_iff : isQuote c ↔ (c = '"' ∨ c = '\x27') ∨ c = '\x60' := by
  simp [isQuote]

theorem isWord_of_isQuote (h : isQuote c) : Unicode.isWord c = false := by
  rcases isQuote_iff.1 h with (rfl | rfl) | rfl <;> decide

theorem isWhiteSpace_of_isQuote (h : isQuote c) : Unicode.isWhiteSpace c = false := by
  rcases isQuote_iff.1 h with (rfl | rfl) | rfl <;> decide

@[simp] theorem match?_nil : match? [] = none := rfl

theorem match?_cons_of_not (t : Text) (h : isQuote c = false) : match? (c :: t) = none := by
  simp [match?, h]

theorem exists_of_match? (h : match? t = some (l, r)) : ∃ q u, t = q :: u ∧ isQuote q := by
  obtain ⟨q, body, hq, rfl, -, rfl⟩ := match?_eq_some h
  exact ⟨q, body ++ [q] ++ r, rfl, hq⟩

theorem length_lt_of_match? (h : match? t = some (l, r)) : r.length < t.length :=
  pattern.shorter h

theorem match?_quoted {q : Char} {body : Text} (hq : isQuote q) (hbody : q ∉ body) (t : Text) :
    match? (q :: (body ++ q :: t)) = some (q :: (body ++ [q]), t) := by
  have hne : ∀ c ∈ body, (c != q) = true := fun c hc => by
    rw [bne_iff_ne]
    rintro rfl
    exact hbody hc
  simp [match?, hq, List.takeWhile_append_of_pos hne, List.dropWhile_append_of_pos hne]

theorem match?_append (h : match? t = some (l, r)) (rest : Text) :
    match? (t ++ rest) = some (l, r ++ rest) := by
  obtain ⟨q, body, hq, rfl, hbody, rfl⟩ := match?_eq_some h
  simpa using match?_quoted hq hbody (r ++ rest)

theorem match?_of_isGap (h : pattern.IsGap gap rest) (ht : t <:+ gap) : match? t = none := by
  cases t with
  | nil => rfl
  | cons c t =>
    cases hm : match? (c :: t) with
    | none => rfl
    | some lr =>
      have hf : match? (c :: t ++ rest) = none := h.free (c :: t) ht (List.cons_ne_nil c t)
      rw [match?_append hm] at hf
      contradiction

theorem head?_of_isGap (h : pattern.IsGap gap rest) :
    rest = [] ∨ ∃ q u, rest = q :: u ∧ isQuote q :=
  h.stop.imp id fun ⟨_, _, hm⟩ => exists_of_match? hm

end Literal

namespace OnePass

/-- Whether a word that stands before `after` is called. No literal can come between the word and
the parenthesis, since literals start with a quote. -/
def IsCalled (after : Text) : Prop :=
  after.trimStart.head? = some '('

instance (after : Text) : Decidable (IsCalled after) :=
  inferInstanceAs (Decidable (after.trimStart.head? = some '('))

def tagOf (lx : Lexicon) (word after : Text) : Tag :=
  if word ∈ lx.keywords then .keyword
  else if word ∈ lx.builtins then .builtin
  else if IsCalled after then .call
  else .plain

def release (held : Text) : List Token :=
  if held.isEmpty then [] else [⟨held, .plain⟩]

/-- `held` is the plain text since the last token that is not plain. -/
def tokensFrom (lx : Lexicon) (held t : Text) : List Token :=
  match _h : Literal.match? t with
  | some (l, r) => release held ++ ⟨l, .literal⟩ :: tokensFrom lx [] r
  | none =>
    match t with
    | [] => release held
    | c :: r =>
      if Unicode.isWord c then
        let word := c :: r.takeWhile Unicode.isWord
        let rest := r.dropWhile Unicode.isWord
        if tagOf lx word rest = .plain then tokensFrom lx (held ++ word) rest
        else release held ++ ⟨word, tagOf lx word rest⟩ :: tokensFrom lx [] rest
      else tokensFrom lx (held ++ [c]) r
termination_by t.length
decreasing_by
  · exact Literal.length_lt_of_match? _h
  · exact Nat.lt_succ_of_le (List.dropWhile_sublist _).length_le
  · exact Nat.lt_succ_of_le (List.dropWhile_sublist _).length_le
  · exact Nat.lt_succ_self _

def tokens (lx : Lexicon) (line : Text) : List Token :=
  tokensFrom lx [] line

variable {lx : Lexicon} {held l r w : Text} {c : Char}

theorem tokensFrom_literal {t : Text} (h : Literal.match? t = some (l, r)) :
    tokensFrom lx held t = release held ++ ⟨l, .literal⟩ :: tokensFrom lx [] r := by
  rw [tokensFrom]
  split
  next h' => simp_all
  next h' => simp_all

@[simp] theorem tokensFrom_nil : tokensFrom lx held [] = release held := by
  rw [tokensFrom]
  rfl

theorem tokensFrom_char (h : Literal.match? (c :: r) = none) (hc : Unicode.isWord c = false) :
    tokensFrom lx held (c :: r) = tokensFrom lx (held ++ [c]) r := by
  rw [tokensFrom]
  split
  next h' => simp_all
  next h' => simp [hc]

theorem match?_word (h : WholeWord [] w r) : Literal.match? (w ++ r) = none := by
  cases w with
  | nil => exact absurd rfl h.ne_nil
  | cons c w =>
    apply Literal.match?_cons_of_not
    cases hq : Literal.isQuote c with
    | false => rfl
    | true => exact absurd h.isWord_head (by simp [Literal.isWord_of_isQuote hq])

theorem tokensFrom_word (h : WholeWord [] w r) :
    tokensFrom lx held (w ++ r) =
      if tagOf lx w r = .plain then tokensFrom lx (held ++ w) r
      else release held ++ ⟨w, tagOf lx w r⟩ :: tokensFrom lx [] r := by
  have hm := match?_word h
  cases w with
  | nil => exact absurd rfl h.ne_nil
  | cons c w =>
    rw [List.cons_append] at hm ⊢
    rw [tokensFrom]
    split
    next h' => simp_all
    next h' => simp [h.isWord_head, h.takeWhile_tail, h.dropWhile_tail]

theorem induction {motive : Text → Prop} (nil : motive [])
    (literal : ∀ t l r, Literal.match? t = some (l, r) → motive r → motive t)
    (word : ∀ w t, WholeWord [] w t → motive t → motive (w ++ t))
    (char : ∀ c t, Literal.match? (c :: t) = none → Unicode.isWord c = false → motive t →
      motive (c :: t)) (t : Text) : motive t := by
  cases h : Literal.match? t with
  | some lr =>
    have hlt := Literal.length_lt_of_match? h
    exact literal t lr.1 lr.2 h (induction nil literal word char lr.2)
  | none =>
    cases t with
    | nil => exact nil
    | cons c t =>
      cases hc : Unicode.isWord c with
      | true =>
        have h := word _ _ (.of_cons t hc)
          (induction nil literal word char (t.dropWhile Unicode.isWord))
        rwa [List.cons_append, List.takeWhile_append_dropWhile] at h
      | false => exact char c t h hc (induction nil literal word char t)
termination_by t.length
decreasing_by
  · exact Nat.lt_succ_self _
  · exact Nat.lt_succ_of_le (List.dropWhile_sublist _).length_le
  · exact hlt

section Gap

variable {gap rest : Text}

theorem isCalled_append (h : Literal.pattern.IsGap gap rest) (t : Text) :
    IsCalled (t ++ rest) ↔ IsCalled t := by
  rcases Literal.head?_of_isGap h with rfl | ⟨q, u, rfl, hq⟩
  · rw [List.append_nil]
  · have hs : (q :: u).head?.any Unicode.isWhiteSpace = false := by
      simp [Literal.isWhiteSpace_of_isQuote hq]
    rw [IsCalled, IsCalled, Text.trimStart, Text.dropWhile_append_of_head? t hs, ← Text.trimStart]
    cases t.trimStart with
    | nil =>
      have hne : q ≠ '(' := by
        rintro rfl
        simp [Literal.isQuote] at hq
      simpa using hne
    | cons c t => rfl

theorem tagOf_append (h : Literal.pattern.IsGap gap rest) (w t : Text) :
    tagOf lx w (t ++ rest) = tagOf lx w t := by
  simp only [tagOf, isCalled_append h]

theorem wholeWord_append (h : Literal.pattern.IsGap gap rest) {before t : Text}
    (hw : WholeWord before w t) : WholeWord before w (t ++ rest) where
  ne_nil := hw.ne_nil
  isWord := hw.isWord
  start := hw.start
  stop := by
    cases t with
    | nil =>
      rcases Literal.head?_of_isGap h with rfl | ⟨q, u, rfl, hq⟩
      · rfl
      · simp [Literal.isWord_of_isQuote hq]
    | cons c t => exact hw.stop

theorem tokensFrom_append (h : Literal.pattern.IsGap gap rest) :
    tokensFrom lx held (gap ++ rest) = tokensFrom lx held gap ++ tokensFrom lx [] rest := by
  induction gap using WholeWord.induction generalizing held with
  | nil =>
    rcases h.stop with rfl | ⟨l, r, hm⟩
    · simp [release]
    · rw [List.nil_append, tokensFrom_literal hm, tokensFrom_literal hm, tokensFrom_nil]
      rfl
  | word w t hw ih =>
    have ht := h.suffix (List.suffix_append w t)
    rw [List.append_assoc, tokensFrom_word (wholeWord_append ht hw), tokensFrom_word hw,
      tagOf_append ht, ih ht, ih ht]
    split
    · rfl
    · simp
  | char c t hc ih =>
    rw [List.cons_append, tokensFrom_char h.match?_cons hc,
      tokensFrom_char (Literal.match?_of_isGap h (List.suffix_refl _)) hc,
      ih (h.suffix (List.suffix_cons c t))]

end Gap

@[simp] theorem join_release (held : Text) : Token.join (release held) = held := by
  cases held <;> simp [release]

theorem join_tokensFrom (lx : Lexicon) (held t : Text) :
    Token.join (tokensFrom lx held t) = held ++ t := by
  induction t using induction generalizing held with
  | nil => simp
  | literal t l r h ih =>
    rw [tokensFrom_literal h, Literal.append_of_match? h]
    simp [ih]
  | word w t hw ih =>
    rw [tokensFrom_word hw]
    split <;> simp [ih]
  | char c t hm hc ih => simp [tokensFrom_char hm hc, ih]

def WordsWhole (lx : Lexicon) (x : Text) (ks : List Token) : Prop :=
  ∀ before k after, ks = before ++ k :: after → k.tag ≠ .literal → k.tag ≠ .plain →
    WholeWord (x ++ Token.join before) k.text (Token.join after) ∧
      k.tag = tagOf lx k.text (Token.join after)

namespace WordsWhole

variable {x : Text} {k : Token} {ks : List Token}

theorem nil : WordsWhole lx x [] := by
  intro before k after h
  simp at h

theorem cons (hk : k.tag ≠ .literal → k.tag ≠ .plain → WholeWord x k.text (Token.join ks) ∧
      k.tag = tagOf lx k.text (Token.join ks)) (h : WordsWhole lx (x ++ k.text) ks) :
    WordsWhole lx x (k :: ks) := by
  intro before k' after ht
  cases before with
  | nil =>
    obtain ⟨rfl, rfl⟩ := List.cons.inj ht
    simpa using hk
  | cons b before =>
    obtain ⟨rfl, rfl⟩ := List.cons.inj ht
    simpa using h before k' after rfl

theorem release_append (h : WordsWhole lx (x ++ held) ks) :
    WordsWhole lx x (release held ++ ks) := by
  cases held with
  | nil =>
    rw [List.append_nil] at h
    exact h
  | cons c held => exact cons (fun _ hp => absurd rfl hp) h

end WordsWhole

theorem wordsWhole_tokensFrom {x t : Text} (hx : (x ++ held).getLast?.any Unicode.isWord = false ∨
    t.head?.any Unicode.isWord = false) : WordsWhole lx x (tokensFrom lx held t) := by
  induction t using induction generalizing x held with
  | nil =>
    rw [tokensFrom_nil, ← List.append_nil (release held)]
    exact .release_append .nil
  | literal t l r h ih =>
    rw [tokensFrom_literal h]
    refine .release_append (.cons (fun hl => absurd rfl hl) (ih (.inl ?_)))
    obtain ⟨q, body, hq, rfl, -, -⟩ := Literal.match?_eq_some h
    rw [List.append_nil, ← List.cons_append, ← List.append_assoc, List.getLast?_concat]
    exact Literal.isWord_of_isQuote hq
  | word w t hw ih =>
    rw [tokensFrom_word hw]
    split
    next => exact ih (.inr hw.stop)
    next =>
      have hxw : WholeWord (x ++ held ++ []) w t := (WholeWord.append_iff hx).2 hw
      rw [List.append_nil] at hxw
      refine .release_append (.cons (fun _ _ => ?_) (ih (.inr hw.stop)))
      rw [join_tokensFrom]
      exact ⟨hxw, rfl⟩
  | char c t hm hc ih =>
    rw [tokensFrom_char hm hc]
    exact ih (.inl (by simp [hc]))

end OnePass

end LessonText

import Mathlib.Data.List.Infix
import Mathlib.Data.List.TakeWhile
import LessonText.Proofs.Text.Runs
import LessonText.Storage.Expansion

/-! What a path is written with: characters, and references to variables, with braces and without.
Every path is made of such parts, and they are what its pieces are read from. -/

namespace LessonText.Expansion

inductive Part
  | character (c : Char)
  | dollars
  | bare (name : Text)
  | braced (inner : Text)

def Part.write : Part → Text
  | .character c => [c]
  | .dollars => ['$', '$']
  | .bare name => '$' :: name
  | .braced inner => '$' :: '{' :: (inner ++ ['}'])

/-- A dollar sign in front of this text belongs to no other part: no second one follows, no name
and no braces that are closed. -/
structure IsStray (rest : Text) : Prop where
  dollar : rest.head? ≠ some '$'
  name : rest.head?.any isNameCharacter = false
  braces : ∀ {r}, rest = '{' :: r → '}' ∉ r

/-- Whether the part is read as a whole in front of this text. Names go on as long as they can, and
the first closing brace ends braces. -/
def Part.StandsBefore (rest : Text) : Part → Prop
  | .character c => c = '$' → IsStray rest
  | .dollars => True
  | .bare name => name ≠ [] ∧ (∀ c ∈ name, isNameCharacter c) ∧
      rest.head?.any isNameCharacter = false
  | .braced inner => '}' ∉ inner

inductive Divides : Text → List Part → Prop
  | nil : Divides [] []
  | cons {p : Part} {rest : Text} {ps : List Part} (h : p.StandsBefore rest)
      (hs : Divides rest ps) : Divides (p.write ++ rest) (p :: ps)

def fallbackMark : Text := [':', '-']

/-- The variable that a part refers to, and what stands in for it if it is not set. In braces the
first mark ends the name, but a mark that leads is part of it. -/
inductive Part.Refers : Part → Text → Option Text → Prop
  | bare {name : Text} : Refers (.bare name) name none
  | braced {name : Text} (h : fallbackMark <:+: name → fallbackMark <+: name) :
      Refers (.braced name) name none
  | fallback {name v : Text} (hne : name ≠ []) (h : ¬fallbackMark <:+: name) :
      Refers (.braced (name ++ (fallbackMark ++ v))) name (some v)

def Part.piece : Part → Piece
  | .character c => .literal c
  | .dollars => .literal '$'
  | .bare name => .variable name none
  | .braced inner => .ofBraces inner

variable {t rest name gathered inner : Text} {p : Part} {ps : List Part} {c : Char}

theorem isNameCharacter_dollar : isNameCharacter '$' = false := by decide

theorem isNameCharacter_brace : isNameCharacter '{' = false := by decide

theorem piecesFrom_plain_of_ne (t : Text) (h : c ≠ '$') :
    piecesFrom .plain (c :: t) = .literal c :: pieces t := by
  rw [piecesFrom, if_neg h, pieces]

theorem piecesFrom_dollar_of_isStray (h : IsStray rest) :
    piecesFrom .dollar rest = .literal '$' :: pieces rest := by
  cases rest with
  | nil => rfl
  | cons c r =>
    have hdollar : c ≠ '$' := by simpa using h.dollar
    have hname : isNameCharacter c = false := by simpa using h.name
    have hbraces : ¬(c = '{' ∧ '}' ∈ r) := fun hc => h.braces (hc.1 ▸ rfl) hc.2
    rw [piecesFrom, if_neg hdollar, if_neg hbraces, if_neg (by simp [hname]), pieces,
      piecesFrom_plain_of_ne r hdollar, pieces]

theorem piecesFrom_name (hname : ∀ c ∈ name, isNameCharacter c)
    (hrest : rest.head?.any isNameCharacter = false) :
    piecesFrom (.name gathered) (name ++ rest) =
      .variable (gathered.reverse ++ name) none :: pieces rest := by
  induction name generalizing gathered with
  | nil =>
    cases rest with
    | nil => simp [piecesFrom, pieces]
    | cons c r =>
      have hc : isNameCharacter c = false := by simpa using hrest
      rw [List.nil_append, piecesFrom, if_neg (by simp [hc]), pieces, piecesFrom, List.append_nil]
  | cons c name ih =>
    rw [List.forall_mem_cons] at hname
    rw [List.cons_append, piecesFrom, if_pos hname.1, ih hname.2]
    simp

theorem piecesFrom_braces (h : '}' ∉ inner) :
    piecesFrom (.braces gathered) (inner ++ '}' :: rest) =
      .ofBraces (gathered.reverse ++ inner) :: pieces rest := by
  induction inner generalizing gathered with
  | nil => simp [piecesFrom, pieces]
  | cons c inner ih =>
    rw [List.mem_cons, not_or] at h
    rw [List.cons_append, piecesFrom, if_neg (Ne.symm h.1), ih h.2]
    simp

theorem pieces_write_append (h : p.StandsBefore rest) :
    pieces (p.write ++ rest) = p.piece :: pieces rest := by
  cases p with
  | character c =>
    rw [Part.write, List.singleton_append, pieces]
    by_cases hc : c = '$'
    · rw [piecesFrom, if_pos hc, piecesFrom_dollar_of_isStray (h hc), hc]
      rfl
    · exact piecesFrom_plain_of_ne rest hc
  | dollars => rfl
  | bare name =>
    obtain ⟨hne, hname, hrest⟩ := h
    obtain ⟨c, name, rfl⟩ := List.exists_cons_of_ne_nil hne
    obtain ⟨hc, hname⟩ := List.forall_mem_cons.1 hname
    have hdollar : c ≠ '$' := by
      rintro rfl
      simp [isNameCharacter_dollar] at hc
    have hbrace : c ≠ '{' := by
      rintro rfl
      simp [isNameCharacter_brace] at hc
    rw [Part.write, List.cons_append, List.cons_append, pieces, piecesFrom, if_pos rfl, piecesFrom,
      if_neg hdollar, if_neg (fun h => hbrace h.1), if_pos hc, piecesFrom_name hname hrest]
    rfl
  | braced inner =>
    have hmem : '}' ∈ inner ++ '}' :: rest := by simp
    rw [Part.write, List.cons_append, List.cons_append, List.append_assoc, List.singleton_append,
      pieces, piecesFrom, if_pos rfl, piecesFrom, if_neg (by decide), if_pos ⟨rfl, hmem⟩,
      piecesFrom_braces h]
    rfl

theorem Divides.pieces_eq (h : Divides t ps) : pieces t = ps.map Part.piece := by
  induction h with
  | nil => rfl
  | cons h _ ih => rw [pieces_write_append h, ih, List.map_cons]

theorem exists_standsBefore (c : Char) (t : Text) :
    ∃ (p : Part) (rest : Text), c :: t = p.write ++ rest ∧ p.StandsBefore rest := by
  by_cases hc : c = '$'
  case neg => exact ⟨.character c, t, rfl, fun h => absurd h hc⟩
  subst hc
  -- the text behind a dollar sign tells which of the parts begins there
  by_cases hdollar : t.head? = some '$'
  case pos =>
    obtain ⟨r, rfl⟩ := List.head?_eq_some_iff.1 hdollar
    exact ⟨.dollars, r, rfl, trivial⟩
  by_cases hname : t.head?.any isNameCharacter = false
  case neg =>
    refine ⟨.bare (t.takeWhile isNameCharacter), t.dropWhile isNameCharacter, ?_, ?_, ?_, ?_⟩
    · rw [Part.write, List.cons_append, List.takeWhile_append_dropWhile]
    · cases t with
      | nil => simp at hname
      | cons c r => simpa using hname
    · exact fun c => List.mem_takeWhile_imp
    · exact Text.any_head?_dropWhile _ t
  by_cases hbraces : ∃ r, t = '{' :: r ∧ '}' ∈ r
  case pos =>
    obtain ⟨r, rfl, hr⟩ := hbraces
    obtain ⟨inner, rest, rfl, hinner⟩ := List.eq_append_cons_of_mem hr
    exact ⟨.braced inner, rest, by simp [Part.write], hinner⟩
  case neg =>
    refine ⟨.character '$', t, rfl, fun _ => ⟨hdollar, hname, ?_⟩⟩
    rintro r rfl hr
    exact hbraces ⟨r, rfl, hr⟩

theorem exists_divides (t : Text) : ∃ ps, Divides t ps := by
  induction hn : t.length using Nat.strongRecOn generalizing t with
  | _ n ih =>
    cases t with
    | nil => exact ⟨[], .nil⟩
    | cons c t =>
      obtain ⟨p, rest, ht, hp⟩ := exists_standsBefore c t
      have hlen : rest.length < n := by
        rw [← hn, ht, List.length_append]
        cases p <;> simp [Part.write]
      obtain ⟨ps, hps⟩ := ih _ hlen rest rfl
      rw [ht]
      exact ⟨p :: ps, .cons hp hps⟩

theorem fallbackMark_isPrefix_iff :
    fallbackMark <+: c :: t ↔ c = ':' ∧ t.head? = some '-' := by
  cases t <;> simp [fallbackMark, eq_comm]

theorem cut_eq_self (h : ¬fallbackMark <:+: t) : cut t = (t, none) := by
  induction t with
  | nil => rfl
  | cons c t ih =>
    rw [List.infix_cons_iff, not_or, fallbackMark_isPrefix_iff] at h
    rw [cut, if_neg h.1, ih h.2]

theorem cut_append (v : Text) (h : ¬fallbackMark <:+: name) :
    cut (name ++ (fallbackMark ++ v)) = (name, some v) := by
  induction name with
  | nil => rfl
  | cons c name ih =>
    rw [List.infix_cons_iff, not_or, fallbackMark_isPrefix_iff] at h
    have hhead : ¬(c = ':' ∧ (name ++ (fallbackMark ++ v)).head? = some '-') := by
      cases name with
      | nil => simp [fallbackMark]
      | cons d name => simpa using h.1
    rw [List.cons_append, cut, if_neg hhead, ih h.2]

theorem exists_eq_append_of_infix (h : fallbackMark <:+: t) :
    ∃ name v, t = name ++ (fallbackMark ++ v) ∧ ¬fallbackMark <:+: name := by
  induction t with
  | nil => simp [fallbackMark] at h
  | cons c t ih =>
    by_cases hprefix : fallbackMark <+: c :: t
    · obtain ⟨v, hv⟩ := hprefix
      exact ⟨[], v, hv.symm, by simp [fallbackMark]⟩
    · obtain ⟨name, v, rfl, hname⟩ := ih ((List.infix_cons_iff.1 h).resolve_left hprefix)
      refine ⟨c :: name, v, rfl, ?_⟩
      rw [List.infix_cons_iff, not_or]
      refine ⟨fun hp => hprefix (hp.trans ?_), hname⟩
      simp

theorem Part.Refers.piece_eq {f : Option Text} (h : p.Refers name f) :
    p.piece = .variable name f := by
  cases h with
  | bare => rfl
  | braced h =>
    rw [Part.piece, Piece.ofBraces]
    by_cases hinfix : fallbackMark <:+: name
    · obtain ⟨v, rfl⟩ := h hinfix
      rfl
    · rw [cut_eq_self hinfix]
      cases name <;> rfl
  | fallback hne h =>
    rw [Part.piece, Piece.ofBraces, cut_append _ h]
    obtain ⟨c, name, rfl⟩ := List.exists_cons_of_ne_nil hne
    rfl

theorem exists_refers_braced (inner : Text) : ∃ name f, (Part.braced inner).Refers name f := by
  by_cases h : fallbackMark <:+: inner → fallbackMark <+: inner
  · exact ⟨inner, none, .braced h⟩
  · rw [Classical.not_imp] at h
    obtain ⟨name, v, rfl, hname⟩ := exists_eq_append_of_infix h.1
    refine ⟨name, some v, .fallback ?_ hname⟩
    rintro rfl
    exact h.2 (List.prefix_append _ _)

theorem refers_iff {f : Option Text} : p.Refers name f ↔ p.piece = .variable name f := by
  refine ⟨Part.Refers.piece_eq, fun h => ?_⟩
  cases p with
  | character c => simp [Part.piece] at h
  | dollars => simp [Part.piece] at h
  | bare n =>
    cases h
    exact .bare
  | braced inner =>
    obtain ⟨n, g, hr⟩ := exists_refers_braced inner
    rw [hr.piece_eq] at h
    cases h
    exact hr

end LessonText.Expansion

import Mathlib.Data.List.SplitBy
import LessonText.Code.Annotation

namespace LessonText.Annotation

variable {as : List Annotation} {a b : Annotation} {i j : Nat} {o : Placed}

theorem covers_iff {start stop : Nat} {tag : Tag} :
    covers ⟨start, stop, tag⟩ i ↔ start ≤ i ∧ i < stop := by
  simp [covers]

/-- `o` is the first of those annotations of the highest rank that cover the character. -/
structure Owns (as : List Annotation) (i : Nat) (o : Placed) : Prop where
  getElem? : as[o.2]? = some o.1
  covers : o.1.covers i
  rank_le : ∀ {b : Annotation} {j : Nat}, as[j]? = some b → b.covers i →
    b.tag.rank ≤ o.1.tag.rank
  first : ∀ {b : Annotation} {j : Nat}, as[j]? = some b → b.covers i →
    b.tag.rank = o.1.tag.rank → o.2 ≤ j

theorem Owns.mem (h : Owns as i o) : o.1 ∈ as :=
  List.mem_of_getElem? h.getElem?

theorem Owns.rank_le_of_mem (h : Owns as i o) (hb : b ∈ as) (hc : b.covers i) :
    b.tag.rank ≤ o.1.tag.rank := by
  obtain ⟨j, hj⟩ := List.mem_iff_getElem?.1 hb
  exact h.rank_le hj hc

theorem Owns.unique {o' : Placed} (h : Owns as i o) (h' : Owns as i o') : o = o' := by
  have hrank : o.1.tag.rank = o'.1.tag.rank :=
    Nat.le_antisymm (h'.rank_le h.getElem? h.covers) (h.rank_le h'.getElem? h'.covers)
  have hplace : o.2 = o'.2 :=
    Nat.le_antisymm (h.first h'.getElem? h'.covers hrank.symm)
      (h'.first h.getElem? h.covers hrank)
  have hget := h.getElem?
  rw [hplace, h'.getElem?, Option.some_inj] at hget
  exact Prod.ext hget.symm hplace

theorem getElem?_append_singleton_eq_some :
    (as ++ [a])[j]? = some b ↔ as[j]? = some b ∨ j = as.length ∧ a = b := by
  rcases Nat.lt_trichotomy j as.length with h | rfl | h
  · simp [List.getElem?_append_left h, Nat.ne_of_lt h]
  · simp
  · have h₁ : as[j]? = none := List.getElem?_eq_none (Nat.le_of_lt h)
    have h₂ : (as ++ [a])[j]? = none := List.getElem?_eq_none <| by
      rw [List.length_append]
      exact h
    simp [h₁, h₂, Nat.ne_of_gt h]

theorem Owns.append_singleton (h : Owns as i o)
    (ha : a.covers i → a.tag.rank ≤ o.1.tag.rank) : Owns (as ++ [a]) i o where
  getElem? := getElem?_append_singleton_eq_some.2 (.inl h.getElem?)
  covers := h.covers
  rank_le hj hc := by
    rcases getElem?_append_singleton_eq_some.1 hj with hj | ⟨-, rfl⟩
    · exact h.rank_le hj hc
    · exact ha hc
  first hj hc hr := by
    rcases getElem?_append_singleton_eq_some.1 hj with hj | ⟨rfl, rfl⟩
    · exact h.first hj hc hr
    · exact Nat.le_of_lt (List.getElem?_eq_some_iff.1 h.getElem?).1

theorem owns_last (hc : a.covers i) (h : ∀ b ∈ as, b.covers i → b.tag.rank < a.tag.rank) :
    Owns (as ++ [a]) i (a, as.length) where
  getElem? := getElem?_append_singleton_eq_some.2 (.inr ⟨rfl, rfl⟩)
  covers := hc
  rank_le hj hb := by
    rcases getElem?_append_singleton_eq_some.1 hj with hj | ⟨-, rfl⟩
    · exact Nat.le_of_lt (h _ (List.mem_of_getElem? hj) hb)
    · exact Nat.le_refl _
  first hj hb hr := by
    rcases getElem?_append_singleton_eq_some.1 hj with hj | ⟨rfl, -⟩
    · exact absurd hr (Nat.ne_of_lt (h _ (List.mem_of_getElem? hj) hb))
    · exact Nat.le_refl _

theorem owner_append_singleton (as : List Annotation) (a : Annotation) (i : Nat) :
    owner (as ++ [a]) i =
      if a.covers i then
        match owner as i with
        | none => some (a, as.length)
        | some o => if o.1.tag.rank < a.tag.rank then some (a, as.length) else some o
      else owner as i := by
  simp only [owner, List.zipIdx_append, List.foldl_append, Nat.zero_add]
  rfl

/-- Annotations taken one after the other leave a character to its owner, whichever way they
overlap. -/
theorem owner_spec (as : List Annotation) (i : Nat) :
    match owner as i with
    | none => ∀ a ∈ as, a.covers i = false
    | some o => Owns as i o := by
  induction as using List.reverseRecOn with
  | nil => simp [owner]
  | append_singleton as a ih =>
    rw [owner_append_singleton]
    cases hc : a.covers i with
    | false =>
      cases ho : owner as i with
      | none => simpa [ho, or_imp, forall_and, hc] using ih
      | some o =>
        rw [ho] at ih
        exact ih.append_singleton (by simp [hc])
    | true =>
      cases ho : owner as i with
      | none =>
        rw [ho] at ih
        exact owns_last hc fun b hb hb' => by simp [ih b hb] at hb'
      | some o =>
        rw [ho] at ih
        by_cases hr : o.1.tag.rank < a.tag.rank
        · simp only [hr, if_true]
          exact owns_last hc fun b hb hb' => Nat.lt_of_le_of_lt (ih.rank_le_of_mem hb hb') hr
        · simp only [hr, if_true, if_false]
          exact ih.append_singleton fun _ => Nat.le_of_not_lt hr

theorem owns_of_owner (h : owner as i = some o) : Owns as i o := by
  simpa [h] using owner_spec as i

theorem owner_eq_none_iff : owner as i = none ↔ ∀ a ∈ as, a.covers i = false := by
  constructor
  · intro h
    simpa [h] using owner_spec as i
  · intro h
    cases ho : owner as i with
    | none => rfl
    | some o =>
      have hc := (owns_of_owner ho).covers
      simp [h _ (owns_of_owner ho).mem] at hc

theorem owner_eq_some_iff : owner as i = some o ↔ Owns as i o := by
  refine ⟨owns_of_owner, fun h => ?_⟩
  cases ho : owner as i with
  | none =>
    have hc := owner_eq_none_iff.1 ho _ h.mem
    rw [h.covers] at hc
    contradiction
  | some o' => rw [(owns_of_owner ho).unique h]

theorem owner_congr (h : ∀ a ∈ as, a.covers i = a.covers j) : owner as i = owner as j := by
  induction as using List.reverseRecOn with
  | nil => rfl
  | append_singleton as a ih =>
    rw [owner_append_singleton, owner_append_singleton, ih fun b hb => h b (by simp [hb]),
      h a (by simp)]

def ownedFrom (as : List Annotation) (pos : Nat) (t : Text) : List (Char × Option Placed) :=
  (t.zipIdx pos).map fun ci => (ci.1, owner as ci.2)

theorem ownedFrom_zero (as : List Annotation) (t : Text) : ownedFrom as 0 t = owned t as :=
  rfl

@[simp] theorem ownedFrom_nil (as : List Annotation) (pos : Nat) : ownedFrom as pos [] = [] :=
  rfl

@[simp] theorem ownedFrom_cons (as : List Annotation) (pos : Nat) (c : Char) (t : Text) :
    ownedFrom as pos (c :: t) = (c, owner as pos) :: ownedFrom as (pos + 1) t :=
  rfl

theorem ownedFrom_append (as : List Annotation) (pos : Nat) (t u : Text) :
    ownedFrom as pos (t ++ u) = ownedFrom as pos t ++ ownedFrom as (pos + t.length) u := by
  simp [ownedFrom, List.zipIdx_append]

theorem ownedFrom_eq_map {pos : Nat} {t : Text} {o : Option Placed}
    (h : ∀ k < t.length, owner as (pos + k) = o) : ownedFrom as pos t = t.map (·, o) := by
  induction t generalizing pos with
  | nil => rfl
  | cons c t ih =>
    have h₀ := h 0 (Nat.succ_pos _)
    have h₁ : ∀ k < t.length, owner as (pos + 1 + k) = o := fun k hk => by
      rw [Nat.add_assoc, Nat.add_comm 1]
      exact h (k + 1) (Nat.succ_lt_succ hk)
    rw [ownedFrom_cons, List.map_cons, ih h₁, ← h₀, Nat.add_zero]

@[simp] theorem sameOwner_iff {c d : Char} {o u : Option Placed} :
    sameOwner (c, o) (d, u) ↔ o.map Prod.snd = u.map Prod.snd :=
  beq_iff_eq

def tokensOfOwned (cs : List (Char × Option Placed)) : List Token :=
  (cs.splitBy sameOwner).map tokenOf

theorem tokensOfOwned_owned (t : Text) (as : List Annotation) :
    tokensOfOwned (owned t as) = resolve t as :=
  rfl

theorem tokensOfOwned_append {cs ds : List (Char × Option Placed)}
    (h : ∀ x ∈ cs.getLast?, ∀ y ∈ ds.head?, sameOwner x y = false) :
    tokensOfOwned (cs ++ ds) = tokensOfOwned cs ++ tokensOfOwned ds := by
  rw [tokensOfOwned, List.splitBy_append h, List.map_append]
  rfl

theorem tokensOfOwned_map {t : Text} (h : t ≠ []) (o : Option Placed) :
    tokensOfOwned (t.map (·, o)) = [tokenOf (t.map (·, o))] := by
  have hc : (t.map (·, o)).IsChain fun x y => sameOwner x y := by
    rw [List.isChain_map]
    exact (List.pairwise_of_forall fun _ _ => sameOwner_iff.2 rfl).isChain
  rw [tokensOfOwned, List.splitBy_of_isChain (by simpa using h) hc]
  rfl

theorem tokenOf_map_none (t : Text) : tokenOf (t.map (·, none)) = ⟨t, .plain⟩ := by
  cases t with
  | nil => rfl
  | cons c t => simp [tokenOf, Function.comp_def]

theorem tokenOf_map_some {t : Text} (h : t ≠ []) (o : Placed) :
    tokenOf (t.map (·, some o)) = ⟨t, o.1.tag⟩ := by
  cases t with
  | nil => contradiction
  | cons c t => simp [tokenOf, Function.comp_def]

@[simp] theorem map_fst_owned (t : Text) (as : List Annotation) :
    (owned t as).map Prod.fst = t := by
  simp [owned, Function.comp_def]

theorem join_map_tokenOf (runs : List (List (Char × Option Placed))) :
    Token.join (runs.map tokenOf) = runs.flatten.map Prod.fst := by
  simp only [Token.join, List.flatMap_def, List.map_map, List.map_flatten]
  rfl

@[simp] theorem join_resolve (t : Text) (as : List Annotation) :
    Token.join (resolve t as) = t := by
  rw [resolve, join_map_tokenOf, List.flatten_splitBy, map_fst_owned]

theorem text_ne_nil_of_mem_resolve {t : Text} {k : Token} (h : k ∈ resolve t as) :
    k.text ≠ [] := by
  obtain ⟨run, hr, rfl⟩ := List.mem_map.1 h
  simpa [tokenOf] using List.ne_nil_of_mem_splitBy hr

end LessonText.Annotation

import LessonText.Proofs.Code.Places
import LessonText.Proofs.Code.Resolution

namespace LessonText.Annotation

variable {as : List Annotation} {t : Text} {i j : Nat} {x y : Char × Option Placed}
  {run : List (Char × Option Placed)}

def classOf (owner : Option Placed) : Tag :=
  owner.elim .plain (·.1.tag)

theorem owner_eq_of_map_snd (h : (owner as i).map Prod.snd = (owner as j).map Prod.snd) :
    owner as i = owner as j := by
  cases hi : owner as i with
  | none =>
    rw [hi, Option.map_none, eq_comm, Option.map_eq_none_iff] at h
    exact h.symm
  | some o =>
    rw [hi, Option.map_some, eq_comm, Option.map_eq_some_iff] at h
    obtain ⟨o', hj, hsnd⟩ := h
    have hget := (owns_of_owner hi).getElem?
    rw [← hsnd, (owns_of_owner hj).getElem?] at hget
    rw [hj, Prod.ext (Option.some.inj hget) hsnd]

theorem exists_owner_of_mem_owned (h : x ∈ owned t as) : ∃ i, x.2 = owner as i := by
  obtain ⟨ci, -, rfl⟩ := List.mem_map.1 h
  exact ⟨ci.2, rfl⟩

theorem owner_eq_of_sameOwner (hx : x ∈ owned t as) (hy : y ∈ owned t as)
    (h : sameOwner x y) : x.2 = y.2 := by
  obtain ⟨i, hi⟩ := exists_owner_of_mem_owned hx
  obtain ⟨j, hj⟩ := exists_owner_of_mem_owned hy
  rw [sameOwner, beq_iff_eq, hi, hj] at h
  rw [hi, hj, owner_eq_of_map_snd h]

theorem subset_owned_of_mem_splitBy (h : run ∈ (owned t as).splitBy sameOwner) :
    run ⊆ owned t as := by
  intro x hx
  rw [← List.flatten_splitBy sameOwner (owned t as)]
  exact List.mem_flatten.2 ⟨run, h, hx⟩

theorem replicate_tag_tokenOf (h : run ∈ (owned t as).splitBy sameOwner) :
    List.replicate run.length (tokenOf run).tag = run.map fun x => classOf x.2 := by
  have hsub := subset_owned_of_mem_splitBy h
  have hchain : (run.map fun x => classOf x.2).IsChain (· = ·) := by
    rw [List.isChain_map]
    refine (List.isChain_of_mem_splitBy h).imp_of_mem_imp fun x y hx hy hxy => ?_
    rw [owner_eq_of_sameOwner (hsub hx) (hsub hy) hxy]
  obtain ⟨x, xs, rfl⟩ := List.exists_cons_of_ne_nil (List.ne_nil_of_mem_splitBy h)
  have htag : (tokenOf (x :: xs)).tag = classOf x.2 := by
    obtain ⟨c, _ | o⟩ := x <;> rfl
  rw [List.map_cons, List.isChain_cons_eq_iff_eq_replicate, List.length_map] at hchain
  rw [htag, List.map_cons, hchain, List.length_cons, List.replicate_succ]

theorem map_classOf_owned (t : Text) (as : List Annotation) :
    (owned t as).map (fun x => classOf x.2) =
      (List.range t.length).map fun i => classOf (owner as i) := by
  rw [owned, List.map_map, List.range_eq_range', ← List.zipIdx_map_snd 0 t, List.map_map]
  rfl

theorem tags_resolve (t : Text) (as : List Annotation) :
    Token.tags (resolve t as) = (List.range t.length).map fun i => classOf (owner as i) := by
  have hrun : ∀ run ∈ (owned t as).splitBy sameOwner,
      ((tokenOf run).text.map fun _ => (tokenOf run).tag) = run.map fun x => classOf x.2 := by
    intro run h
    rw [← replicate_tag_tokenOf h, List.map_const', tokenOf, List.length_map]
  rw [← map_classOf_owned, ← List.flatten_splitBy sameOwner (owned t as), List.map_flatten,
    resolve, Token.tags, List.flatMap_def, List.map_map]
  exact congrArg List.flatten (List.map_congr_left hrun)

theorem getElem?_owned (t : Text) (as : List Annotation) (i : Nat) :
    (owned t as)[i]? = t[i]?.map (·, owner as i) := by
  simp [owned, List.getElem?_zipIdx, Function.comp_def]

theorem sameOwner_eq_false_iff (hx : (owned t as)[i]? = some x) (hy : (owned t as)[j]? = some y) :
    sameOwner x y = false ↔ owner as i ≠ owner as j := by
  rw [getElem?_owned, Option.map_eq_some_iff] at hx hy
  obtain ⟨c, -, rfl⟩ := hx
  obtain ⟨d, -, rfl⟩ := hy
  rw [← Bool.not_eq_true, sameOwner_iff, not_iff_not]
  exact ⟨owner_eq_of_map_snd, fun h => by rw [h]⟩

theorem exists_splitBy_eq_append_iff {α : Type} {r : α → α → Bool} {u v : List α} {x y : α}
    (hx : u.getLast? = some x) (hy : v.head? = some y) :
    (∃ before after, (u ++ v).splitBy r = before ++ after ∧ before.flatten = u) ↔
      r x y = false := by
  constructor
  · rintro ⟨before, after, h, rfl⟩
    have hafter : after.flatten = v := by
      rw [← List.append_cancel_left_eq before.flatten, ← List.flatten_append, ← h,
        List.flatten_splitBy]
    subst hafter
    obtain ⟨before, p, rfl⟩ := (List.eq_nil_or_concat' before).resolve_left fun hnil => by
      simp [hnil] at hx
    obtain ⟨q, after, rfl⟩ := List.exists_cons_of_ne_nil fun hnil : after = [] => by
      simp [hnil] at hy
    have hchain := List.isChain_getLast_head_splitBy r
      ((before ++ [p]).flatten ++ (q :: after).flatten)
    rw [h, List.isChain_append] at hchain
    obtain ⟨hp, hq, hpq⟩ := hchain.2.2 p (by simp) q (by simp)
    rw [List.flatten_append, List.flatten_singleton, List.getLast?_append,
      List.getLast?_eq_some_getLast hp, Option.some_or] at hx
    rw [List.flatten_cons, List.head?_append, List.head?_eq_some_head hq, Option.some_or] at hy
    rwa [Option.some.inj hx, Option.some.inj hy] at hpq
  · intro h
    refine ⟨u.splitBy r, v.splitBy r, List.splitBy_append ?_, List.flatten_splitBy r u⟩
    intro x' hx' y' hy'
    rw [hx] at hx'
    rw [hy] at hy'
    cases hx'
    cases hy'
    exact h

theorem cutAt_resolve_iff_exists_splitBy {n : Nat} (hn : n ≤ t.length) :
    Token.CutAt (resolve t as) n ↔ ∃ before after,
      (owned t as).splitBy sameOwner = before ++ after ∧
        before.flatten = (owned t as).take n := by
  have hlen : (owned t as).length = t.length := by simp [owned]
  constructor
  · rintro ⟨_, _, h, hjoin⟩
    obtain ⟨before, after, hsplit, rfl, rfl⟩ := List.map_eq_append_iff.1 h
    rw [join_map_tokenOf, List.length_map] at hjoin
    refine ⟨before, after, hsplit, ?_⟩
    rw [← List.flatten_splitBy sameOwner (owned t as), hsplit, List.flatten_append, ← hjoin,
      List.take_left]
  · rintro ⟨before, after, hsplit, htake⟩
    refine ⟨before.map tokenOf, after.map tokenOf, ?_, ?_⟩
    · rw [resolve, hsplit, List.map_append]
    · rw [join_map_tokenOf, List.length_map, htake, List.length_take_of_le (hlen ▸ hn)]

theorem cutAt_resolve_iff (hi : i + 1 < t.length) :
    Token.CutAt (resolve t as) (i + 1) ↔ owner as i ≠ owner as (i + 1) := by
  have hlen : (owned t as).length = t.length := by simp [owned]
  have hx : (owned t as)[i]? = some (owned t as)[i] := List.getElem?_eq_getElem (by omega)
  have hy : (owned t as)[i + 1]? = some (owned t as)[i + 1] :=
    List.getElem?_eq_getElem (by omega)
  have hlast : ((owned t as).take (i + 1)).getLast? = some (owned t as)[i] := by
    rw [List.getLast?_take, if_neg (Nat.succ_ne_zero i), Nat.add_sub_cancel, hx, Option.some_or]
  have hhead : ((owned t as).drop (i + 1)).head? = some (owned t as)[i + 1] := by
    rw [List.head?_drop, hy]
  rw [cutAt_resolve_iff_exists_splitBy (Nat.le_of_lt hi), ← sameOwner_eq_false_iff hx hy,
    ← exists_splitBy_eq_append_iff hlast hhead, List.take_append_drop]

end LessonText.Annotation

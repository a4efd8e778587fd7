import LessonText.Proofs.Code.Cuts
import LessonText.Proofs.Text.Bytes

/-! Annotations that count bytes. Where their ranges cut no character in two, each byte has the
owner of its character, so tokens are runs of bytes as much as of characters. -/

namespace LessonText.Annotation

open Text (utf8Length)
open Utf8 (IsBoundary placeOf)

/-- Places have one owner from `start` to just before `stop`, and those next to them have another.
There are `size` places. -/
structure IsRun (owner : Nat → Option Placed) (size start stop : Nat) : Prop where
  lt : start < stop
  le : stop ≤ size
  eq : ∀ {i}, start ≤ i → i < stop → owner i = owner start
  before : ∀ {i}, i + 1 = start → owner i ≠ owner start
  after : stop < size → owner stop ≠ owner start

def ofBytes (t : Text) (a : Annotation) : Annotation where
  start := placeOf t a.start
  stop := placeOf t a.stop
  tag := a.tag

variable {as bs : List Annotation} {a : Annotation} {t : Text} {k : Token}
  {before after : List Token} {i j : Nat}

@[simp] theorem tag_ofBytes (t : Text) (a : Annotation) : (ofBytes t a).tag = a.tag := rfl

theorem not_cutAt_of_resolve (h : resolve t as = before ++ k :: after)
    (hi : (Token.join before).length < i) (hj : i < (Token.join before).length + k.text.length) :
    ¬Token.CutAt (resolve t as) i := by
  obtain ⟨n, rfl⟩ := Nat.exists_eq_add_of_lt hi
  rw [h, Nat.add_assoc, Token.cutAt_append_add before (k :: after) n.succ_pos,
    ← List.singleton_append, Token.cutAt_append_of_lt, Token.cutAt_singleton_iff]
  · omega
  · rw [Token.join_cons, Token.join_nil, List.append_nil]
    omega

theorem owner_of_resolve (h : resolve t as = before ++ k :: after)
    (hi : (Token.join before).length ≤ i) (hj : i < (Token.join before).length + k.text.length) :
    owner as i = owner as (Token.join before).length := by
  have hle : (Token.join before).length + k.text.length ≤ t.length := by
    rw [← join_resolve t as, h]
    simp
  induction i, hi using Nat.le_induction with
  | base => rfl
  | succ i hi ih =>
    have hcut := not_cutAt_of_resolve h (Nat.lt_succ_of_le hi) hj
    rw [cutAt_resolve_iff (Nat.lt_of_lt_of_le hj hle), not_not] at hcut
    rw [← hcut, ih (Nat.lt_of_succ_lt hj)]

theorem isRun_of_resolve (h : resolve t as = before ++ k :: after) :
    IsRun (owner as) t.length (Token.join before).length
      ((Token.join before).length + k.text.length) := by
  have htiles := tiles_resolve t as
  rw [h] at htiles
  have hpos : 0 < k.text.length := List.length_pos_iff.2 (htiles.text_ne_nil k (by simp))
  have hlen : t.length =
      (Token.join before).length + k.text.length + (Token.join after).length := by
    simp [← htiles.join_eq, Nat.add_assoc]
  constructor
  case lt => omega
  case le => omega
  case eq => exact owner_of_resolve h
  case before =>
    intro i hi
    have hcut : Token.CutAt (resolve t as) (i + 1) := ⟨before, k :: after, h, hi.symm⟩
    rw [cutAt_resolve_iff (by omega)] at hcut
    rwa [← hi]
  case after =>
    intro hlt
    have hcut : Token.CutAt (resolve t as) ((Token.join before).length + k.text.length) :=
      ⟨before ++ [k], after, by simp [h], by simp⟩
    -- the last place of the token has the owner of the first
    obtain ⟨n, hn⟩ := Nat.exists_eq_add_of_lt hpos
    rw [Nat.zero_add] at hn
    rw [hn, ← Nat.add_assoc] at hlt hcut ⊢
    rw [cutAt_resolve_iff hlt, owner_of_resolve h (Nat.le_add_right _ n) (by omega)] at hcut
    exact hcut.symm

theorem tag_of_resolve (h : resolve t as = before ++ k :: after) :
    k.tag = classOf (owner as (Token.join before).length) := by
  have hrun := isRun_of_resolve h
  have hfills : Token.Fills (resolve t as) k.tag (Token.join before).length
      ((Token.join before).length + k.text.length) := ⟨before, k, after, h, rfl, rfl, rfl⟩
  have hget := hfills.getElem?_tags (Nat.le_refl _) hrun.lt
  rw [tags_resolve, List.getElem?_map,
    List.getElem?_range (Nat.lt_of_lt_of_le hrun.lt hrun.le), Option.map_some] at hget
  exact (Option.some.inj hget).symm

theorem IsRun.of_places {o o' : Nat → Option Placed} {x w y : Text}
    (h : IsRun o' t.length x.length (x.length + w.length)) (ht : t = x ++ (w ++ y))
    (ho : ∀ {i j}, o' (placeOf t i) = o' (placeOf t j) ↔ o i = o j) :
    IsRun o (utf8Length t) (utf8Length x) (utf8Length x + utf8Length w) := by
  subst ht
  have hx : placeOf (x ++ (w ++ y)) (utf8Length x) = x.length := Utf8.placeOf_utf8Length _ _
  have hxw : placeOf (x ++ (w ++ y)) (utf8Length x + utf8Length w) = x.length + w.length := by
    rw [← Utf8.utf8Length_append, ← List.append_assoc, Utf8.placeOf_utf8Length, List.length_append]
  have hlt {i : Nat} : placeOf (x ++ (w ++ y)) i < x.length + w.length ↔
      i < utf8Length x + utf8Length w := by
    rw [← Utf8.utf8Length_append, ← List.append_assoc, ← List.length_append,
      Utf8.placeOf_append_lt_iff]
  constructor
  case lt =>
    rw [← hlt, hx]
    exact h.lt
  case le => simp
  case eq =>
    intro i hi hi'
    rw [← ho, hx]
    refine h.eq ?_ (hlt.2 hi')
    rwa [← Nat.not_lt, Utf8.placeOf_append_lt_iff, Nat.not_lt]
  case before =>
    intro i hi
    rw [ne_eq, ← ho, hx]
    exact h.before (Utf8.placeOf_add_one _ hi)
  case after =>
    intro hi
    rw [ne_eq, ← ho, hx, hxw]
    apply h.after
    have hy : y ≠ [] := by
      rintro rfl
      simp at hi
    simpa using List.length_pos_iff.2 hy

theorem covers_ofBytes (hstart : IsBoundary t a.start) (hstop : IsBoundary t a.stop) :
    (ofBytes t a).covers (placeOf t i) = a.covers i := by
  rw [Bool.eq_iff_iff, ofBytes, covers_iff, Utf8.placeOf_lt_placeOf_iff hstop, ← Nat.not_lt,
    Utf8.placeOf_lt_placeOf_iff hstart, Nat.not_lt]
  exact covers_iff.symm

section

variable (h : ∀ a ∈ bs, IsBoundary t a.start ∧ IsBoundary t a.stop)
include h

theorem owner_map_ofBytes (i : Nat) :
    owner (bs.map (ofBytes t)) (placeOf t i) =
      (owner bs i).map fun o => (ofBytes t o.1, o.2) := by
  induction bs using List.reverseRecOn with
  | nil => rfl
  | append_singleton bs a ih =>
    obtain ⟨hstart, hstop⟩ := h a (by simp)
    rw [List.map_append, List.map_singleton, owner_append_singleton, owner_append_singleton,
      covers_ofBytes hstart hstop, ih fun b hb => h b (by simp [hb]), List.length_map]
    split
    · cases owner bs i with
      | none => rfl
      | some o =>
        by_cases hlt : o.1.tag.rank < a.tag.rank
        case pos => simp [hlt]
        case neg => simp [hlt]
    · rfl

theorem classOf_owner_ofBytes (i : Nat) :
    classOf (owner (bs.map (ofBytes t)) (placeOf t i)) = classOf (owner bs i) := by
  rw [owner_map_ofBytes h]
  cases owner bs i <;> rfl

theorem owner_ofBytes_eq_iff :
    owner (bs.map (ofBytes t)) (placeOf t i) = owner (bs.map (ofBytes t)) (placeOf t j) ↔
      owner bs i = owner bs j := by
  rw [owner_map_ofBytes h, owner_map_ofBytes h]
  constructor
  · intro heq
    apply owner_eq_of_map_snd
    have hsnd := congrArg (Option.map Prod.snd) heq
    rwa [Option.map_map, Option.map_map] at hsnd
  · intro heq
    rw [heq]

end

/-- Each byte belongs to the first of those annotations of the highest rank that cover it, and the
tokens are the longest runs of bytes with one owner, which gives them their class. -/
theorem resolve_ofBytes (h : ∀ a ∈ bs, IsBoundary t a.start ∧ IsBoundary t a.stop) :
    (∀ i o, owner bs i = some o ↔ Owns bs i o) ∧
      (∀ i, owner bs i = none ↔ ∀ a ∈ bs, a.covers i = false) ∧
      Token.join (resolve t (bs.map (ofBytes t))) = t ∧
      ∀ before k after, resolve t (bs.map (ofBytes t)) = before ++ k :: after →
        k.text ≠ [] ∧
        Utf8.StandsAt k.text t (utf8Length (Token.join before)) ∧
        k.tag = classOf (owner bs (utf8Length (Token.join before))) ∧
        IsRun (owner bs) (utf8Length t) (utf8Length (Token.join before))
          (utf8Length (Token.join before) + utf8Length k.text) := by
  refine ⟨fun i o => owner_eq_some_iff, fun i => owner_eq_none_iff, join_resolve t _, ?_⟩
  intro before k after hk
  have htiles := tiles_resolve t (bs.map (ofBytes t))
  rw [hk] at htiles
  have ht : t = Token.join before ++ (k.text ++ Token.join after) := by simp [← htiles.join_eq]
  have hplace : placeOf t (utf8Length (Token.join before)) = (Token.join before).length := by
    rw [ht, Utf8.placeOf_utf8Length]
  have htag : k.tag = classOf (owner bs (utf8Length (Token.join before))) := by
    rw [tag_of_resolve hk, ← hplace, classOf_owner_ofBytes h]
  exact ⟨htiles.text_ne_nil k (by simp), htiles.standsAt, htag,
    (isRun_of_resolve hk).of_places ht (owner_ofBytes_eq_iff h)⟩

def sampleWord : Text := "éaé"

def sampleRanges : List Annotation :=
  [⟨0, 3, .call⟩, ⟨2, 5, .builtin⟩, ⟨3, 3, .keyword⟩, ⟨0, 3, .builtin⟩]

theorem resolve_ofBytes_sampleRanges :
    (∀ a ∈ sampleRanges, IsBoundary sampleWord a.start ∧ IsBoundary sampleWord a.stop) ∧
      Owns sampleRanges 2 (⟨2, 5, .builtin⟩, 1) ∧
      Utf8.StandsAt "aé" sampleWord 2 ∧ IsRun (owner sampleRanges) 5 2 5 := by
  have hzero : IsBoundary sampleWord 0 := Utf8.isBoundary_utf8Length "" "éaé"
  have htwo : IsBoundary sampleWord 2 := Utf8.isBoundary_utf8Length "é" "aé"
  have hthree : IsBoundary sampleWord 3 := Utf8.isBoundary_utf8Length "éa" "é"
  have hfive : IsBoundary sampleWord 5 := Utf8.isBoundary_utf8Length "éaé" ""
  have h : ∀ a ∈ sampleRanges, IsBoundary sampleWord a.start ∧ IsBoundary sampleWord a.stop := by
    simp only [sampleRanges, List.forall_mem_cons]
    exact ⟨⟨hzero, hthree⟩, ⟨htwo, hfive⟩, ⟨hthree, hthree⟩, ⟨hzero, hthree⟩, by simp⟩
  have htokens : resolve sampleWord (sampleRanges.map (ofBytes sampleWord)) =
      [⟨"é", .builtin⟩] ++ ⟨"aé", .builtin⟩ :: [] := by decide +kernel
  obtain ⟨howner, -, -, hrun⟩ := resolve_ofBytes h
  obtain ⟨-, hstands, -, hrun⟩ := hrun _ _ _ htokens
  exact ⟨h, (howner 2 _).1 (by decide), hstands, hrun⟩

end LessonText.Annotation

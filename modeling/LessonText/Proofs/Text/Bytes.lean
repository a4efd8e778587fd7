import LessonText.Text.Utf8

namespace LessonText.Utf8

open Text (utf8Length)

def IsBoundary (t : Text) (offset : Nat) : Prop :=
  (String.Pos.Raw.mk offset).IsValid (String.ofList t)

theorem encode_append (s t : Text) : encode (s ++ t) = encode s ++ encode t := by
  simp [encode]

theorem decode?_encode (t : Text) : decode? (encode t) = some t := by
  have hvalid : (encode t).IsValidUTF8 := (String.ofList t).isValidUTF8
  have hself : String.fromUTF8 (encode t) hvalid = String.ofList t := rfl
  simp [decode?, String.fromUTF8?, hself, hvalid]

theorem decode?_eq_some_iff {b : ByteArray} {t : Text} : decode? b = some t ↔ b = encode t := by
  constructor
  · intro h
    obtain ⟨s, hs, rfl⟩ := Option.map_eq_some_iff.1 h
    rw [String.fromUTF8?] at hs
    split at hs
    · rw [← Option.some.inj hs, encode, String.ofList_toList]
      rfl
    · contradiction
  · rintro rfl
    exact decode?_encode t

@[simp] theorem utf8Length_append (s t : Text) :
    utf8Length (s ++ t) = utf8Length s + utf8Length t := by
  induction s with
  | nil => simp [utf8Length]
  | cons c s ih => simp [utf8Length, ih, Nat.add_assoc]

@[simp] theorem size_encode (t : Text) : (encode t).size = utf8Length t := by
  induction t with
  | nil => rfl
  | cons c t ih =>
    rw [← List.singleton_append, encode_append, ByteArray.size_append, ih]
    simp [encode, utf8Length, List.utf8Encode_singleton]

theorem isBoundary_utf8Length (s t : Text) : IsBoundary (s ++ t) (utf8Length s) := by
  rw [IsBoundary, String.Pos.Raw.isValid_iff_exists_append]
  refine ⟨String.ofList s, String.ofList t, by simp, ?_⟩
  apply String.Pos.Raw.ext
  exact (size_encode s).symm

theorem extract_encode (s t u : Text) :
    (encode (s ++ t ++ u)).extract (utf8Length s) (utf8Length s + utf8Length t) = encode t := by
  have h := ByteArray.extract_append_size_add (a := encode s) (b := encode t ++ encode u) (i := 0)
    (j := (encode t).size)
  rw [Nat.add_zero, ByteArray.extract_append_eq_left rfl] at h
  rw [encode_append, encode_append, ByteArray.append_assoc, ← size_encode, ← size_encode, h]

/-- `part` is a range of the bytes of `t` that begins and ends between characters. -/
structure StandsAt (part t : Text) (start : Nat) : Prop where
  isBoundary_start : IsBoundary t start
  isBoundary_stop : IsBoundary t (start + utf8Length part)
  extract_eq : (encode t).extract start (start + utf8Length part) = encode part

theorem standsAt_append (s t u : Text) : StandsAt t (s ++ t ++ u) (utf8Length s) where
  isBoundary_start := by
    rw [List.append_assoc]
    exact isBoundary_utf8Length s (t ++ u)
  isBoundary_stop := by
    rw [← utf8Length_append]
    exact isBoundary_utf8Length (s ++ t) u
  extract_eq := extract_encode s t u

theorem exists_append_of_isBoundary {t : Text} {n : Nat} (h : IsBoundary t n) :
    ∃ x y, t = x ++ y ∧ n = utf8Length x := by
  obtain ⟨s, u, ht, hn⟩ := String.Pos.Raw.isValid_iff_exists_append.1 h
  refine ⟨s.toList, u.toList, ?_, ?_⟩
  · rw [← String.toList_append, ← ht, String.toList_ofList]
  · rw [← size_encode, encode, String.ofList_toList]
    exact congrArg String.Pos.Raw.byteIdx hn

def placeOf : Text → Nat → Nat
  | [], _ => 0
  | c :: t, n => if n < c.utf8Size then 0 else placeOf t (n - c.utf8Size) + 1

theorem placeOf_append_lt_iff {x y : Text} {n : Nat} :
    placeOf (x ++ y) n < x.length ↔ n < utf8Length x := by
  induction x generalizing n with
  | nil => simp [utf8Length]
  | cons c x ih =>
    rw [List.cons_append, placeOf, List.length_cons, utf8Length]
    split
    next h => exact iff_of_true (Nat.succ_pos _) (Nat.lt_add_right _ h)
    next h => rw [Nat.succ_lt_succ_iff, ih, Nat.sub_lt_iff_lt_add' (Nat.le_of_not_lt h)]

theorem placeOf_utf8Length (x y : Text) : placeOf (x ++ y) (utf8Length x) = x.length := by
  induction x with
  | nil => cases y <;> simp [placeOf, utf8Length, Char.utf8Size_pos]
  | cons c x ih => simp [placeOf, utf8Length, ih]

theorem placeOf_lt_placeOf_iff {t : Text} {i n : Nat} (h : IsBoundary t n) :
    placeOf t i < placeOf t n ↔ i < n := by
  obtain ⟨x, y, rfl, rfl⟩ := exists_append_of_isBoundary h
  rw [placeOf_utf8Length, placeOf_append_lt_iff]

theorem placeOf_add_one {x : Text} (y : Text) {n : Nat} (h : n + 1 = utf8Length x) :
    placeOf (x ++ y) n + 1 = x.length := by
  obtain rfl | ⟨x, c, rfl⟩ := List.eq_nil_or_concat x
  · simp [utf8Length] at h
  · rw [List.concat_eq_append] at h ⊢
    have hc := c.utf8Size_pos
    have hlt : placeOf (x ++ [c] ++ y) n < (x ++ [c]).length := placeOf_append_lt_iff.2 (by omega)
    have hle : ¬placeOf (x ++ ([c] ++ y)) n < x.length := by
      simp only [utf8Length_append, utf8Length] at h
      rw [placeOf_append_lt_iff]
      omega
    rw [← List.append_assoc] at hle
    rw [List.length_append, List.length_singleton] at hlt ⊢
    omega

end LessonText.Utf8

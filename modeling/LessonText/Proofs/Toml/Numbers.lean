import Mathlib.Data.List.TakeWhile
import LessonText.Proofs.Numeral.Positional
import LessonText.Proofs.Text.Mapping
import LessonText.Proofs.Text.Runs
import LessonText.Toml.Document
import LessonText.Toml.Written

namespace LessonText.Toml.Number

open Numeral (Pointed)
open Text (IsDigits IsWhole)

variable {c : Char} {n : Nat} {t : Text}

/-! Digits -/

theorem range_of_isDigit (h : c.isDigit) : '0' ≤ c ∧ c ≤ '9' := by
  simpa [Char.isDigit, Char.le_def] using h

theorem digit?_of_isDigit (h : c.isDigit) : digit? 10 c = some (c.toNat - '0'.toNat) := by
  have hrange := range_of_isDigit h
  have hlt : c.toNat - '0'.toNat < 10 := by
    have hnine : c.toNat ≤ '9'.toNat := hrange.2
    have hvalue : '9'.toNat = '0'.toNat + 9 := rfl
    omega
  rw [digit?, if_pos hrange, if_pos hlt]

theorem digits?_of_not_mem (hne : t ≠ []) (h : '_' ∉ t) (base : Nat) :
    digits? base t = t.mapM (digit? base) := by
  rw [digits?, List.splitOn_eq_singleton h]
  simp [hne]

theorem digits?_of_isDigits (h : IsDigits t) :
    digits? 10 t = some (t.map fun c => c.toNat - '0'.toNat) := by
  rw [digits?_of_not_mem h.ne_nil (h.not_mem (by decide))]
  have hdigits := h.isDigit
  clear h
  induction t with
  | nil => rfl
  | cons c t ih =>
    rw [List.forall_mem_cons] at hdigits
    rw [List.mapM_cons, digit?_of_isDigit hdigits.1, ih hdigits.2]
    rfl

theorem ofDigits_map (t : Text) :
    ofDigits 10 (t.map fun c => c.toNat - '0'.toNat) = Nat.ofDigitChars 10 t 0 := by
  rw [ofDigits, List.foldl_map, Nat.ofDigitChars_eq_foldl]

theorem eq_zero_of_isDigit (h : c.isDigit) (hzero : c.toNat - '0'.toNat = 0) : c = '0' := by
  have hle : '0'.toNat ≤ c.toNat := (range_of_isDigit h).1
  exact Char.toNat_inj.1 (Nat.le_antisymm (Nat.sub_eq_zero_iff_le.1 hzero) hle)

theorem whole?_of_isWhole (h : IsWhole t) :
    whole? t = some (t.map fun c => c.toNat - '0'.toNat) := by
  rw [whole?, digits?_of_isDigits h.toIsDigits]
  refine Option.filter_some_pos ?_
  obtain hzero | hone := h.no_zero_leads
  · obtain ⟨c, s, rfl⟩ := List.exists_cons_of_ne_nil h.ne_nil
    have hc : c.toNat - '0'.toNat ≠ 0 := fun hvalue =>
      hzero (congrArg some (eq_zero_of_isDigit (h.isDigit c List.mem_cons_self) hvalue))
    simp only [List.map_cons, List.head?_cons, ne_eq, Option.some.injEq, hc, not_false_eq_true,
      decide_true, Bool.true_or]
  · simp [hone]

/-! Integers -/

def Plain (c : Char) : Prop :=
  c.isDigit ∨ c = '.' ∨ c = '-'

theorem Plain.ne {d : Char} (h : Plain c) (hd : ¬Plain d) : c ≠ d := by
  rintro rfl
  exact hd h

theorem integer?_of_plain (h : ∀ c ∈ t, Plain c) :
    integer? t = ((whole? (sign t).2).map fun ds => signed (sign t).1 (ofDigits 10 ds)).filter
      inRange := by
  have hbase {a b : Char} {s : Text} (hs : t = a :: b :: s) : Plain b :=
    h b (by simp [hs])
  unfold integer?
  split
  · exact absurd (hbase rfl) (by simp [Plain, Char.isDigit])
  · exact absurd (hbase rfl) (by simp [Plain, Char.isDigit])
  · exact absurd (hbase rfl) (by simp [Plain, Char.isDigit])
  · rfl

theorem sign_of_isDigits {s : Text} (h : IsDigits s) (t : Text) :
    sign (s ++ t) = (false, s ++ t) := by
  obtain ⟨c, s, rfl, hc⟩ := h.exists_eq_cons
  rw [List.cons_append]
  unfold sign
  split
  next heq => exact absurd (List.cons.inj heq).1 (Text.ne_of_kind hc (by decide))
  next heq => exact absurd (List.cons.inj heq).1 (Text.ne_of_kind hc (by decide))
  · rfl

theorem integer?_toDigits (h : n < 2 ^ 128) : integer? (Nat.toDigits 10 n) = some (n : Int) := by
  have hwhole := Text.isWhole_toDigits n
  have hsign := sign_of_isDigits hwhole.toIsDigits []
  rw [List.append_nil] at hsign
  rw [integer?_of_plain fun c hc => .inl (hwhole.isDigit c hc), hsign]
  dsimp only
  rw [whole?_of_isWhole hwhole, Option.map_some, ofDigits_map, Nat.ofDigitChars_ten_toDigits]
  refine Option.filter_some_pos ?_
  have hlimit : Nat.pow 2 128 = 2 ^ 128 := rfl
  simp only [inRange, signed, Bool.false_eq_true, if_false, Bool.and_eq_true, decide_eq_true_eq]
  omega

/-! Numerals with a point -/

def signText (negative : Bool) : Text :=
  if negative then ['-'] else []

variable {whole fraction : Text} {value places : Nat}

theorem sign_signText (negative : Bool) {s : Text} (h : IsDigits s) (t : Text) :
    sign (signText negative ++ (s ++ t)) = (negative, s ++ t) := by
  cases negative with
  | false => exact sign_of_isDigits h t
  | true => rfl

theorem plain_of_pointed (h : Pointed t whole fraction value places) : ∀ c ∈ t, Plain c := by
  intro c hc
  rw [h.eq_append, List.mem_append, List.mem_cons] at hc
  obtain hc | rfl | hc := hc
  · exact .inl (h.isWhole.isDigit c hc)
  · exact .inr (.inl rfl)
  · exact .inl (h.isDigits.isDigit c hc)

theorem plain_of_signText (negative : Bool) (h : ∀ c ∈ t, Plain c) :
    ∀ c ∈ signText negative ++ t, Plain c := by
  cases negative with
  | false => exact h
  | true => exact List.forall_mem_cons.2 ⟨.inr (.inr rfl), h⟩

theorem integer?_of_pointed (negative : Bool) (h : Pointed t whole fraction value places) :
    integer? (signText negative ++ t) = none := by
  have hpoint : '.' ∈ t := by simp [h.eq_append]
  have hunderscore : '_' ∉ t := fun hc => (plain_of_pointed h _ hc).elim (by decide) (by decide)
  have hdigits : digits? 10 t = none := by
    rw [digits?_of_not_mem (List.ne_nil_of_mem hpoint) hunderscore]
    exact Text.mapM_eq_none_iff.2 ⟨'.', hpoint, by decide⟩
  have hsign := sign_signText negative h.isWhole.toIsDigits ('.' :: fraction)
  rw [← h.eq_append] at hsign
  rw [integer?_of_plain (plain_of_signText negative (plain_of_pointed h)), hsign]
  simp only [whole?, hdigits, Option.filter_none, Option.map_none]

theorem decimal?_of_pointed (h : Pointed t whole fraction value places) :
    decimal? t = some ⟨value, -places⟩ := by
  have hmantissa : (t.takeWhile fun c => c ≠ 'e' && c ≠ 'E') = t := by
    rw [List.takeWhile_eq_self_iff]
    intro c hc
    have hplain := plain_of_pointed h c hc
    have hlower : c ≠ 'e' := hplain.ne (by simp [Plain, Char.isDigit])
    have hupper : c ≠ 'E' := hplain.ne (by simp [Plain, Char.isDigit])
    simp [hlower, hupper]
  have hwhole : t.takeWhile (· ≠ '.') = whole := by
    rw [h.eq_append]
    refine Text.takeWhile_append_of_forall (fun c hc => ?_) (by simp)
    have hpoint : c ≠ '.' := Text.ne_of_kind (h.isWhole.isDigit c hc) (by decide)
    simpa using hpoint
  have hfraction : t.drop whole.length = '.' :: fraction := by
    rw [h.eq_append, List.drop_left]
  rw [decimal?]
  simp only [hmantissa, hwhole, hfraction, List.drop_length]
  rw [if_neg (by simp), whole?_of_isWhole h.isWhole]
  simp only [fraction?, exponent?, digits?_of_isDigits h.isDigits, Option.bind_eq_bind,
    Option.bind_some, ← List.map_append, ofDigits_map, h.value_eq, List.length_map, h.places_eq,
    Int.zero_sub]
  rfl

theorem float?_of_pointed (negative : Bool) (h : Pointed t whole fraction value places)
    (hrange : value ≤ 2 ^ 129 * 10 ^ places) :
    float? (signText negative ++ t) =
      some ⟨negative, some (Numeral.Decimal.toDouble ⟨value, -places⟩)⟩ := by
  have hsign := sign_signText negative h.isWhole.toIsDigits ('.' :: fraction)
  rw [← h.eq_append] at hsign
  have hfinite := Numeral.Decimal.toDouble_ne_infinite hrange
  have hpoint : '.' ∈ t := by simp [h.eq_append]
  have hinfinity : t ≠ "inf".toList := fun ht => by simp [ht] at hpoint
  have hnone : t ≠ "nan".toList := fun ht => by simp [ht] at hpoint
  rw [float?, hsign]
  dsimp only
  rw [if_neg hinfinity, if_neg hnone, decimal?_of_pointed h, Option.map_some]
  exact Option.filter_some_pos (by simpa [Numeral.Double.ofDecimal] using hfinite)

end LessonText.Toml.Number

import Mathlib.Tactic.Ring
import LessonText.Numeral.Single

namespace LessonText.Numeral

variable {f : Fraction} {fmt : Format} {i : Decimal.Interval} {d : Decimal} {e q : Int} {m n : Nat}

theorem Fraction.num_scale (f : Fraction) (b : Nat) (e : Int) :
    (f.scale b e).num = f.num * b ^ e.toNat := by
  cases e with
  | ofNat e => rfl
  | negSucc e => simp [scale]

theorem Fraction.den_scale (f : Fraction) (b : Nat) (e : Int) :
    (f.scale b e).den = f.den * b ^ (-e).toNat := by
  cases e with
  | ofNat e => simp [scale]
  | negSucc e => rfl

theorem Fraction.log2_le (hle : f.num ≤ 2 ^ n * f.den) : f.log2 ≤ n := by
  have hbound : f.num.log2 ≤ n + f.den.log2 := by
    by_cases hnum : f.num = 0
    · simp [hnum]
    · have hpow : 2 ^ f.num.log2 < 2 ^ (n + (f.den.log2 + 1)) :=
        calc
          2 ^ f.num.log2 ≤ f.num := Nat.log2_self_le hnum
          _ ≤ 2 ^ n * f.den := hle
          _ < 2 ^ n * 2 ^ (f.den.log2 + 1) :=
            Nat.mul_lt_mul_of_pos_left Nat.lt_log2_self (Nat.two_pow_pos n)
          _ = 2 ^ (n + (f.den.log2 + 1)) := (Nat.pow_add 2 n _).symm
      have hlog := (Nat.pow_lt_pow_iff_right (by decide)).1 hpow
      omega
  rw [log2]
  split <;> omega

theorem Format.round_ne_infinite (hle : f.num ≤ 2 ^ n * f.den)
    (hleast : fmt.least < fmt.greatest) (hgreatest : n + 1 < fmt.greatest + fmt.precision) :
    fmt.round f ≠ .infinite := by
  have hlog := Fraction.log2_le hle
  have hplace : max fmt.least (f.log2 + 1 - fmt.precision) + 1 ≤ fmt.greatest := by omega
  rw [round]
  split
  · simp
  · dsimp only
    split
    next hcarry =>
      rw [if_neg (by omega)]
      simp
    next hsame =>
      rw [if_neg (by omega)]
      simp

theorem Decimal.toDouble_ne_infinite {c k : Nat} (hle : c ≤ 2 ^ 129 * 10 ^ k) :
    Decimal.toDouble ⟨c, -k⟩ ≠ .infinite := by
  have hnum : (Decimal.toFraction ⟨c, -k⟩).num = c := by
    simp [toFraction, Fraction.num_scale]
  have hden : (Decimal.toFraction ⟨c, -k⟩).den = 10 ^ k := by
    simp [toFraction, Fraction.den_scale]
  have hdigits : (Nat.toDigits 10 c).length ≤ 39 + k := by
    rw [Nat.length_toDigits_le_iff (by decide) (by omega), Nat.pow_add]
    calc
      c ≤ 2 ^ 129 * 10 ^ k := hle
      _ < 10 ^ 39 * 10 ^ k := Nat.mul_lt_mul_of_pos_right (by decide) (Nat.pow_pos (by decide))
  rw [toDouble]
  dsimp only
  split
  · simp
  · rw [if_neg (by omega)]
    exact Format.round_ne_infinite (n := 129) (by rw [hnum, hden]; exact hle) (by decide)
      (by decide)

namespace Decimal

def place (q e : Int) : Fraction :=
  Fraction.scale (Fraction.scale ⟨1, 1⟩ 2 (q - 2)) 10 (-e)

theorem num_place (q e : Int) : (place q e).num = 2 ^ (q - 2).toNat * 10 ^ (-e).toNat := by
  rw [place, Fraction.num_scale, Fraction.num_scale, Nat.one_mul]

theorem den_place (q e : Int) : (place q e).den = 2 ^ (2 - q).toNat * 10 ^ e.toNat := by
  rw [place, Fraction.den_scale, Fraction.den_scale, Nat.one_mul, Int.neg_sub, Int.neg_neg]

def Interval.holds (i : Interval) (p : Fraction) (c : Nat) : Bool :=
  if i.closed then i.low * p.num ≤ c * p.den && c * p.den ≤ i.high * p.num
  else i.low * p.num < c * p.den && c * p.den < i.high * p.num

theorem Interval.le_high_of_holds {p : Fraction} {c : Nat} (h : i.holds p c) :
    c * p.den ≤ i.high * p.num := by
  rw [holds] at h
  split at h
  · simp only [Bool.and_eq_true, decide_eq_true_eq] at h
    exact h.2
  · simp only [Bool.and_eq_true, decide_eq_true_eq] at h
    exact Nat.le_of_lt h.2

theorem onGrid?_eq (i : Interval) (q e : Int) :
    onGrid? i q e =
      let p := place q e
      let below := i.mid * p.num / p.den
      let nearLower := 2 * (i.mid * p.num) < (2 * below + 1) * p.den
      if (i.holds p below && 0 < below) && (nearLower || !i.holds p (below + 1)) then
        some ⟨below, e⟩
      else if i.holds p (below + 1) then some ⟨below + 1, e⟩
      else none := rfl

theorem of_onGrid? (h : onGrid? i q e = some d) :
    ∃ c, 0 < c ∧ i.holds (place q e) c ∧ d = ⟨c, e⟩ := by
  rw [onGrid?_eq] at h
  dsimp only at h
  generalize i.mid * (place q e).num / (place q e).den = below at h
  split at h
  next hlower =>
    simp only [Bool.and_eq_true, decide_eq_true_eq] at hlower
    exact ⟨below, hlower.1.2, hlower.1.1, (Option.some.inj h).symm⟩
  next =>
    split at h
    next hupper => exact ⟨below + 1, Nat.succ_pos _, hupper, (Option.some.inj h).symm⟩
    next => contradiction

/-- A numeral below `2 ^ 129`, which single precision does not reach. Only with no exponent is it
zero. -/
structure Small (d : Decimal) : Prop where
  pos_or_exponent_eq_zero : 0 < d.coefficient ∨ d.exponent = 0
  le : d.coefficient * 10 ^ d.exponent.toNat ≤ 2 ^ 129 * 10 ^ (-d.exponent).toNat

theorem small_of_onGrid? (hm : m < 2 ^ 24) (hq : q ≤ 104)
    (h : onGrid? (.ofMagnitude .single m q) q e = some d) : d.Small := by
  obtain ⟨c, hpos, hholds, rfl⟩ := of_onGrid? h
  have hle := Interval.le_high_of_holds hholds
  have hhigh : (Interval.ofMagnitude .single m q).high ≤ 2 ^ 27 := by
    rw [Interval.ofMagnitude]
    dsimp only
    omega
  have hplace : 2 ^ (q - 2).toNat ≤ 2 ^ 102 := Nat.pow_le_pow_right (by decide) (by omega)
  rw [num_place, den_place] at hle
  refine ⟨.inl hpos, ?_⟩
  calc
    c * 10 ^ e.toNat ≤ c * (2 ^ (2 - q).toNat * 10 ^ e.toNat) :=
      Nat.mul_le_mul_left c (Nat.le_mul_of_pos_left _ (Nat.two_pow_pos _))
    _ ≤ 2 ^ 27 * (2 ^ 102 * 10 ^ (-e).toNat) :=
      hle.trans (Nat.mul_le_mul hhigh (Nat.mul_le_mul_right _ hplace))
    _ = 2 ^ 129 * 10 ^ (-e).toNat := by ring

theorem small_shortest (hm : m < 2 ^ 24) (hq : q ≤ 104) : (shortest m q).Small := by
  have hzero : Small ⟨0, 0⟩ := ⟨.inr rfl, by simp⟩
  rw [shortest]
  split
  · exact hzero
  · dsimp only
    generalize List.map _ _ = grids
    cases hfound : grids.findSome? (onGrid? (.ofMagnitude .single m q) q) with
    | none => exact hzero
    | some d =>
      obtain ⟨e, -, he⟩ := List.exists_of_findSome?_eq_some hfound
      exact small_of_onGrid? hm hq he

end Decimal

theorem Single.bounds_of_magnitude? {s : Single} (h : s.magnitude? = some (.finite m q)) :
    m < 2 ^ 24 ∧ q ≤ 104 := by
  have hfraction : (s.bits &&& 0x7FFFFF).toNat < 2 ^ 23 := by
    rw [UInt32.toNat_and]
    exact Nat.and_lt_two_pow _ (by decide)
  have hexponent : ((s.bits >>> 23) &&& 0xFF).toNat < 2 ^ 8 := by
    rw [UInt32.toNat_and]
    exact Nat.and_lt_two_pow _ (by decide)
  rw [magnitude?] at h
  split at h
  · split at h <;> simp at h
  next hlimit =>
    split at h
    · simp only [Option.some.injEq, Magnitude.finite.injEq] at h
      omega
    · have hleading : Nat.pow 2 23 = 2 ^ 23 := rfl
      simp only [Option.some.injEq, Magnitude.finite.injEq] at h
      omega

end LessonText.Numeral

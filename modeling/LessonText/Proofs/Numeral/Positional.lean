import LessonText.Proofs.Numeral.Bounds
import LessonText.Proofs.Text.Digits

namespace LessonText.Numeral

open Text (IsDigits IsWhole isDigits_toDigits isWhole_toDigits head?_toDigits_ne_zero)

variable {d : Decimal} {n : Nat}

/-- Digits around a point, worth `value` in units of the last one, which is `places` behind the
point. -/
structure Pointed (t whole fraction : List Char) (value places : Nat) : Prop where
  eq_append : t = whole ++ '.' :: fraction
  isWhole : IsWhole whole
  isDigits : IsDigits fraction
  value_eq : Nat.ofDigitChars 10 (whole ++ fraction) 0 = value
  places_eq : fraction.length = places

theorem pointed_of_nat {e : Nat} (h : 0 < n ∨ e = 0) :
    Pointed (Nat.toDigits 10 n ++ List.replicate e '0' ++ ".0".toList)
      (Nat.toDigits 10 n ++ List.replicate e '0') ['0'] (n * 10 ^ e * 10) 1 where
  eq_append := rfl
  isWhole :=
    { (isDigits_toDigits n).append (by simp) with
      no_zero_leads := by
        obtain hn | rfl := h
        · rw [List.head?_append_of_ne_nil _ Nat.toDigits_ne_nil]
          exact .inl (head?_toDigits_ne_zero hn)
        · simpa using (isWhole_toDigits n).no_zero_leads }
  isDigits := ⟨by simp, by simp⟩
  value_eq := by
    rw [Nat.ofDigitChars_append, Nat.ofDigitChars_append, Nat.ofDigitChars_ten_toDigits,
      Nat.ofDigitChars_replicate_zero, Nat.ofDigitChars_cons, Nat.ofDigitChars_nil]
    simp only [Nat.sub_self, Nat.add_zero]
    ring
  places_eq := rfl

theorem pointed_of_negSucc {e : Nat} (hn : 0 < n) {padded : List Char} {cut : Nat}
    (hpadded : padded =
      List.replicate (e + 2 - (Nat.toDigits 10 n).length) '0' ++ Nat.toDigits 10 n)
    (hcut : cut = padded.length - (e + 1)) :
    Pointed (padded.take cut ++ '.' :: padded.drop cut) (padded.take cut) (padded.drop cut) n
      (e + 1) := by
  have hdigit : ∀ c ∈ padded, c.isDigit := by
    intro c hc
    rw [hpadded, List.mem_append, List.mem_replicate] at hc
    obtain ⟨-, rfl⟩ | hc := hc
    · rfl
    · exact (isDigits_toDigits n).isDigit c hc
  have hlength := congrArg List.length hpadded
  rw [List.length_append, List.length_replicate] at hlength
  refine ⟨rfl, ⟨⟨?_, fun c hc => hdigit c (List.mem_of_mem_take hc)⟩, ?_⟩,
    ⟨?_, fun c hc => hdigit c (List.mem_of_mem_drop hc)⟩, ?_, ?_⟩
  · rw [← List.length_pos_iff, List.length_take]
    omega
  · by_cases hlong : e + 2 ≤ (Nat.toDigits 10 n).length
    · have hself : padded = Nat.toDigits 10 n := by
        rw [hpadded, Nat.sub_eq_zero_of_le hlong, List.replicate_zero, List.nil_append]
      rw [List.head?_take, if_neg (by omega), hself]
      exact .inl (head?_toDigits_ne_zero hn)
    · right
      rw [List.length_take]
      omega
  · rw [← List.length_pos_iff, List.length_drop]
    omega
  · rw [List.take_append_drop, hpadded, Nat.ofDigitChars_append, Nat.ofDigitChars_replicate_zero,
      Nat.mul_zero, Nat.ofDigitChars_ten_toDigits]
  · rw [List.length_drop]
    omega

def Decimal.pointed (d : Decimal) : List Char :=
  if '.' ∈ d.positional then d.positional else d.positional ++ ".0".toList

theorem not_mem_zeros (n e : Nat) : '.' ∉ Nat.toDigits 10 n ++ List.replicate e '0' :=
  ((isDigits_toDigits n).append (by simp)).not_mem (by decide)

theorem Decimal.exists_pointed (h : 0 < d.coefficient ∨ d.exponent = 0) :
    ∃ whole fraction value places, Pointed d.pointed whole fraction value places ∧
      value * 10 ^ (-d.exponent).toNat = d.coefficient * 10 ^ d.exponent.toNat * 10 ^ places := by
  obtain ⟨n, e⟩ := d
  cases e with
  | ofNat e =>
    have hnone : '.' ∉ Decimal.positional ⟨n, .ofNat e⟩ := not_mem_zeros n e
    have hpoint := pointed_of_nat (n := n) (e := e) (h.imp id fun he => by simpa using he)
    have hself : pointed ⟨n, .ofNat e⟩ = positional ⟨n, .ofNat e⟩ ++ ".0".toList := if_neg hnone
    exact ⟨_, _, _, _, hself ▸ hpoint, by simp⟩
  | negSucc e =>
    have hn : 0 < n := h.resolve_right (by simp)
    have hpoint := pointed_of_negSucc (n := n) (e := e) hn rfl rfl
    have hsome : '.' ∈ Decimal.positional ⟨n, .negSucc e⟩ := by
      rw [positional]
      simp
    have hself : pointed ⟨n, .negSucc e⟩ = positional ⟨n, .negSucc e⟩ := if_pos hsome
    exact ⟨_, _, _, _, { hpoint with eq_append := hself.trans hpoint.eq_append }, by simp⟩

theorem Decimal.Small.exists_pointed (h : d.Small) :
    ∃ whole fraction value places, Pointed d.pointed whole fraction value places ∧
      value ≤ 2 ^ 129 * 10 ^ places := by
  obtain ⟨whole, fraction, value, places, hpointed, hvalue⟩ :=
    Decimal.exists_pointed h.pos_or_exponent_eq_zero
  refine ⟨whole, fraction, value, places, hpointed, ?_⟩
  have hscale : 0 < 10 ^ (-d.exponent).toNat := Nat.pow_pos (by decide)
  refine Nat.le_of_mul_le_mul_right ?_ hscale
  calc
    value * 10 ^ (-d.exponent).toNat = d.coefficient * 10 ^ d.exponent.toNat * 10 ^ places := hvalue
    _ ≤ 2 ^ 129 * 10 ^ (-d.exponent).toNat * 10 ^ places := Nat.mul_le_mul_right _ h.le
    _ = 2 ^ 129 * 10 ^ places * 10 ^ (-d.exponent).toNat := by ring

end LessonText.Numeral

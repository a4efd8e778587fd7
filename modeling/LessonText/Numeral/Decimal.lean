import LessonText.Numeral.Rounding

namespace LessonText.Numeral

structure Decimal where
  coefficient : Nat
  exponent : Int
  deriving DecidableEq, Repr

namespace Decimal

def toFraction (d : Decimal) : Fraction :=
  Fraction.scale ⟨d.coefficient, 1⟩ 10 d.exponent

/-- The double-precision value of a numeral. Numerals that are far out of range are decided by
their number of digits: no power of ten of their size is ever computed. -/
def toDouble (d : Decimal) : Magnitude :=
  let size := ((Nat.toDigits 10 d.coefficient).length : Int) + d.exponent
  if d.coefficient = 0 ∨ size < -400 then .finite 0 Format.double.least
  else if 400 < size then .infinite
  else Format.double.round d.toFraction

def positional (d : Decimal) : List Char :=
  let digits := Nat.toDigits 10 d.coefficient
  match d.exponent with
  | .ofNat e => digits ++ List.replicate e '0'
  | .negSucc e =>
    let padded := List.replicate (e + 2 - digits.length) '0' ++ digits
    padded.take (padded.length - (e + 1)) ++ '.' :: padded.drop (padded.length - (e + 1))

/-- The fractions that a magnitude stands for, in quarters of its last place: from `low` to
`high`, ends included if its significand is even. Below a power of two the places are half as
wide. -/
structure Interval where
  low : Nat
  mid : Nat
  high : Nat
  closed : Bool
  deriving Repr

def Interval.ofMagnitude (fmt : Format) (m : Nat) (q : Int) : Interval where
  low := if m = Nat.pow 2 (fmt.precision - 1) ∧ fmt.least < q then 4 * m - 1 else 4 * m - 2
  mid := 4 * m
  high := 4 * m + 2
  closed := m % 2 = 0

/-- A multiple of `10 ^ e` in the interval of `m * 2 ^ q`: of two, the nearer, and of two that
are equally near, the greater. -/
def onGrid? (i : Interval) (q e : Int) : Option Decimal :=
  let place := Fraction.scale (Fraction.scale ⟨1, 1⟩ 2 (q - 2)) 10 (-e)
  let below := i.mid * place.num / place.den
  let fits (d : Nat) : Bool :=
    if i.closed then
      i.low * place.num ≤ d * place.den && d * place.den ≤ i.high * place.num
    else i.low * place.num < d * place.den && d * place.den < i.high * place.num
  let lower := fits below && 0 < below
  let upper := fits (below + 1)
  let nearLower := 2 * (i.mid * place.num) < (2 * below + 1) * place.den
  if lower && (nearLower || !upper) then some ⟨below, e⟩
  else if upper then some ⟨below + 1, e⟩
  else none

/-- The numeral with the fewest digits that rounds to `m * 2 ^ q`: it lies on the coarsest decimal
grid that meets the interval. -/
def shortest (m : Nat) (q : Int) : Decimal :=
  if m = 0 then ⟨0, 0⟩
  else
    let i := Interval.ofMagnitude .single m q
    let grids := (List.range 100).map fun k : Nat => 40 - (k : Int)
    (grids.findSome? (onGrid? i q)).getD ⟨0, 0⟩

end Decimal

end LessonText.Numeral

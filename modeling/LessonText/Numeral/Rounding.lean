/-! Rounding fractions to binary floating-point magnitudes, in exact arithmetic. -/

namespace LessonText.Numeral

/-- Magnitudes `m * 2 ^ q` with `m < 2 ^ precision` and `least ≤ q ≤ greatest`. -/
structure Format where
  precision : Nat
  least : Int
  greatest : Int
  deriving DecidableEq, Repr

def Format.single : Format := ⟨24, -149, 104⟩

def Format.double : Format := ⟨53, -1074, 971⟩

inductive Magnitude
  | finite (m : Nat) (q : Int)
  | infinite
  deriving DecidableEq, Repr

structure Fraction where
  num : Nat
  den : Nat
  deriving DecidableEq, Repr

def Fraction.scale (f : Fraction) (b : Nat) : Int → Fraction
  | .ofNat e => ⟨f.num * Nat.pow b e, f.den⟩
  | .negSucc e => ⟨f.num, f.den * Nat.pow b (e + 1)⟩

/-- The nearest natural number; of two that are equally near, the even one. -/
def Fraction.nearest (f : Fraction) : Nat :=
  let m := f.num / f.den
  match compare (2 * (f.num % f.den)) f.den with
  | .lt => m
  | .gt => m + 1
  | .eq => m + m % 2

def Fraction.log2 (f : Fraction) : Int :=
  let k : Int := (f.num.log2 : Int) - (f.den.log2 : Int)
  let one := f.scale 2 (-k)
  if one.den ≤ one.num then k else k - 1

def Format.round (fmt : Format) (f : Fraction) : Magnitude :=
  if f.num = 0 then .finite 0 fmt.least
  else
    let q := max fmt.least (f.log2 + 1 - fmt.precision)
    let m := (f.scale 2 (-q)).nearest
    let (m, q) := if m = Nat.pow 2 fmt.precision then (m / 2, q + 1) else (m, q)
    if fmt.greatest < q then .infinite else .finite m q

def Format.convert (fmt : Format) : Magnitude → Magnitude
  | .infinite => .infinite
  | .finite m q => fmt.round (Fraction.scale ⟨m, 1⟩ 2 q)

end LessonText.Numeral

import LessonText.Numeral.Double

namespace LessonText.Numeral

structure Single where
  bits : UInt32
  deriving DecidableEq, Repr

namespace Single

def negative (s : Single) : Bool :=
  s.bits >>> 31 == 1

def magnitude? (s : Single) : Option Magnitude :=
  let exponent := ((s.bits >>> 23) &&& 0xFF).toNat
  let fraction := (s.bits &&& 0x7FFFFF).toNat
  if exponent = 255 then if fraction = 0 then some .infinite else none
  else if exponent = 0 then some (.finite fraction (-149))
  else some (.finite (Nat.pow 2 23 + fraction) (exponent - 150))

def ofMagnitude (negative : Bool) (m : Magnitude) : Single :=
  let sign := if negative then Nat.pow 2 31 else 0
  match m with
  | .infinite => ⟨.ofNat (sign + 255 * Nat.pow 2 23)⟩
  | .finite m q =>
    if m < Nat.pow 2 23 then ⟨.ofNat (sign + m)⟩
    else ⟨.ofNat (sign + (q + 150).toNat * Nat.pow 2 23 + (m - Nat.pow 2 23))⟩

def ofDouble (d : Double) : Single :=
  match d.magnitude? with
  | some m => ofMagnitude d.negative (Format.single.convert m)
  | none => ⟨if d.negative then 0xFFC00000 else 0x7FC00000⟩

/-- Rounds twice, to double precision first: numerals are read as doubles. -/
def ofDecimal (negative : Bool) (d : Decimal) : Single :=
  ofDouble (.ofDecimal negative d)

def ofInt (n : Int) : Single :=
  ofMagnitude (n < 0) (Format.single.round ⟨n.natAbs, 1⟩)

def text (s : Single) : List Char :=
  let sign := if s.negative then ['-'] else []
  match s.magnitude? with
  | none => "NaN".toList
  | some .infinite => sign ++ "inf".toList
  | some (.finite m q) => sign ++ (Decimal.shortest m q).positional

end Single

end LessonText.Numeral

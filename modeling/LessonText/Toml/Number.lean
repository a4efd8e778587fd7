import LessonText.Numeral.Double
import LessonText.Text

namespace LessonText.Toml.Number

def digit? (base : Nat) (c : Char) : Option Nat :=
  let d :=
    if '0' ≤ c ∧ c ≤ '9' then c.toNat - '0'.toNat
    else if 'a' ≤ c ∧ c ≤ 'f' then c.toNat - 'a'.toNat + 10
    else if 'A' ≤ c ∧ c ≤ 'F' then c.toNat - 'A'.toNat + 10
    else base
  if d < base then some d else none

def digits? (base : Nat) (t : Text) : Option (List Nat) :=
  let groups := t.splitOn '_'
  if groups.any List.isEmpty then none else groups.flatten.mapM (digit? base)

def ofDigits (base : Nat) (ds : List Nat) : Nat :=
  ds.foldl (fun n d => base * n + d) 0

def whole? (t : Text) : Option (List Nat) :=
  (digits? 10 t).filter fun ds => ds.head? ≠ some 0 || ds.length = 1

def sign : Text → Bool × Text
  | '-' :: t => (true, t)
  | '+' :: t => (false, t)
  | t => (false, t)

def signed (negative : Bool) (n : Nat) : Int :=
  if negative then -n else n

def inRange (n : Int) : Bool :=
  -(Nat.pow 2 127 : Int) ≤ n && n < (Nat.pow 2 128 : Int)

def integer? (t : Text) : Option Int :=
  let n : Option Int :=
    match t with
    | '0' :: 'x' :: t => (digits? 16 t).map fun ds => ofDigits 16 ds
    | '0' :: 'o' :: t => (digits? 8 t).map fun ds => ofDigits 8 ds
    | '0' :: 'b' :: t => (digits? 2 t).map fun ds => ofDigits 2 ds
    | t =>
      let (negative, t) := sign t
      (whole? t).map fun ds => signed negative (ofDigits 10 ds)
  n.filter inRange

def fraction? : Text → Option (List Nat)
  | [] => some []
  | _ :: t => digits? 10 t

def exponent? : Text → Option Int
  | [] => some 0
  | _ :: t =>
    let (negative, t) := sign t
    (digits? 10 t).map fun ds => signed negative (ofDigits 10 ds)

def decimal? (t : Text) : Option Numeral.Decimal := do
  let mantissa := t.takeWhile fun c => c ≠ 'e' && c ≠ 'E'
  let whole := mantissa.takeWhile (· ≠ '.')
  let fraction := mantissa.drop whole.length
  let exponent := t.drop mantissa.length
  if fraction.isEmpty && exponent.isEmpty then none
  else
    let ds ← whole? whole
    let fs ← fraction? fraction
    let e ← exponent? exponent
    return ⟨ofDigits 10 (ds ++ fs), e - fs.length⟩

/-- Numerals too great for double precision are refused; infinity has to be asked for. -/
def float? (t : Text) : Option Numeral.Double :=
  let (negative, t) := sign t
  if t = "inf".toList then some ⟨negative, some .infinite⟩
  else if t = "nan".toList then some ⟨negative, none⟩
  else
    ((decimal? t).map (Numeral.Double.ofDecimal negative)).filter
      (·.magnitude? != some .infinite)

end LessonText.Toml.Number

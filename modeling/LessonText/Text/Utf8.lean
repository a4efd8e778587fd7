import LessonText.Text

namespace LessonText.Utf8

def encode (t : Text) : ByteArray :=
  (String.ofList t).toUTF8

def decode? (b : ByteArray) : Option Text :=
  (String.fromUTF8? b).map String.toList

/-- An unfinished character: what its next byte has to be at least and at most, how many bytes
follow that one, and the code point so far. -/
structure Pending where
  low : UInt8
  high : UInt8
  more : Nat
  value : Nat

def Pending.ofLead? (b : UInt8) : Option Pending :=
  if b < 0xC2 then none
  else if b < 0xE0 then some ⟨0x80, 0xBF, 0, (b &&& 0x1F).toNat⟩
  else if b < 0xF0 then
    some ⟨if b = 0xE0 then 0xA0 else 0x80, if b = 0xED then 0x9F else 0xBF, 1,
      (b &&& 0x0F).toNat⟩
  else if b < 0xF5 then
    some ⟨if b = 0xF0 then 0x90 else 0x80, if b = 0xF4 then 0x8F else 0xBF, 2,
      (b &&& 0x07).toNat⟩
  else none

def replacement : Char := '\uFFFD'

def lead (b : UInt8) : Text × Option Pending :=
  if b < 0x80 then ([Char.ofNat b.toNat], none)
  else
    match Pending.ofLead? b with
    | some p => ([], some p)
    | none => ([replacement], none)

def decodeLossyFrom : Option Pending → List UInt8 → Text
  | none, [] => []
  | some _, [] => [replacement]
  | none, b :: bs =>
    let (t, p) := lead b
    t ++ decodeLossyFrom p bs
  | some p, b :: bs =>
    if p.low ≤ b ∧ b ≤ p.high then
      let value := 64 * p.value + (b &&& 0x3F).toNat
      match p.more with
      | 0 => Char.ofNat value :: decodeLossyFrom none bs
      | more + 1 => decodeLossyFrom (some ⟨0x80, 0xBF, more, value⟩) bs
    else
      let (t, p) := lead b
      replacement :: (t ++ decodeLossyFrom p bs)

/-- Decodes any bytes. Each longest beginning of a character that is not completed, and each other
stray byte, becomes one replacement character. -/
def decodeLossy (b : ByteArray) : Text :=
  decodeLossyFrom none b.toList

end LessonText.Utf8

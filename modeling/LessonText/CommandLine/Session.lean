import LessonText.Text

namespace LessonText.Session

def digits (n : Nat) : Text :=
  let ds := Nat.toDigits 16 n
  List.replicate (16 - ds.length) '0' ++ ds

/-- A random identifier of version 4, from two numbers of 64 bits. A digit of each is lost: to the
version, and to the variant. -/
def identifier (high low : Nat) : Text :=
  (digits high).take 12 ++ '4' :: ((digits high).drop 13 ++ '8' :: (digits low).drop 1)

end LessonText.Session

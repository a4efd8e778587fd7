import LessonText.Unicode.WhiteSpace

namespace LessonText

abbrev Text := List Char

instance : Coe String Text where
  coe := String.toList

namespace Text

def trimStart (t : Text) : Text :=
  t.dropWhile Unicode.isWhiteSpace

def trimEnd (t : Text) : Text :=
  (trimStart t.reverse).reverse

def trim (t : Text) : Text :=
  trimEnd (trimStart t)

def isBlank (t : Text) : Bool :=
  t.all Unicode.isWhiteSpace

/-- The pieces between line feeds. There is always at least one; a carriage return stays in the
piece that it ends. -/
def lines (t : Text) : List Text :=
  t.splitOn '\n'

def unlines (ls : List Text) : Text :=
  List.intercalate ['\n'] ls

def after? : (start t : Text) → Option Text
  | [], t => some t
  | _ :: _, [] => none
  | s :: start, c :: t => if s = c then after? start t else none

def startsWith (t start : Text) : Bool :=
  (after? start t).isSome

def firstWord? (t : Text) : Option Text :=
  match t.trimStart with
  | [] => none
  | c :: r => some ((c :: r).takeWhile (!Unicode.isWhiteSpace ·))

def utf8Length : Text → Nat
  | [] => 0
  | c :: t => c.utf8Size + utf8Length t

def contains : (t part : Text) → Bool
  | [], part => part.isEmpty
  | c :: t, part => startsWith (c :: t) part || contains t part

theorem after?_eq_some_iff {start t r : Text} : after? start t = some r ↔ t = start ++ r := by
  induction start generalizing t with
  | nil => simp [after?]
  | cons s start ih =>
    cases t with
    | nil => simp [after?]
    | cons c t => by_cases h : s = c <;> simp [after?, h, ih, eq_comm]

@[simp] theorem lines_ne_nil (t : Text) : lines t ≠ [] := by
  simp [lines]

@[simp] theorem unlines_lines (t : Text) : unlines (lines t) = t := by
  simp [lines, unlines]

theorem trimStart_eq_nil_iff {t : Text} : trimStart t = [] ↔ isBlank t := by
  induction t with
  | nil => simp [trimStart, isBlank]
  | cons c t ih =>
    by_cases h : Unicode.isWhiteSpace c <;> simp_all [trimStart, isBlank]

theorem isBlank_reverse (t : Text) : isBlank t.reverse = isBlank t := by
  simp [isBlank]

theorem trim_eq_nil_iff {t : Text} : trim t = [] ↔ isBlank t := by
  simp only [trim, trimEnd, List.reverse_eq_nil_iff]
  rw [trimStart_eq_nil_iff, isBlank_reverse]
  induction t with
  | nil => simp [trimStart]
  | cons c t ih =>
    by_cases h : Unicode.isWhiteSpace c <;> simp_all [trimStart, isBlank]

theorem trimStart_trimStart (t : Text) : trimStart (trimStart t) = trimStart t := by
  induction t with
  | nil => rfl
  | cons c t ih =>
    by_cases h : Unicode.isWhiteSpace c <;> simp_all [trimStart]

end Text

end LessonText

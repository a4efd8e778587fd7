import LessonText.Text

namespace LessonText.Toml

def isShown (c : Char) : Bool :=
  c = '\t' || ' ' ≤ c && c ≠ '\x7f'

def isSpacing (c : Char) : Bool :=
  c = ' ' || c = '\t'

def isLineEnd (c : Char) (rest : Text) : Bool :=
  c = '\n' || c = '\r' && rest.head? = some '\n'

def skipBlanks (t : Text) : Text :=
  t.dropWhile isSpacing

/-- Skips blanks, line ends and comments, and begins within a comment if `comment` says so. It
stops at a character that may not be there. -/
def skipFrom : (comment : Bool) → Text → Text
  | _, [] => []
  | comment, c :: t =>
    if isLineEnd c t then skipFrom false t
    else if comment then if isShown c then skipFrom true t else c :: t
    else if isSpacing c then skipFrom false t
    else if c = '#' then skipFrom true t
    else c :: t

def skip (t : Text) : Text :=
  skipFrom false t

def endsLine : Text → Bool
  | [] => true
  | c :: t => c = '#' || isLineEnd c t

end LessonText.Toml

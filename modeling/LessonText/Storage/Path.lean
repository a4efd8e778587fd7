import LessonText.Text

namespace LessonText

structure Path where
  absolute : Bool
  names : List Text
  slashed : Bool
  deriving DecidableEq, Repr

namespace Path

def ofText (t : Text) : Path where
  absolute := t.head? == some '/'
  names := (t.splitOn '/').filter (!·.isEmpty)
  slashed := t.getLast? == some '/'

/-- The path of the directory that holds this one. Dots that stay in place are no names here,
unless one leads. The empty path and the root are held by none. -/
def parent? (p : Path) : Option Path :=
  let proper :=
    match p.names with
    | n :: ns =>
      if n = ".".toList ∧ ¬p.absolute then n :: ns.filter (· ≠ ".".toList)
      else (n :: ns).filter (· ≠ ".".toList)
    | [] => []
  if proper.isEmpty then none else some { p with names := proper.dropLast, slashed := false }

end Path

end LessonText

import LessonText.Text

/-! Cutting a text at the places where something is written in it. Matches are taken from left to
right and do not overlap. -/

namespace LessonText

/-- A way to read one thing at the start of a text, with what follows it. Reading takes at least
one character, so a text holds finitely many matches. -/
structure Pattern (α : Type) where
  match? : Text → Option (α × Text)
  shorter : ∀ {t a r}, match? t = some (a, r) → r.length < t.length

inductive Fragment (α : Type)
  | plain (text : Text)
  | found (a : α)
  deriving DecidableEq, Repr

namespace Pattern

variable {α : Type}

def release (held : Text) (fs : List (Fragment α)) : List (Fragment α) :=
  if held.isEmpty then fs else .plain held.reverse :: fs

/-- `held` are the characters since the last match, latest first. -/
def cutFrom (p : Pattern α) (held t : Text) : List (Fragment α) :=
  match _h : p.match? t with
  | some (a, r) => release held (.found a :: p.cutFrom [] r)
  | none =>
    match t with
    | [] => release held []
    | c :: r => p.cutFrom (c :: held) r
termination_by t.length
decreasing_by
  · exact p.shorter _h
  · exact Nat.lt_succ_self _

def cut (p : Pattern α) (t : Text) : List (Fragment α) :=
  p.cutFrom [] t

end Pattern

end LessonText

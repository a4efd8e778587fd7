import LessonText.Text.Pattern

namespace LessonText

inductive Span
  | plain (text : Text)
  | emphasized (text : Text)
  deriving DecidableEq, Repr

namespace Span

def text : Span → Text
  | .plain t | .emphasized t => t

def isEmphasized : Span → Bool
  | .plain _ => false
  | .emphasized _ => true

def star : Char := '*'

def delimiter : Text := [star, star]

/-- Emphasized text at the start of `t`. It holds at least one character, and no star. -/
def emphasis? (t : Text) : Option (Text × Text) :=
  (Text.after? delimiter t).bind fun r =>
    let inner := r.takeWhile (· != star)
    if inner.isEmpty then none
    else (Text.after? delimiter (r.dropWhile (· != star))).map fun rest => (inner, rest)

theorem emphasis?_eq_some {t inner rest : Text} (h : emphasis? t = some (inner, rest)) :
    t = delimiter ++ inner ++ delimiter ++ rest ∧ inner ≠ [] ∧ star ∉ inner := by
  simp only [emphasis?, Option.bind_eq_some_iff, Text.after?_eq_some_iff] at h
  obtain ⟨r, rfl, h⟩ := h
  split at h
  · simp at h
  next hne =>
    simp only [Option.map_eq_some_iff, Text.after?_eq_some_iff, Prod.mk.injEq] at h
    obtain ⟨rest, hr, rfl, rfl⟩ := h
    refine ⟨?_, by simpa using hne, fun hm => ?_⟩
    · rw [List.append_assoc, List.append_assoc, ← hr, List.takeWhile_append_dropWhile]
    · simpa using List.all_eq_true.1 List.all_takeWhile _ hm

def pattern : Pattern Text where
  match? := emphasis?
  shorter h := by
    obtain ⟨rfl, -, -⟩ := emphasis?_eq_some h
    simp [delimiter]; omega

def ofFragment : Fragment Text → Span
  | .plain t => .plain t
  | .found t => .emphasized t

def ofText (t : Text) : List Span :=
  (pattern.cut t).map ofFragment

def plainText (spans : List Span) : Text :=
  spans.flatMap text

def write : Span → Text
  | .plain t => t
  | .emphasized t => delimiter ++ t ++ delimiter

end Span

end LessonText

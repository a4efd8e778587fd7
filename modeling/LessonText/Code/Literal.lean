import LessonText.Text.Pattern

/-! String literals in a line of code: two equal quotes and what is between them. There are no
escapes. -/

namespace LessonText.Literal

def isQuote (c : Char) : Bool :=
  c == '"' || c == '\x27' || c == '\x60'

def match? : Text → Option (Text × Text)
  | [] => none
  | q :: t =>
    if isQuote q then
      match t.dropWhile (· != q) with
      | [] => none
      | _ :: rest => some (q :: (t.takeWhile (· != q) ++ [q]), rest)
    else none

theorem match?_eq_some {t l r : Text} (h : match? t = some (l, r)) :
    ∃ q body, isQuote q ∧ l = q :: (body ++ [q]) ∧ q ∉ body ∧ t = l ++ r := by
  cases t with
  | nil => simp [match?] at h
  | cons q t =>
    simp only [match?] at h
    split at h
    next hq =>
      split at h
      · simp at h
      next c rest hd =>
        simp only [Option.some.injEq, Prod.mk.injEq] at h
        obtain ⟨rfl, rfl⟩ := h
        have hc : c = q := by
          have := List.head?_dropWhile_not (· != q) t
          rw [hd] at this
          simpa using this
        subst hc
        refine ⟨c, t.takeWhile (· != c), hq, rfl, fun hm => ?_, ?_⟩
        · simpa using List.all_eq_true.1 List.all_takeWhile _ hm
        · rw [List.cons_append, List.append_assoc]
          simp [← hd, List.takeWhile_append_dropWhile]
    · simp at h

def pattern : Pattern Text where
  match? := match?
  shorter h := by
    obtain ⟨q, body, -, rfl, -, rfl⟩ := match?_eq_some h
    simp; omega

end LessonText.Literal

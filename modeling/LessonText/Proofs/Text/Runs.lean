import LessonText.Text

namespace LessonText.Text

variable {p : Char → Bool} {s t : Text}

theorem takeWhile_append_of_head? (t : Text) (h : s.head?.any p = false) :
    (t ++ s).takeWhile p = t.takeWhile p := by
  induction t with
  | nil => cases s <;> simp_all
  | cons c t ih => by_cases hc : p c <;> simp [hc, ih]

theorem takeWhile_append_of_forall (ht : ∀ c ∈ t, p c) (h : s.head?.any p = false) :
    (t ++ s).takeWhile p = t := by
  induction t with
  | nil => cases s <;> simp_all
  | cons c t ih =>
    rw [List.forall_mem_cons] at ht
    rw [List.cons_append, List.takeWhile_cons_of_pos ht.1, ih ht.2]

theorem dropWhile_append_of_head? (t : Text) (h : s.head?.any p = false) :
    (t ++ s).dropWhile p = t.dropWhile p ++ s := by
  induction t with
  | nil => cases s <;> simp_all
  | cons c t ih => by_cases hc : p c <;> simp [hc, ih]

theorem any_head?_dropWhile (p : Char → Bool) (t : Text) :
    (t.dropWhile p).head?.any p = false := by
  have h := List.head?_dropWhile_not p t
  cases hd : (t.dropWhile p).head? <;> simp_all

theorem any_getLast?_append_of_ne_nil (s : Text) (h : t ≠ []) :
    (s ++ t).getLast?.any p = t.getLast?.any p := by
  rw [List.getLast?_append]
  cases ht : t.getLast? with
  | none => simp_all
  | some c => simp

end LessonText.Text

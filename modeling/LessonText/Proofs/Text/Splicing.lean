import Mathlib.Data.List.Infix
import LessonText.Proofs.Text.Characters
import LessonText.Proofs.Text.Trimming

namespace LessonText.Text

open Unicode (isWhiteSpace)

variable {s t l m : Text} {ls ms : List Text} {c : Char}

theorem lines_of_not_mem (h : '\n' ∉ s) : lines s = [s] :=
  List.splitOn_eq_singleton h

theorem lines_append_lineFeed (s t : Text) : lines (s ++ '\n' :: t) = lines s ++ lines t :=
  List.splitOn_append_cons_self s t

theorem unlines_append_unlines (ls : List Text) (l m : Text) (ms : List Text) :
    unlines (ls ++ [l]) ++ unlines (m :: ms) = unlines (ls ++ (l ++ m) :: ms) := by
  induction ls with
  | nil =>
    rcases Decidable.em (ms = []) with rfl | hne
    · simp [unlines]
    · rw [List.nil_append, List.nil_append, unlines_cons_of_ne_nil m hne,
        unlines_cons_of_ne_nil _ hne]
      simp [unlines]
  | cons k ls ih =>
    rw [List.cons_append, List.cons_append, unlines_cons_of_ne_nil k (by simp),
      unlines_cons_of_ne_nil k (by simp), ← ih, List.append_assoc, List.cons_append]

theorem unlines_suffix_unlines (hne : ls ≠ []) (h : ls <:+ ms) : unlines ls <:+ unlines ms := by
  induction ms with
  | nil => exact absurd (List.suffix_nil.1 h) hne
  | cons m ms ih =>
    rcases List.suffix_cons_iff.1 h with rfl | h
    · exact List.suffix_rfl
    · have hms : ms ≠ [] := by
        rintro rfl
        exact hne (List.suffix_nil.1 h)
      rw [unlines_cons_of_ne_nil m hms]
      exact (ih h).trans ((List.suffix_cons _ _).trans (List.suffix_append _ _))

/-- Where two texts meet, the last line of the one goes on with the first line of the other. -/
theorem lines_append (hs : lines s = ls ++ [l]) (ht : lines t = m :: ms) :
    lines (s ++ t) = ls ++ (l ++ m) :: ms := by
  have hst : s ++ t = unlines (ls ++ (l ++ m) :: ms) := by
    rw [← unlines_append_unlines, ← hs, ← ht, unlines_lines, unlines_lines]
  have hfree : ∀ k ∈ ls ++ (l ++ m) :: ms, '\n' ∉ k := by
    intro k hk
    have hls : ∀ k ∈ ls ++ [l], '\n' ∉ k := fun k hk =>
      lineFeed_not_mem_of_mem_lines (hs ▸ hk)
    have hms : ∀ k ∈ m :: ms, '\n' ∉ k := fun k hk =>
      lineFeed_not_mem_of_mem_lines (ht ▸ hk)
    simp only [List.forall_mem_append, List.forall_mem_cons] at hls hms
    rcases List.mem_append.1 hk with hk | hk
    · exact hls.1 k hk
    · rcases List.mem_cons.1 hk with rfl | hk
      · simp [hls.2.1, hms.1]
      · exact hms.2 k hk
  rw [hst, lines_unlines hfree (by simp)]

theorem exists_lines_eq_cons (t : Text) : ∃ m ms, lines t = m :: ms :=
  List.exists_cons_of_ne_nil (lines_ne_nil t)

theorem exists_lines_eq_append (s : Text) : ∃ ls l, lines s = ls ++ [l] :=
  ⟨_, _, (List.dropLast_concat_getLast (lines_ne_nil s)).symm⟩

theorem lines_unlines_eq_flatMap (h : ls ≠ []) : lines (unlines ls) = ls.flatMap lines := by
  induction ls with
  | nil => contradiction
  | cons l ls ih =>
    rcases Decidable.em (ls = []) with rfl | hne
    · simp [unlines]
    · rw [unlines_cons_of_ne_nil l hne, lines_append_lineFeed, ih hne, List.flatMap_cons]

theorem trim_cons_of_isWhiteSpace (hc : isWhiteSpace c) (t : Text) : trim (c :: t) = trim t := by
  rw [trim, trim, trimStart, List.dropWhile_cons_of_pos hc, ← trimStart]

theorem trim_snoc_of_isWhiteSpace (hc : isWhiteSpace c) (t : Text) :
    trim (t ++ [c]) = trim t := by
  rw [← trim_trimEnd, trimEnd_snoc hc, trim_trimEnd]

theorem map_trim_lines_trimStart (t : Text) :
    (lines (trimStart t)).map trim <:+ (lines t).map trim := by
  induction t with
  | nil => exact List.suffix_rfl
  | cons c t ih =>
    cases hc : isWhiteSpace c with
    | false =>
      rw [trimStart, List.dropWhile_cons_of_neg (by simp [hc])]
    | true =>
      rw [trimStart, List.dropWhile_cons_of_pos hc, ← trimStart]
      refine List.IsSuffix.trans ih ?_
      rw [lines_cons]
      split
      next => exact List.suffix_cons _ _
      next =>
        obtain ⟨m, ms, ht⟩ := exists_lines_eq_cons t
        rw [ht, List.modifyHead_cons, List.map_cons, List.map_cons, trim_cons_of_isWhiteSpace hc]

theorem map_trim_lines_trimEnd (t : Text) :
    (lines (trimEnd t)).map trim <+: (lines t).map trim := by
  induction t using List.reverseRecOn with
  | nil => exact List.prefix_rfl
  | append_singleton t c ih =>
    cases hc : isWhiteSpace c with
    | false =>
      rw [trimEnd_of_getLast? (by simp [hc])]
    | true =>
      rw [trimEnd_snoc hc]
      refine List.IsPrefix.trans ih ?_
      rcases eq_or_ne c '\n' with rfl | hfeed
      · rw [lines_append_lineFeed, List.map_append]
        exact List.prefix_append _ _
      · obtain ⟨ls, l, ht⟩ := exists_lines_eq_append t
        have hsingle : lines [c] = [[c]] := lines_of_not_mem (by simpa using hfeed.symm)
        rw [lines_append ht hsingle, ht, List.map_append, List.map_append, List.map_cons,
          List.map_cons, trim_snoc_of_isWhiteSpace hc]

theorem map_trim_lines_trim (t : Text) : (lines (trim t)).map trim <:+: (lines t).map trim :=
  List.IsInfix.trans (map_trim_lines_trimEnd _).isInfix (map_trim_lines_trimStart t).isInfix

end LessonText.Text

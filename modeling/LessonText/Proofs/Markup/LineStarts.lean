import LessonText.Proofs.Markup.Opening
import LessonText.Proofs.Text.Parts

/-! The marks at the line starts of a text that is put together from fixed parts and from others:
fixed parts can neither make a mark nor hide one. -/

namespace LessonText

namespace Text

variable {s t m : Text}

theorem startsWith_trim (hm : IsUnspaced m) (t : Text) :
    startsWith t.trim m = startsWith t.trimStart m := by
  have hlast : m.getLast?.any Unicode.isWhiteSpace = false := by
    rw [List.getLast?_eq_some_getLast hm.ne_nil]
    exact hm.isWhiteSpace _ (List.getLast_mem hm.ne_nil)
  rw [Bool.eq_iff_iff, startsWith_iff, startsWith_iff, trim]
  constructor
  · exact fun h => h.trans (trimEnd_isPrefix _)
  · rintro ⟨r, hr⟩
    rw [← hr, trimEnd_append hlast]
    exact List.prefix_append m _

theorem startsWith_append (h : ∀ c ∈ s.head?, c ∉ m) (t : Text) :
    startsWith (t ++ s) m = startsWith t m := by
  induction m generalizing t with
  | nil => rfl
  | cons a m ih =>
    cases t with
    | nil =>
      cases s with
      | nil => rfl
      | cons c s =>
        have hc : a ≠ c := by
          rintro rfl
          exact h a rfl List.mem_cons_self
        simp [startsWith, after?, hc]
    | cons c t =>
      have hm : ∀ d ∈ s.head?, d ∉ m := fun d hd hdm => h d hd (List.mem_cons_of_mem a hdm)
      by_cases hc : a = c
      · simpa [startsWith, after?, hc] using ih hm t
      · simp [startsWith, after?, hc]

theorem startsWith_nil (hm : m ≠ []) : startsWith [] m = false := by
  cases m with
  | nil => contradiction
  | cons a m => rfl

theorem startsWith_eq_false (hm : m ≠ []) (h : t.head? ≠ m.head?) : startsWith t m = false := by
  cases m with
  | nil => contradiction
  | cons a m =>
    cases t with
    | nil => rfl
    | cons c t =>
      have hc : a ≠ c := by
        rintro rfl
        exact h rfl
      simp [startsWith, after?, hc]

theorem trimStart_append_of_not_isBlank (h : s.isBlank = false) (t : Text) :
    trimStart (s ++ t) = trimStart s ++ t := by
  have hne : trimStart s ≠ [] := by
    rw [ne_eq, trimStart_eq_nil_iff, h]
    decide
  rw [trimStart, List.dropWhile_append, ← trimStart, if_neg (by simpa using hne)]

end Text

namespace Line

def allMarks : List Text :=
  Fence.mark :: Kind.all.map Kind.marker

def marks (l : Text) : List Text :=
  allMarks.filter (l.trim.startsWith ·)

variable {l f m : Text}

theorem isUnspaced_of_mem_allMarks : ∀ m ∈ allMarks, Text.IsUnspaced m := by
  decide

theorem mem_marks_iff : m ∈ marks l ↔ m ∈ allMarks ∧ l.trim.startsWith m :=
  List.mem_filter

theorem isMarked_iff_mem_marks : IsMarked l ↔ ∃ k : Kind, k.marker ∈ marks l := by
  constructor
  · rintro ⟨k, hk, h⟩
    exact ⟨k, mem_marks_iff.2 ⟨List.mem_cons_of_mem _ (List.mem_map_of_mem hk), h⟩⟩
  · rintro ⟨k, h⟩
    exact ⟨k, k.mem_all, (mem_marks_iff.1 h).2⟩

theorem isFence_iff_mem_marks : IsFence l ↔ Fence.mark ∈ marks l := by
  rw [mem_marks_iff, IsFence, iff_and_self]
  exact fun _ => List.mem_cons_self

theorem marks_eq_nil_iff :
    marks l = [] ↔ IsUnmarked l ∧ l.trim.startsWith Fence.mark = false := by
  rw [marks, List.filter_eq_nil_iff, allMarks, List.forall_mem_cons, List.forall_mem_map,
    and_comm]
  simp only [Bool.not_eq_true, IsUnmarked]

theorem isContent_iff_marks : IsContent l ↔ '\n' ∉ l ∧ marks l = [] := by
  rw [isContent_iff, marks_eq_nil_iff]

@[mk_iff]
structure Leads (f : Text) : Prop where
  no_lineFeed : '\n' ∉ f
  not_isBlank : f.isBlank = false
  head : ∀ m ∈ allMarks, f.trimStart.head? ≠ m.head?

@[mk_iff]
structure Divides (f : Text) : Prop extends Leads f where
  not_mem : ∀ m ∈ allMarks, f.head?.all (· ∉ m)

instance : DecidablePred Leads := fun f => decidable_of_iff' _ (leads_iff f)

instance : DecidablePred Divides := fun f => decidable_of_iff' _ (divides_iff f)

theorem Leads.startsWith_trim_append (hf : Leads f) (hm : m ∈ allMarks) (t : Text) :
    (f ++ t).trim.startsWith m = false := by
  have hunspaced := isUnspaced_of_mem_allMarks m hm
  rw [Text.startsWith_trim hunspaced, Text.trimStart_append_of_not_isBlank hf.not_isBlank]
  apply Text.startsWith_eq_false hunspaced.ne_nil
  have hne : f.trimStart ≠ [] := by
    rw [ne_eq, Text.trimStart_eq_nil_iff, hf.not_isBlank]
    decide
  rw [List.head?_append_of_ne_nil _ hne]
  exact hf.head m hm

theorem Leads.marks_append (hf : Leads f) (t : Text) : marks (f ++ t) = [] := by
  rw [marks, List.filter_eq_nil_iff]
  intro m hm
  rw [hf.startsWith_trim_append hm]
  decide

theorem Leads.marks_eq_nil (hf : Leads f) : marks f = [] := by
  have h := hf.marks_append []
  rwa [List.append_nil] at h

theorem Divides.marks_append (hf : Divides f) (l t : Text) :
    marks (l ++ (f ++ t)) = marks l := by
  apply List.filter_congr
  intro m hm
  have hunspaced := isUnspaced_of_mem_allMarks m hm
  cases hl : l.isBlank with
  | true =>
    rw [Text.startsWith_trim hunspaced, Text.trimStart_append_of_isBlank hl,
      ← Text.startsWith_trim hunspaced, hf.startsWith_trim_append hm, Text.trim_eq_nil_iff.2 hl,
      Text.startsWith_nil hunspaced.ne_nil]
  | false =>
    rw [Text.startsWith_trim hunspaced, Text.startsWith_trim hunspaced,
      Text.trimStart_append_of_not_isBlank hl, Text.startsWith_append]
    have hne : f ≠ [] := by
      rintro rfl
      exact absurd hf.not_isBlank (by decide)
    rw [List.head?_append_of_ne_nil _ hne]
    simpa [Option.all_eq_true] using hf.not_mem m hm

end Line

namespace Text

variable {f : Text}

def marks (t : Text) : List (List Text) :=
  (lines t).map Line.marks

theorem marks_ne_nil (t : Text) : marks t ≠ [] := by
  simp [marks]

@[simp] theorem marks_nil : marks [] = [[]] := rfl

theorem marks_leads_append (hf : Line.Leads f) (t : Text) :
    marks (f ++ t) = [] :: (marks t).tail := by
  obtain ⟨m, ms, ht⟩ := exists_lines_eq_cons t
  have hlines : lines f = [] ++ [f] := lines_of_not_mem hf.no_lineFeed
  rw [marks, marks, lines_append hlines ht, ht]
  simp [hf.marks_append]

theorem marks_leads (hf : Line.Leads f) : marks f = [[]] := by
  have h := marks_leads_append hf []
  rwa [List.append_nil] at h

theorem marks_append_divides_append (hf : Line.Divides f) (s t : Text) :
    marks (s ++ (f ++ t)) = marks s ++ (marks t).tail := by
  obtain ⟨m, ms, ht⟩ := exists_lines_eq_cons t
  obtain ⟨ls, l, hs⟩ := exists_lines_eq_append s
  have hlines : lines f = [] ++ [f] := lines_of_not_mem hf.no_lineFeed
  rw [marks, marks, marks, lines_append hs (lines_append hlines ht), hs, ht]
  simp [hf.marks_append]

theorem marks_append_divides (hf : Line.Divides f) (s : Text) : marks (s ++ f) = marks s := by
  have h := marks_append_divides_append hf s []
  rwa [List.append_nil, marks_nil, List.tail_cons, List.append_nil] at h

@[simp] theorem marks_mark : marks Fence.mark = [[Fence.mark]] := by decide

theorem tail_marks_append (s : Text) (ms : List (List Text)) :
    (marks s ++ ms).tail = (marks s).tail ++ ms :=
  List.tail_append_of_ne_nil (marks_ne_nil s)

end Text

end LessonText

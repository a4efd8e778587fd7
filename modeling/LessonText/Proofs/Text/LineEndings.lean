import Mathlib.Data.List.Forall2
import LessonText.Proofs.Text.Splicing

namespace LessonText.Text

open Unicode (isWhiteSpace)

variable {t l m : Text} {ls : List Text} {c : Char} {p : Char → Bool}

def addReturns (t : Text) : Text :=
  t.flatMap fun c => if c = '\n' then ['\r', '\n'] else [c]

@[simp] theorem addReturns_nil : addReturns [] = [] := rfl

@[simp] theorem addReturns_lineFeed (t : Text) :
    addReturns ('\n' :: t) = '\r' :: '\n' :: addReturns t := rfl

theorem addReturns_cons (hc : c ≠ '\n') (t : Text) : addReturns (c :: t) = c :: addReturns t := by
  simp [addReturns, hc]

@[simp] theorem addReturns_append (s t : Text) :
    addReturns (s ++ t) = addReturns s ++ addReturns t :=
  List.flatMap_append

theorem addReturns_eq_nil_iff : addReturns t = [] ↔ t = [] := by
  cases t with
  | nil => simp
  | cons c t => rcases eq_or_ne c '\n' with rfl | hc <;> simp [addReturns_cons, *]

def dropReturns (t : Text) : Text :=
  t.filter (· ≠ '\r')

/-- Whether two lines are one line up to a return at the end. -/
def SameLine (l m : Text) : Prop :=
  m = l ∨ m = l ++ ['\r']

theorem SameLine.cons (c : Char) (h : SameLine l m) : SameLine (c :: l) (c :: m) :=
  h.imp (congrArg (c :: ·)) (congrArg (c :: ·))

theorem SameLine.trim_eq (h : SameLine l m) : trim m = trim l := by
  rcases h with rfl | rfl
  · rfl
  · exact trim_snoc_of_isWhiteSpace (by decide) l

theorem SameLine.dropReturns_eq (h : SameLine l m) : dropReturns m = dropReturns l := by
  rcases h with rfl | rfl
  · rfl
  · simp [dropReturns]

theorem forall₂_lines_addReturns (t : Text) :
    List.Forall₂ SameLine (lines t) (lines (addReturns t)) := by
  induction t with
  | nil => exact .cons (.inl rfl) .nil
  | cons c t ih =>
    rcases eq_or_ne c '\n' with rfl | hc
    · have hfirst : lines ('\r' :: '\n' :: addReturns t) = ['\r'] :: lines (addReturns t) := by
        rw [lines_cons, if_neg (by decide), lines_cons, if_pos rfl, List.modifyHead_cons]
      rw [addReturns_lineFeed, hfirst, lines_cons, if_pos rfl]
      exact .cons (.inr rfl) ih
    · obtain ⟨l, ls, hl⟩ := exists_lines_eq_cons t
      obtain ⟨m, ms, hm⟩ := exists_lines_eq_cons (addReturns t)
      rw [hl, hm, List.forall₂_cons] at ih
      rw [addReturns_cons hc, lines_cons, if_neg hc, lines_cons, if_neg hc, hl, hm]
      exact .cons (ih.1.cons c) ih.2

theorem map_lines_addReturns {α : Type} {f : Text → α} (hf : ∀ {l m}, SameLine l m → f m = f l)
    (t : Text) : (lines (addReturns t)).map f = (lines t).map f := by
  rw [eq_comm, ← List.forall₂_eq_eq_eq, List.forall₂_map_left_iff, List.forall₂_map_right_iff]
  exact (forall₂_lines_addReturns t).imp fun _ _ h => (hf h).symm

theorem takeWhile_addReturns (hreturn : p '\r') (hfeed : p '\n') (t : Text) :
    (addReturns t).takeWhile p = addReturns (t.takeWhile p) := by
  induction t with
  | nil => rfl
  | cons c t ih =>
    rcases eq_or_ne c '\n' with rfl | hc
    · simp [hreturn, hfeed, ih]
    · cases hp : p c <;> simp [addReturns_cons hc, hp, ih]

theorem dropWhile_addReturns (hreturn : p '\r') (hfeed : p '\n') (t : Text) :
    (addReturns t).dropWhile p = addReturns (t.dropWhile p) := by
  induction t with
  | nil => rfl
  | cons c t ih =>
    rcases eq_or_ne c '\n' with rfl | hc
    · simp [hreturn, hfeed, ih]
    · cases hp : p c <;> simp [addReturns_cons hc, hp, ih]

theorem after?_addReturns {start : Text} (hreturn : '\r' ∉ start) (hfeed : '\n' ∉ start)
    (t : Text) : after? start (addReturns t) = (after? start t).map addReturns := by
  induction start generalizing t with
  | nil => rfl
  | cons s start ih =>
    rw [List.mem_cons, not_or] at hreturn hfeed
    cases t with
    | nil => rfl
    | cons c t =>
      rcases eq_or_ne c '\n' with rfl | hc
      · simp [after?, Ne.symm hreturn.1, Ne.symm hfeed.1]
      · rw [addReturns_cons hc, after?, after?]
        split
        · exact ih hreturn.2 hfeed.2 t
        · rfl

theorem trimStart_addReturns (t : Text) : trimStart (addReturns t) = addReturns (trimStart t) :=
  dropWhile_addReturns (by decide) (by decide) t

theorem trimEnd_addReturns (t : Text) : trimEnd (addReturns t) = addReturns (trimEnd t) := by
  induction t using List.reverseRecOn with
  | nil => rfl
  | append_singleton t c ih =>
    cases hs : isWhiteSpace c with
    | true =>
      rw [trimEnd_snoc hs, ← ih, addReturns_append]
      rcases eq_or_ne c '\n' with rfl | hc
      · have hpair : addReturns t ++ addReturns ['\n'] = addReturns t ++ ['\r'] ++ ['\n'] := by simp
        rw [hpair, trimEnd_snoc (by decide), trimEnd_snoc (by decide)]
      · rw [addReturns_cons hc, addReturns_nil, trimEnd_snoc hs]
    | false =>
      have hc : c ≠ '\n' := by
        rintro rfl
        contradiction
      have hkept (u : Text) : trimEnd (u ++ [c]) = u ++ [c] :=
        trimEnd_of_getLast? (by simpa using hs)
      rw [hkept, addReturns_append, addReturns_cons hc, addReturns_nil, hkept]

theorem trim_addReturns (t : Text) : trim (addReturns t) = addReturns (trim t) := by
  rw [trim, trimStart_addReturns, trimEnd_addReturns, trim]

theorem dropReturns_eq_self (h : '\r' ∉ t) : dropReturns t = t := by
  rw [dropReturns, List.filter_eq_self]
  intro c hc
  rw [decide_eq_true_iff]
  rintro rfl
  exact h hc

theorem dropReturns_cons (hc : c ≠ '\r') (t : Text) :
    dropReturns (c :: t) = c :: dropReturns t :=
  List.filter_cons_of_pos (by simpa using hc)

theorem dropReturns_addReturns (t : Text) : dropReturns (addReturns t) = dropReturns t := by
  induction t with
  | nil => rfl
  | cons c t ih =>
    rcases eq_or_ne c '\n' with rfl | hc
    · exact congrArg ('\n' :: ·) ih
    · rw [addReturns_cons hc]
      rcases eq_or_ne c '\r' with rfl | hr
      · exact ih
      · rw [dropReturns_cons hr, dropReturns_cons hr, ih]

theorem dropReturns_trimStart (t : Text) :
    dropReturns (trimStart t) = trimStart (dropReturns t) := by
  induction t with
  | nil => rfl
  | cons c t ih =>
    cases hc : isWhiteSpace c with
    | true =>
      rw [trimStart, List.dropWhile_cons_of_pos hc, ← trimStart, ih]
      rcases eq_or_ne c '\r' with rfl | hr
      · rfl
      · rw [dropReturns_cons hr, trimStart, trimStart, List.dropWhile_cons_of_pos hc]
    | false =>
      have hr : c ≠ '\r' := by
        rintro rfl
        contradiction
      rw [trimStart_of_head? (by simpa using hc), dropReturns_cons hr,
        trimStart_of_head? (by simpa using hc)]

theorem dropReturns_trim (t : Text) : dropReturns (trim t) = trim (dropReturns t) := by
  have hreverse (u : Text) : dropReturns u.reverse = (dropReturns u).reverse :=
    List.filter_reverse
  rw [trim, trimEnd, hreverse, dropReturns_trimStart, hreverse, dropReturns_trimStart, ← trimEnd,
    ← trim]

theorem dropReturns_unlines (ls : List Text) :
    dropReturns (unlines ls) = unlines (ls.map dropReturns) := by
  induction ls with
  | nil => rfl
  | cons l ls ih =>
    rcases Decidable.em (ls = []) with rfl | hne
    · simp [unlines]
    · have hmap : ls.map dropReturns ≠ [] := by simpa using hne
      rw [unlines_cons_of_ne_nil l hne, List.map_cons, unlines_cons_of_ne_nil _ hmap, ← ih]
      simp [dropReturns]

end LessonText.Text

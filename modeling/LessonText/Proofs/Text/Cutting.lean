import LessonText.Text.Pattern

namespace LessonText

variable {α : Type}

def Fragment.write (w : α → Text) : Fragment α → Text
  | .plain t => t
  | .found a => w a

namespace Pattern

variable {p : Pattern α} {held t r : Text} {a : α} {c : Char}

@[simp] theorem match?_nil (p : Pattern α) : p.match? [] = none := by
  cases h : p.match? [] with
  | none => rfl
  | some ar => exact absurd (p.shorter h) (Nat.not_lt_zero _)

@[simp] theorem cutFrom_nil : p.cutFrom held [] = release held [] := by
  rw [cutFrom]
  split
  next h => simp at h
  next => rfl

theorem cutFrom_of_match? (h : p.match? t = some (a, r)) :
    p.cutFrom held t = release held (.found a :: p.cutFrom [] r) := by
  rw [cutFrom]
  split
  next h' => simp_all
  next h' => simp_all

@[simp] theorem release_nil (fs : List (Fragment α)) : release [] fs = fs := rfl

theorem cut_of_match? (h : p.match? t = some (a, r)) : p.cut t = .found a :: p.cut r := by
  rw [cut, cutFrom_of_match? h, release_nil, cut]

theorem cutFrom_cons_of_match? (h : p.match? (c :: t) = none) :
    p.cutFrom held (c :: t) = p.cutFrom (c :: held) t := by
  rw [cutFrom]
  split <;> simp_all

theorem cutFrom_induction {motive : Text → Text → Prop}
    (nil : ∀ held, motive held [])
    (found : ∀ held t a r, p.match? t = some (a, r) → motive [] r → motive held t)
    (plain : ∀ held c t, p.match? (c :: t) = none → motive (c :: held) t → motive held (c :: t))
    (held t : Text) : motive held t := by
  cases h : p.match? t with
  | some ar =>
    have := p.shorter h
    exact found held t ar.1 ar.2 h (cutFrom_induction nil found plain [] ar.2)
  | none =>
    cases t with
    | nil => exact nil held
    | cons c t => exact plain held c t h (cutFrom_induction nil found plain (c :: held) t)
termination_by t.length

theorem flatMap_write_release (w : α → Text) (held : Text) (fs : List (Fragment α)) :
    (release held fs).flatMap (Fragment.write w) =
      held.reverse ++ fs.flatMap (Fragment.write w) := by
  cases held <;> simp [release, Fragment.write]

theorem flatMap_write_cutFrom {w : α → Text}
    (hw : ∀ {t a r}, p.match? t = some (a, r) → t = w a ++ r) (held t : Text) :
    (p.cutFrom held t).flatMap (Fragment.write w) = held.reverse ++ t := by
  induction held, t using cutFrom_induction (p := p) with
  | nil held => simp [flatMap_write_release]
  | found held t a r h ih =>
    rw [cutFrom_of_match? h, flatMap_write_release, List.flatMap_cons, ih]
    simp [Fragment.write, hw h]
  | plain held c t h ih => simp [cutFrom_cons_of_match? h, ih]

theorem flatMap_write_cut {w : α → Text}
    (hw : ∀ {t a r}, p.match? t = some (a, r) → t = w a ++ r) (t : Text) :
    (p.cut t).flatMap (Fragment.write w) = t :=
  flatMap_write_cutFrom hw [] t

theorem forall_mem_release {P : Fragment α → Prop} {fs : List (Fragment α)}
    (plain : ∀ t, t ≠ [] → P (.plain t)) (h : ∀ f ∈ fs, P f) : ∀ f ∈ release held fs, P f := by
  cases held with
  | nil => exact h
  | cons c held =>
    intro f hf
    rcases List.mem_cons.1 hf with rfl | hf
    · exact plain _ (by simp)
    · exact h f hf

theorem forall_mem_cut {P : Fragment α → Prop} (plain : ∀ t, t ≠ [] → P (.plain t))
    (found : ∀ t a r, p.match? t = some (a, r) → P (.found a)) (t : Text) :
    ∀ f ∈ p.cut t, P f := by
  rw [cut]
  generalize [] = held
  induction held, t using cutFrom_induction (p := p) with
  | nil held => simpa using forall_mem_release plain (fun _ => by simp)
  | found held t a r h ih =>
    rw [cutFrom_of_match? h]
    refine forall_mem_release plain fun f hf => ?_
    rcases List.mem_cons.1 hf with rfl | hf
    · exact found t a r h
    · exact ih f hf
  | plain held c t h ih =>
    rw [cutFrom_cons_of_match? h]
    exact ih

/-- `gap` is the text in front of the first match, or all of it where nothing matches. -/
structure IsGap (p : Pattern α) (gap rest : Text) : Prop where
  free : ∀ t, t <:+ gap → t ≠ [] → p.match? (t ++ rest) = none
  stop : rest = [] ∨ ∃ a r, p.match? rest = some (a, r)

namespace IsGap

variable {gap rest : Text}

theorem nil (h : rest = [] ∨ ∃ a r, p.match? rest = some (a, r)) : p.IsGap [] rest where
  free _ ht hne := absurd (List.suffix_nil.1 ht) hne
  stop := h

theorem cons (h : p.IsGap gap rest) (hc : p.match? (c :: (gap ++ rest)) = none) :
    p.IsGap (c :: gap) rest where
  free t ht hne := by
    rcases List.suffix_cons_iff.1 ht with rfl | ht
    · exact hc
    · exact h.free t ht hne
  stop := h.stop

theorem suffix (h : p.IsGap gap rest) (ht : t <:+ gap) : p.IsGap t rest where
  free u hu := h.free u (hu.trans ht)
  stop := h.stop

theorem match?_cons (h : p.IsGap (c :: gap) rest) : p.match? (c :: (gap ++ rest)) = none :=
  h.free (c :: gap) (List.suffix_refl _) (List.cons_ne_nil c gap)

theorem cutFrom_append (h : p.IsGap gap rest) :
    p.cutFrom held (gap ++ rest) = p.cutFrom (gap.reverse ++ held) rest := by
  induction gap generalizing held with
  | nil => rfl
  | cons c gap ih =>
    rw [List.cons_append, cutFrom_cons_of_match? h.match?_cons,
      ih (h.suffix (List.suffix_cons c gap)), List.reverse_cons, List.append_assoc,
      List.singleton_append]

theorem cut_append_eq_release (h : p.IsGap gap rest) :
    p.cut (gap ++ rest) = release gap.reverse (p.cut rest) := by
  rw [cut, h.cutFrom_append, List.append_nil]
  rcases h.stop with rfl | ⟨a, r, hm⟩
  · rw [cut, cutFrom_nil, cutFrom_nil, release_nil]
  · rw [cut, cutFrom_of_match? hm, cutFrom_of_match? hm, release_nil]

theorem cut_eq (h : p.IsGap gap []) : p.cut gap = release gap.reverse [] :=
  calc
    p.cut gap = release gap.reverse (p.cut []) := by rw [← h.cut_append_eq_release, List.append_nil]
    _ = release gap.reverse [] := by rw [cut, cutFrom_nil, release_nil]

theorem cut_append (h : p.IsGap gap rest) (hm : p.match? rest = some (a, r)) :
    p.cut (gap ++ rest) = release gap.reverse (.found a :: p.cut r) := by
  rw [h.cut_append_eq_release, cut_of_match? hm]

end IsGap

theorem exists_isGap (p : Pattern α) (t : Text) :
    ∃ gap rest, t = gap ++ rest ∧ p.IsGap gap rest := by
  induction t with
  | nil => exact ⟨[], [], rfl, .nil (.inl rfl)⟩
  | cons c t ih =>
    cases h : p.match? (c :: t) with
    | some ar => exact ⟨[], c :: t, rfl, .nil (.inr ⟨ar.1, ar.2, h⟩)⟩
    | none =>
      obtain ⟨gap, rest, rfl, hg⟩ := ih
      exact ⟨c :: gap, rest, rfl, hg.cons h⟩

theorem gap_induction {motive : Text → Prop} (last : ∀ gap, p.IsGap gap [] → motive gap)
    (found : ∀ gap rest a r, p.IsGap gap rest → p.match? rest = some (a, r) → motive r →
      motive (gap ++ rest)) (t : Text) : motive t := by
  induction hn : t.length using Nat.strongRecOn generalizing t with
  | _ n ih =>
    obtain ⟨gap, rest, rfl, hg⟩ := p.exists_isGap t
    rcases hg.stop with rfl | ⟨a, r, hm⟩
    · rw [List.append_nil]
      exact last gap hg
    · have hr := p.shorter hm
      refine found gap rest a r hg hm (ih r.length ?_ r rfl)
      rw [← hn, List.length_append]
      omega

end Pattern

end LessonText

import Mathlib.Data.List.Chain
import Mathlib.Data.List.TakeWhile
import Mathlib.Tactic.MkIffOfInductiveProp
import LessonText.Prose.Span
import LessonText.Proofs.Text.Cutting
import LessonText.Proofs.Text.Parts
import LessonText.Proofs.Text.Runs

namespace LessonText

namespace Span

open Text (after?)

variable {t rest : Text} {c : Char} {spans : List Span}

theorem after?_delimiter_append (t : Text) : after? delimiter (delimiter ++ t) = some t :=
  Text.after?_eq_some_iff.2 rfl

theorem after?_delimiter_of_ne (h : c ≠ star) : after? delimiter (c :: t) = none := by
  simp [delimiter, after?, Ne.symm h]

theorem emphasis?_eq_none (h : after? delimiter t = none) : emphasis? t = none := by
  simp [emphasis?, h]

theorem emphasis?_star_delimiter (t : Text) : emphasis? (star :: (delimiter ++ t)) = none := by
  simp [emphasis?, delimiter, after?]

theorem emphasis?_write (hne : t ≠ []) (hstar : star ∉ t) (rest : Text) :
    emphasis? (write (.emphasized t) ++ rest) = some (t, rest) := by
  have hin : t.takeWhile (· != star) = t := by
    rw [List.takeWhile_eq_self_iff]
    intro c hc
    rw [bne_iff_ne]
    rintro rfl
    exact hstar hc
  have hout : t.dropWhile (· != star) = [] := by
    rwa [List.dropWhile_eq_nil_iff, ← List.takeWhile_eq_self_iff]
  have hend : (delimiter ++ rest).head?.any (· != star) = false := by simp [delimiter]
  rw [emphasis?, write, List.append_assoc, List.append_assoc, after?_delimiter_append,
    Option.bind_some, Text.takeWhile_append_of_head? t hend,
    Text.dropWhile_append_of_head? t hend, hin, hout, List.nil_append, after?_delimiter_append]
  simp [hne]

def EndsPlain (rest : Text) : Prop :=
  rest = [] ∨ ∃ u r, emphasis? rest = some (u, r)

/-- A star at the end of plain text makes three with the delimiter after it, so that no emphasis
starts one star too early. -/
theorem emphasis?_cons_append (h : Text.contains (c :: t) delimiter = false)
    (hrest : EndsPlain rest) :
    emphasis? (c :: (t ++ rest)) = none := by
  by_cases hc : c = star
  case neg => exact emphasis?_eq_none (after?_delimiter_of_ne hc)
  subst hc
  cases t with
  | nil =>
    rcases hrest with rfl | ⟨u, r, hr⟩
    · rfl
    · obtain ⟨rfl, -, -⟩ := emphasis?_eq_some hr
      rw [List.append_assoc, List.append_assoc]
      exact emphasis?_star_delimiter _
  | cons d t =>
    have hd : d ≠ star := by
      rintro rfl
      simp [Text.contains, Text.startsWith, delimiter, after?] at h
    apply emphasis?_eq_none
    simp [delimiter, after?, Ne.symm hd]

theorem isGap_of_contains (h : Text.contains t delimiter = false)
    (hrest : EndsPlain rest) : pattern.IsGap t rest := by
  induction t with
  | nil => exact .nil hrest
  | cons c t ih =>
    have ht : Text.contains t delimiter = false := (Text.contains_cons_eq_false_iff.1 h).2
    exact (ih ht).cons (emphasis?_cons_append h hrest)

@[simp] theorem ofText_nil : ofText [] = [] := by
  simp [ofText, Pattern.cut]

theorem ofText_append (h : pattern.IsGap t rest) (hne : t ≠ []) :
    ofText (t ++ rest) = .plain t :: ofText rest := by
  simp [ofText, h.cut_append_eq_release, Pattern.release, hne, ofFragment]

theorem ofText_plain (hne : t ≠ []) (h : Text.contains t delimiter = false)
    (hrest : EndsPlain rest) :
    ofText (write (.plain t) ++ rest) = .plain t :: ofText rest :=
  ofText_append (isGap_of_contains h hrest) hne

theorem ofText_of_emphasis? {inner : Text} (h : emphasis? t = some (inner, rest)) :
    ofText t = .emphasized inner :: ofText rest := by
  have hmatch : pattern.match? t = some (inner, rest) := h
  rw [ofText, Pattern.cut_of_match? hmatch]
  rfl

theorem ofText_emphasized (hne : t ≠ []) (hstar : star ∉ t) (rest : Text) :
    ofText (write (.emphasized t) ++ rest) = .emphasized t :: ofText rest :=
  ofText_of_emphasis? (emphasis?_write hne hstar rest)

theorem flatMap_write_ofText (t : Text) : (ofText t).flatMap write = t := by
  have hwrite : ∀ f, write (ofFragment f) = f.write fun u => write (.emphasized u) := by
    rintro (u | u) <;> rfl
  rw [ofText, List.flatMap_map]
  simp only [hwrite]
  apply Pattern.flatMap_write_cut
  intro u inner rest h
  exact (emphasis?_eq_some h).1

theorem text_subset_of_mem_ofText {s : Span} (h : s ∈ ofText t) : s.text ⊆ t := by
  intro c hc
  have hwrite : c ∈ s.write := by
    cases s with
    | plain u => exact hc
    | emphasized u => exact List.mem_append_left _ (List.mem_append_right _ hc)
  rw [← flatMap_write_ofText t]
  exact List.mem_flatMap.2 ⟨s, h, hwrite⟩

theorem endsPlain_of_isChain
    (hchain : (.plain t :: spans).IsChain fun s s' => s.isEmphasized || s'.isEmphasized)
    (hne : ∀ s ∈ spans, s.text ≠ []) (hstar : ∀ s ∈ spans, s.isEmphasized → star ∉ s.text) :
    EndsPlain (spans.flatMap write) := by
  cases spans with
  | nil => exact .inl rfl
  | cons s spans =>
    have hs : s ∈ s :: spans := List.mem_cons_self
    cases s with
    | plain u =>
      have hrel := hchain.rel
      simp [isEmphasized] at hrel
    | emphasized u =>
      exact .inr ⟨u, spans.flatMap write, emphasis?_write (hne _ hs) (hstar _ hs rfl) _⟩

@[mk_iff]
structure Unambiguous (spans : List Span) : Prop where
  text_ne_nil : ∀ s ∈ spans, s.text ≠ []
  no_star : ∀ s ∈ spans, s.isEmphasized → star ∉ s.text
  no_delimiter : ∀ s ∈ spans, s.isEmphasized = false → Text.contains s.text delimiter = false
  isChain : spans.IsChain fun s s' => s.isEmphasized || s'.isEmphasized

instance (spans : List Span) : Decidable (Unambiguous spans) :=
  decidable_of_iff' _ (unambiguous_iff spans)

theorem Unambiguous.tail {s : Span} (h : Unambiguous (s :: spans)) : Unambiguous spans where
  text_ne_nil r hr := h.text_ne_nil r (List.mem_cons_of_mem s hr)
  no_star r hr := h.no_star r (List.mem_cons_of_mem s hr)
  no_delimiter r hr := h.no_delimiter r (List.mem_cons_of_mem s hr)
  isChain := h.isChain.tail

theorem Unambiguous.endsPlain (h : Unambiguous (.plain t :: spans)) :
    EndsPlain (spans.flatMap write) :=
  endsPlain_of_isChain h.isChain h.tail.text_ne_nil h.tail.no_star

theorem ofText_flatMap_write (h : Unambiguous spans) : ofText (spans.flatMap write) = spans := by
  induction spans with
  | nil => exact ofText_nil
  | cons s spans ih =>
    rw [List.flatMap_cons]
    cases s with
    | plain t =>
      have hne : t ≠ [] := h.text_ne_nil _ List.mem_cons_self
      have hfree : Text.contains t delimiter = false := h.no_delimiter _ List.mem_cons_self rfl
      rw [ofText_plain hne hfree h.endsPlain, ih h.tail]
    | emphasized t =>
      have hne : t ≠ [] := h.text_ne_nil _ List.mem_cons_self
      have hstar : star ∉ t := h.no_star _ List.mem_cons_self rfl
      rw [ofText_emphasized hne hstar, ih h.tail]

def sampleSpans : List Span :=
  [.plain "2*", .emphasized "a", .emphasized "b\nc", .plain "*", .emphasized " d ", .plain "* e"]

theorem ofText_flatMap_write_sampleSpans :
    Unambiguous sampleSpans ∧
      ofText "2***a****b\nc***** d *** e" = sampleSpans := by
  have h : Unambiguous sampleSpans := by decide
  exact ⟨h, ofText_flatMap_write h⟩

end Span

end LessonText

import LessonText.Proofs.Prose.Emphasis

namespace LessonText.Span

def StartsEmphasized (t : Text) : Prop :=
  ∃ inner rest, t = delimiter ++ inner ++ delimiter ++ rest ∧ inner ≠ [] ∧ star ∉ inner

/-- Spans that a text is made of, which leave no two delimiters in plain text that pair up. -/
structure Formats (t : Text) (spans : List Span) : Prop where
  flatMap_write : spans.flatMap write = t
  text_ne_nil : ∀ s ∈ spans, s.text ≠ []
  isChain : spans.IsChain fun s s' => s.isEmphasized || s'.isEmphasized
  no_star : ∀ s ∈ spans, s.isEmphasized → star ∉ s.text
  unpaired : ∀ before u v after, spans = before ++ .plain (u ++ v) :: after → v ≠ [] →
    ¬StartsEmphasized (v ++ after.flatMap write)

variable {t rest inner : Text} {s : Span} {spans : List Span}

theorem emphasis?_eq_some_iff :
    emphasis? t = some (inner, rest) ↔
      t = delimiter ++ inner ++ delimiter ++ rest ∧ inner ≠ [] ∧ star ∉ inner := by
  refine ⟨emphasis?_eq_some, ?_⟩
  rintro ⟨rfl, hne, hstar⟩
  exact emphasis?_write hne hstar rest

theorem emphasis?_eq_none_iff : emphasis? t = none ↔ ¬StartsEmphasized t := by
  rw [Option.eq_none_iff_forall_ne_some, StartsEmphasized, not_exists]
  simp only [not_exists, Prod.forall, ne_eq, emphasis?_eq_some_iff]

theorem isGap_iff : pattern.IsGap t rest ↔
    (∀ u v, t = u ++ v → v ≠ [] → ¬StartsEmphasized (v ++ rest)) ∧ EndsPlain rest := by
  constructor
  · rintro ⟨hfree, hstop⟩
    refine ⟨fun u v ht hne => ?_, hstop⟩
    rw [← emphasis?_eq_none_iff]
    exact hfree v ⟨u, ht.symm⟩ hne
  · rintro ⟨hfree, hstop⟩
    refine ⟨?_, hstop⟩
    rintro v ⟨u, hu⟩ hne
    exact emphasis?_eq_none_iff.2 (hfree u v hu.symm hne)

namespace Formats

theorem nil : Formats [] [] where
  flatMap_write := rfl
  text_ne_nil := by simp
  isChain := .nil
  no_star := by simp
  unpaired before u v after h := by simp at h

theorem tail (h : Formats t (s :: spans)) : Formats (spans.flatMap write) spans where
  flatMap_write := rfl
  text_ne_nil r hr := h.text_ne_nil r (List.mem_cons_of_mem s hr)
  isChain := h.isChain.tail
  no_star r hr := h.no_star r (List.mem_cons_of_mem s hr)
  unpaired before u v after hs := h.unpaired (s :: before) u v after (congrArg (s :: ·) hs)

theorem isGap (h : Formats rest (.plain t :: spans)) :
    pattern.IsGap t (spans.flatMap write) := by
  refine isGap_iff.2 ⟨?_, endsPlain_of_isChain h.isChain h.tail.text_ne_nil h.tail.no_star⟩
  rintro u v rfl
  exact h.unpaired [] u v spans rfl

theorem ofText_eq (h : Formats t spans) : ofText t = spans := by
  rw [← h.flatMap_write]
  induction spans generalizing t with
  | nil => exact ofText_nil
  | cons s spans ih =>
    rw [List.flatMap_cons]
    have hne : s.text ≠ [] := h.text_ne_nil s List.mem_cons_self
    cases s with
    | plain u => rw [write, ofText_append h.isGap hne, ih h.tail]
    | emphasized u =>
      have hstar : star ∉ u := h.no_star _ List.mem_cons_self rfl
      have hu : u ≠ [] := hne
      rw [ofText_emphasized hu hstar, ih h.tail]

theorem emphasized (h : Formats rest spans) (hne : inner ≠ []) (hstar : star ∉ inner) :
    Formats (delimiter ++ inner ++ delimiter ++ rest) (.emphasized inner :: spans) where
  flatMap_write := by rw [List.flatMap_cons, h.flatMap_write, write]
  text_ne_nil := List.forall_mem_cons.2 ⟨hne, h.text_ne_nil⟩
  isChain := h.isChain.cons fun _ _ => rfl
  no_star := List.forall_mem_cons.2 ⟨fun _ => hstar, h.no_star⟩
  unpaired before u v after hs := by
    rcases List.cons_eq_append_iff.1 hs with ⟨-, hp⟩ | ⟨before', rfl, hs'⟩
    · simp at hp
    · exact h.unpaired before' u v after hs'

theorem plain (h : Formats rest spans) (hne : t ≠ []) (hgap : pattern.IsGap t rest)
    (hhead : ∀ s ∈ spans.head?, s.isEmphasized) : Formats (t ++ rest) (.plain t :: spans) where
  flatMap_write := by rw [List.flatMap_cons, h.flatMap_write, write]
  text_ne_nil := List.forall_mem_cons.2 ⟨hne, h.text_ne_nil⟩
  isChain := h.isChain.cons fun s hs => by simp [hhead s hs]
  no_star := List.forall_mem_cons.2 ⟨fun hp => by simp [isEmphasized] at hp, h.no_star⟩
  unpaired before u v after hs := by
    rcases List.cons_eq_append_iff.1 hs with ⟨-, hp⟩ | ⟨before', rfl, hs'⟩
    · cases hp
      rw [h.flatMap_write]
      exact (isGap_iff.1 hgap).1 u v rfl
    · exact h.unpaired before' u v after hs'

end Formats

theorem formats_append (hgap : pattern.IsGap t rest) (h : Formats rest (ofText rest)) :
    Formats (t ++ rest) (ofText (t ++ rest)) := by
  by_cases hne : t = []
  case pos => simpa [hne] using h
  case neg =>
    rw [ofText_append hgap hne]
    refine h.plain hne hgap fun s hs => ?_
    -- What stops a gap is the end of the text or emphasis, never another plain span.
    rcases hgap.stop with rfl | ⟨inner, r, hm⟩
    · simp at hs
    · obtain ⟨rfl, hinner, hstar⟩ := emphasis?_eq_some hm
      rw [← write, ofText_emphasized hinner hstar] at hs
      cases hs
      rfl

theorem formats_ofText (t : Text) : Formats t (ofText t) := by
  induction t using Pattern.gap_induction (p := pattern) with
  | last gap h =>
    rw [← List.append_nil gap]
    exact formats_append h (by simpa using Formats.nil)
  | found gap rest inner r h hm ih =>
    apply formats_append h
    obtain ⟨rfl, hne, hstar⟩ := emphasis?_eq_some hm
    rw [← write, ofText_emphasized hne hstar]
    exact ih.emphasized hne hstar

/-- The spans of a text are the only ones that format it. -/
theorem ofText_eq_iff_formats (t : Text) (spans : List Span) :
    ofText t = spans ↔ Formats t spans := by
  refine ⟨?_, Formats.ofText_eq⟩
  rintro rfl
  exact formats_ofText t

end LessonText.Span

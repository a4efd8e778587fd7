import LessonText.Proofs.Markup.Writing
import LessonText.Proofs.Text.Splicing

namespace LessonText

namespace Line

variable {l : Text}

def IsMarked (l : Text) : Prop :=
  ∃ k ∈ Kind.all, l.trim.startsWith k.marker

instance (l : Text) : Decidable (IsMarked l) :=
  inferInstanceAs (Decidable (∃ k ∈ Kind.all, l.trim.startsWith k.marker))

theorem not_isMarked_iff : ¬IsMarked l ↔ IsUnmarked l := by
  simp [IsMarked, IsUnmarked]

theorem isMarked_marker_append (k : Kind) (t : Text) : IsMarked (k.marker ++ t) := by
  refine ⟨k, k.mem_all, ?_⟩
  rw [k.trim_marker_append, Text.startsWith, Text.after?_eq_some_iff.2 rfl]
  rfl

theorem exists_marker_of_isMarked (h : IsMarked l) : ∃ m, ofText l = .marker m := by
  obtain ⟨k, hk, hl⟩ := h
  cases hm : Marker.ofText? l.trim with
  | some m => exact ⟨m, by rw [ofText, hm]⟩
  | none =>
    have hfree := Marker.ofText?_eq_none_iff.1 hm k hk
    rw [hfree] at hl
    contradiction

theorem isMarker_ofText_iff : (ofText l).isMarker ↔ IsMarked l := by
  constructor
  · intro h
    by_contra hl
    rw [isMarker_ofText (not_isMarked_iff.1 hl)] at h
    contradiction
  · intro h
    obtain ⟨m, hm⟩ := exists_marker_of_isMarked h
    rw [hm]
    rfl

end Line

namespace Builder

theorem finish_pushAll_closed (b : Builder) (ls : List Line) :
    (b.pushAll ls).finish = b.closed.toList ++ (pushAll ⟨#[], b.current⟩ ls).finish := by
  induction ls generalizing b with
  | nil => simp [finish]
  | cons l ls ih =>
    rw [pushAll_cons, pushAll_cons, ih]
    cases l with
    | marker m =>
      rw [ih (push ⟨#[], b.current⟩ _)]
      simp [push]
    | fence f => rfl
    | content t => rfl

theorem finish_pushAll_marker (b : Builder) (m : Marker) (ls : List Line) :
    (b.pushAll (.marker m :: ls)).finish =
      b.finish ++ (empty.pushAll (.marker m :: ls)).finish := by
  rw [pushAll_cons, pushAll_cons, finish_pushAll_closed]
  simp [push, finish, empty]

theorem pushAll_append (b : Builder) (ls ms : List Line) :
    b.pushAll (ls ++ ms) = (b.pushAll ls).pushAll ms :=
  List.foldl_append

end Builder

namespace Lesson

variable {a b l : Text}

/-- A text whose first line is a marker's is read the same behind any other text, and changes no
block of that one. -/
theorem ofText_append_lineFeed (hl : b.lines.head? = some l) (hmarked : Line.IsMarked l) :
    ofText (a ++ '\n' :: b) = ofText a ++ ofText b := by
  obtain ⟨ls, hb⟩ := List.head?_eq_some_iff.1 hl
  obtain ⟨m, hm⟩ := Line.exists_marker_of_isMarked hmarked
  have hread : b.lines.map Line.ofText = .marker m :: ls.map Line.ofText := by
    rw [hb, List.map_cons, hm]
  rw [ofText, ofText, ofText, Text.lines_append_lineFeed, List.map_append, hread,
    Builder.pushAll_append, Builder.finish_pushAll_marker]

def sampleUnclosed : Text :=
  "lost\n##SECTION##\n##CODE##\n```rust\nlet x = 1;"

def sampleAppended : Text :=
  "  ##CODE## f\nf(x)\n```\n##POINTS##"

theorem ofText_append_lineFeed_sampleUnclosed :
    sampleAppended.lines.head? = some "  ##CODE## f".toList ∧
      Line.IsMarked "  ##CODE## f" ∧
      ofText (sampleUnclosed ++ '\n' :: sampleAppended) =
        [.code "rust" "let x = 1;", .code "javascript" "f(x)"] := by
  have hhead : sampleAppended.lines.head? = some "  ##CODE## f".toList := by decide
  have hmarked : Line.IsMarked "  ##CODE## f" := by decide
  refine ⟨hhead, hmarked, ?_⟩
  rw [ofText_append_lineFeed hhead hmarked]
  decide +kernel

end Lesson

end LessonText

import LessonText.Proofs.Display.Snippets
import LessonText.Proofs.Markup.Opening

namespace LessonText

variable {t : Text}

namespace Text

theorem isBlank_of_subset {s : Text} (h : s ⊆ t) (ht : t.isBlank) : s.isBlank := by
  rw [isBlank, List.all_eq_true] at ht ⊢
  exact fun c hc => ht c (h hc)

end Text

namespace Line

theorem isBlank_eq_false_of_isMarked (h : IsMarked t) : t.isBlank = false := by
  obtain ⟨k, -, hk⟩ := h
  rw [Bool.eq_false_iff]
  intro hb
  rw [Text.trim_eq_nil_iff.2 hb] at hk
  revert hk
  rcases k with ⟨_ | _ | _ | _ | _⟩ | _ | _ <;> decide

end Line

namespace Paragraph

theorem forall_isBlank_piecesFrom (held t : Text) :
    (∀ p ∈ piecesFrom held t, p.isBlank) ↔ held.isBlank ∧ t.isBlank := by
  induction held, t using piecesFrom.induct with
  | case1 held => simp [piecesFrom, Text.isBlank]
  | case2 held t ih =>
    have hfeed : Unicode.isWhiteSpace '\n' := by decide
    rw [piecesFrom, List.forall_mem_cons, ih]
    simp [Text.isBlank, hfeed]
  | case3 held c t hpair ih =>
    rw [piecesFrom, ih]
    · simp [Text.isBlank]
      tauto
    · exact hpair

theorem split_eq_nil_iff : split t = [] ↔ t.isBlank := by
  rw [split, List.map_eq_nil_iff, List.filter_eq_nil_iff, List.forall_mem_map]
  simp only [Bool.not_eq_true', Bool.not_eq_false, List.isEmpty_iff, Text.trim_eq_nil_iff]
  rw [pieces, forall_isBlank_piecesFrom]
  simp [Text.isBlank]

end Paragraph

namespace Lesson

theorem ofText_of_isBlank (h : t.isBlank) : ofText t = [] := by
  rw [← List.length_eq_zero_iff, length_ofText, List.countP_eq_zero]
  intro ls hls
  rw [decide_eq_true_iff]
  intro hopens
  cases ls with
  | nil => exact hopens
  | cons l ls =>
    have hl : l ∈ t.lines := ((List.mem_tails _ _).1 hls).subset List.mem_cons_self
    have hblank := Text.isBlank_of_subset (Text.subset_of_mem_lines hl) h
    rw [Line.isBlank_eq_false_of_isMarked hopens.isMarked] at hblank
    contradiction

end Lesson

namespace View

variable {lx : Lexicon}

def size : View → Nat
  | .structured panels => panels.length
  | .unstructured paragraphs => paragraphs.length

theorem size_ofText_pos (lx : Lexicon) (h : t.isBlank = false) : 0 < (ofText lx t).size := by
  rw [ofText]
  cases hlesson : Lesson.ofText t with
  | nil =>
    rw [size, List.length_pos_iff, ne_eq, Paragraph.split_eq_nil_iff, h]
    decide
  | cons b bs => exact Nat.succ_pos _

/-- A view is empty exactly for blank text. It is made of panels if some marker opens a block, and
then it has a panel for each marker that does. -/
theorem empty_iff_isBlank_and_structured_iff_opensBlock (lx : Lexicon) (t : Text) :
    ((ofText lx t = .structured [] ∨ ofText lx t = .unstructured []) ↔ t.isBlank) ∧
      ((∃ panels, ofText lx t = .structured panels) ↔ ∃ ls ∈ t.lines.tails, OpensBlock ls) ∧
      ∀ panels, ofText lx t = .structured panels →
        panels.length = t.lines.tails.countP (OpensBlock ·) := by
  refine ⟨?_, ?_, ?_⟩
  · rw [ofText_eq_structured_iff, ofText_eq_unstructured_iff, eq_comm (a := []),
      eq_comm (a := []), List.map_eq_nil_iff, Paragraph.split_eq_nil_iff]
    constructor
    · rintro (⟨hne, hnil⟩ | ⟨-, hblank⟩)
      · exact absurd hnil hne
      · exact hblank
    · exact fun hblank => .inr ⟨Lesson.ofText_of_isBlank hblank, hblank⟩
  · simp only [ofText_eq_structured_iff, exists_and_left, exists_eq, and_true]
    rw [ne_eq, ← List.length_eq_zero_iff, Lesson.length_ofText, ← ne_eq, ← Nat.pos_iff_ne_zero,
      List.countP_pos_iff]
    simp
  · intro panels h
    rw [(ofText_eq_structured_iff.1 h).2, List.length_map, Lesson.length_ofText]

def sampleSparse : Text :=
  "lost\n##INTRO##\n```\n##TITLE## Loops\n##CODE##\n\n"

theorem empty_iff_isBlank_and_structured_iff_opensBlock_sampleSparse :
    ∃ panels, ofText .javascript sampleSparse = .structured panels ∧ panels.length = 2 := by
  have hlesson : Lesson.ofText sampleSparse ≠ [] := by decide +kernel
  have hview : ofText .javascript sampleSparse =
      .structured ((Lesson.ofText sampleSparse).map (Panel.ofBlock .javascript)) :=
    ofText_eq_structured_iff.2 ⟨hlesson, rfl⟩
  have hcount : sampleSparse.lines.tails.countP (OpensBlock ·) = 2 := by decide +kernel
  refine ⟨_, hview, ?_⟩
  rw [(empty_iff_isBlank_and_structured_iff_opensBlock .javascript sampleSparse).2.2 _ hview,
    hcount]

end View

end LessonText

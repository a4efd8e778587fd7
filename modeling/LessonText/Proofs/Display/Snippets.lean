import LessonText.Display.View
import LessonText.Proofs.Code.Tiling

namespace LessonText

namespace Panel

theorem snippet?_ofBlock (lx : Lexicon) (b : Block) :
    (ofBlock lx b).snippet? = if b.isCode then some b.text else none := by
  cases b <;> rfl

theorem eq_code_of_ofBlock {lx : Lexicon} {b : Block} {language code : Text} {l : Listing}
    (h : ofBlock lx b = .code language code l) :
    b = .code language code ∧ l = .ofText lx code := by
  cases b with
  | prose role t => contradiction
  | points t => contradiction
  | code language t =>
    injection h with hlanguage ht hl
    rw [← hl, hlanguage, ht]
    exact ⟨rfl, rfl⟩

end Panel

namespace Lesson

theorem snippets_cons (b : Block) (l : Lesson) :
    snippets (b :: l) = if b.isCode then b.text :: snippets l else snippets l := by
  cases h : b.isCode <;> simp [snippets, codeBlocks, h]

theorem filterMap_snippet? (lx : Lexicon) (l : Lesson) :
    (l.map (Panel.ofBlock lx)).filterMap Panel.snippet? = l.snippets := by
  induction l with
  | nil => rfl
  | cons b l ih =>
    have hb := Panel.snippet?_ofBlock lx b
    cases h : b.isCode with
    | true =>
      rw [h, if_pos rfl] at hb
      rw [List.map_cons, List.filterMap_cons_some hb, ih, snippets_cons, h, if_pos rfl]
    | false =>
      rw [h, if_neg Bool.false_ne_true] at hb
      rw [List.map_cons, List.filterMap_cons_none hb, ih, snippets_cons, h,
        if_neg Bool.false_ne_true]

theorem length_snippets (l : Lesson) : l.snippets.length = l.codeBlocks.length :=
  List.length_map _

theorem exists_snippet? {l : Lesson} {n : Nat} (h : 1 ≤ n ∧ n ≤ l.snippets.length) :
    ∃ t, l.snippet? n = some t ∧ l.snippets[n - 1]? = some t := by
  have hget := List.getElem?_eq_getElem (l := l.snippets) (i := n - 1) (by omega)
  refine ⟨_, ?_, hget⟩
  rw [snippet?, if_neg (by omega), hget]

theorem snippet?_eq_none {l : Lesson} {n : Nat} (h : ¬(1 ≤ n ∧ n ≤ l.snippets.length)) :
    l.snippet? n = none := by
  rw [snippet?]
  split
  next => rfl
  next hn => exact List.getElem?_eq_none (by omega)

end Lesson

namespace View

variable {lx : Lexicon} {t : Text}

theorem snippets_ofText (lx : Lexicon) (t : Text) :
    (ofText lx t).snippets = (Lesson.ofText t).snippets := by
  rw [ofText]
  cases h : Lesson.ofText t with
  | nil => rfl
  | cons b bs => exact Lesson.filterMap_snippet? lx (b :: bs)

theorem ofText_eq_structured_iff {panels : List Panel} :
    ofText lx t = .structured panels ↔
      Lesson.ofText t ≠ [] ∧ panels = (Lesson.ofText t).map (Panel.ofBlock lx) := by
  rw [ofText]
  cases h : Lesson.ofText t <;> simp [eq_comm]

theorem ofText_eq_unstructured_iff {paragraphs : List (List Span)} :
    ofText lx t = .unstructured paragraphs ↔
      Lesson.ofText t = [] ∧ paragraphs = Paragraph.split t := by
  rw [ofText]
  cases h : Lesson.ofText t <;> simp [eq_comm]

theorem block_of_mem {panels : List Panel} {language code : Text} {l : Listing}
    (h : ofText lx t = .structured panels) (hp : .code language code l ∈ panels) :
    .code language code ∈ Lesson.ofText t ∧ l = .ofText lx code := by
  rw [(ofText_eq_structured_iff.1 h).2] at hp
  obtain ⟨b, hb, hcode⟩ := List.mem_map.1 hp
  obtain ⟨rfl, hl⟩ := Panel.eq_code_of_ofBlock hcode
  exact ⟨hb, hl⟩

theorem listing_of_mem {panels : List Panel} {language code : Text} {l : Listing}
    (h : ofText lx t = .structured panels) (hp : .code language code l ∈ panels) :
    l = .ofText lx code :=
  (block_of_mem h hp).2

end View

end LessonText

import Mathlib.Data.List.Forall2
import LessonText.Proofs.Markup.LineByLine

/-! Skeletons: what decides which blocks a passage makes, when its texts may hold line feeds and
marks. Without markers in them a passage makes the block that it is meant to make, or none. -/

namespace LessonText

namespace Lesson

def shape (l : Lesson) : List (Kind × Option Text) :=
  l.map fun b => (b.kind, b.language?)

@[simp] theorem length_shape (l : Lesson) : l.shape.length = l.length :=
  List.length_map _

@[simp] theorem shape_append (l m : Lesson) : shape (l ++ m) = l.shape ++ m.shape :=
  List.map_append

theorem kind_eq_of_mem_shape {l : Lesson} {j k : Kind} {w : Option Text}
    (hl : ∀ b ∈ l, b.kind = k) (h : (j, w) ∈ l.shape) : j = k := by
  obtain ⟨b, hb, heq⟩ := List.mem_map.1 h
  rw [← hl b hb]
  exact (congrArg Prod.fst heq).symm

end Lesson

namespace Kind

theorem marker_ne_mark (k : Kind) : k.marker ≠ Fence.mark := by
  have hall : ∀ k ∈ Kind.all, k.marker ≠ Fence.mark := by decide
  exact hall k k.mem_all

def titles (k : Kind) (remark : Text) : Bool :=
  (k.headline? (remark.lines.head (Text.lines_ne_nil _))).isSome

variable {k : Kind} {f : Text}

@[simp] theorem titles_nil : k.titles [] = false := by
  cases h : k.takesHeadline <;> simp [titles, headline?, Text.lines, Text.isBlank]

theorem titles_leads_append (hk : k.takesHeadline) (hf : Line.Leads f) (t : Text) :
    k.titles (f ++ t) := by
  have hlines : Text.lines f = [] ++ [f] := Text.lines_of_not_mem hf.no_lineFeed
  obtain ⟨m, ms, ht⟩ := Text.exists_lines_eq_cons t
  have hhead : (f ++ t).lines.head (Text.lines_ne_nil _) = f ++ m := by
    simp [Text.lines_append hlines ht]
  have hblank : (f ++ m).isBlank = false := by
    rw [Text.isBlank, List.all_append, ← Text.isBlank, hf.not_isBlank, Bool.false_and]
  rw [titles, headline?_isSome_iff, hhead]
  exact ⟨hk, hblank⟩

theorem titles_leads (hk : k.takesHeadline) (hf : Line.Leads f) : k.titles f := by
  have h := titles_leads_append hk hf []
  rwa [List.append_nil] at h

end Kind

namespace Passage

variable {p : Passage}

def textLines (p : Passage) : List Text :=
  p.written.flatMap Text.lines

def below (p : Passage) : List Text :=
  p.remark.lines.tail ++ p.written.tail.flatMap Text.lines

theorem written_eq_cons (p : Passage) :
    p.written = (p.kind.marker ++ p.remark) :: p.written.tail := by
  cases p <;> rfl

theorem textLines_eq_cons (p : Passage) :
    p.textLines = (p.kind.marker ++ p.remark.lines.head (Text.lines_ne_nil _)) :: p.below := by
  have hmarker : Text.lines p.kind.marker = [] ++ [p.kind.marker] :=
    Text.lines_of_not_mem p.kind.lineFeed_not_mem_marker
  have hremark := (List.cons_head_tail (Text.lines_ne_nil p.remark)).symm
  rw [textLines, written_eq_cons, List.flatMap_cons, Text.lines_append hmarker hremark]
  rfl

theorem marks_below (p : Passage) :
    p.below.map Line.marks = p.remark.marks.tail ++ p.written.tail.flatMap Text.marks := by
  rw [below, List.map_append, List.map_flatMap, Text.marks, List.map_tail]
  rfl

/-- What decides which blocks a passage makes: its kind, whether there is text for it on the
marker's line, and the marks that the lines below begin with. -/
structure Skeleton where
  kind : Kind
  titled : Bool
  below : List (List Text)
  deriving DecidableEq, Repr

namespace Skeleton

def hasText (s : Skeleton) : Bool :=
  s.titled || s.below.any fun ms => !ms.contains Fence.mark

theorem hasText_iff {s : Skeleton} : s.hasText ↔ s.titled ∨ ∃ ms ∈ s.below, Fence.mark ∉ ms := by
  simp [hasText]

def shape (s : Skeleton) : List (Kind × Option Text) :=
  if s.hasText then [(s.kind, if s.kind = .code then some Fence.defaultLanguage else none)]
  else []

def IsUnmarked (s : Skeleton) : Prop :=
  ∀ ms ∈ s.below, ∀ k : Kind, k.marker ∉ ms

end Skeleton

def skeleton (p : Passage) : Skeleton where
  kind := p.kind
  titled := p.kind.titles p.remark
  below := p.below.map Line.marks

def ownSegment (p : Passage) : Segment :=
  ⟨⟨p.kind, p.kind.headline? (p.remark.lines.head (Text.lines_ne_nil _))⟩,
    p.below.map Line.ofText⟩

theorem ofLines_textLines (h : ∀ l ∈ p.below, Line.IsUnmarked l) :
    Lesson.ofLines p.textLines = p.ownSegment.block?.toList := by
  rw [textLines_eq_cons, Lesson.ofLines_marker_cons (Line.ofText_marker _ _) h]
  rfl

theorem isUnmarked_of_mem_below (h : p.skeleton.IsUnmarked) :
    ∀ l ∈ p.below, Line.IsUnmarked l := by
  intro l hl
  rw [← Line.not_isMarked_iff, Line.isMarked_iff_mem_marks, not_exists]
  exact h _ (List.mem_map_of_mem hl)

theorem texts_ownSegment_ne_nil_iff (h : ∀ l ∈ p.below, Line.IsUnmarked l) :
    p.ownSegment.texts ≠ [] ↔ p.skeleton.hasText := by
  have hfence : (∃ ms ∈ p.skeleton.below, Fence.mark ∉ ms) ↔ ∃ l ∈ p.below, ¬Line.IsFence l := by
    simp only [skeleton, List.mem_map, exists_exists_and_eq_and, Line.isFence_iff_mem_marks]
  rw [Segment.texts_ne_nil_iff, Skeleton.hasText_iff, hfence, ← Line.exists_content_iff h]
  exact Iff.rfl

theorem language?_ownSegment {w : Text} (hremark : '\n' ∉ p.remark) (hp : w ∈ p.language?)
    (hw : Text.IsUnspaced w) : p.ownSegment.language? = some w := by
  cases p with
  | lines k remark ls => contradiction
  | fenced remark language code after =>
    obtain rfl : language = some w := hp
    have hfeed : '\n' ∉ Fence.mark ++ w := by
      rw [List.mem_append, not_or]
      exact ⟨by decide, fun h => absurd (hw.isWhiteSpace '\n' h) (by decide)⟩
    have hbelow : (fenced remark (some w) code after).below =
        (Fence.mark ++ w) :: (code ++ Fence.mark :: after).flatMap Text.lines := by
      rw [below, Text.lines_of_not_mem hremark]
      change Text.lines (Fence.mark ++ w) ++ _ = _
      rw [Text.lines_of_not_mem hfeed]
      rfl
    rw [Segment.language?, ownSegment, hbelow, List.map_cons, Line.ofText_fence_append hw]
    rfl

def NamesLanguage (p : Passage) : Prop :=
  p.kind = .code → '\n' ∉ p.remark ∧ Fence.defaultLanguage ∈ p.language?

theorem shape_ofLines_textLines (h : p.skeleton.IsUnmarked) (hcode : p.NamesLanguage) :
    (Lesson.ofLines p.textLines).shape = p.skeleton.shape := by
  have hunmarked := isUnmarked_of_mem_below h
  have hkind : p.ownSegment.marker.kind = p.kind := rfl
  have hlanguage : p.ownSegment.block.language? =
      if p.kind = .code then some Fence.defaultLanguage else none := by
    rw [Segment.language?_block, hkind]
    by_cases hk : p.kind = .code
    · obtain ⟨hremark, hp⟩ := hcode hk
      rw [language?_ownSegment hremark hp (by decide)]
      rfl
    · rw [if_neg hk, if_neg hk]
  rw [ofLines_textLines hunmarked, Skeleton.shape]
  by_cases htexts : p.ownSegment.texts = []
  · have hnone : p.ownSegment.block? = none := by simp [Segment.block?, htexts]
    rw [hnone, if_neg fun ht => (texts_ownSegment_ne_nil_iff hunmarked).2 ht htexts]
    rfl
  · have hsome := Segment.block?_eq_some_iff.2 ⟨htexts, rfl⟩
    rw [hsome, if_pos ((texts_ownSegment_ne_nil_iff hunmarked).1 htexts), Option.toList_some,
      Lesson.shape, List.map_singleton, hlanguage, Segment.kind_block, hkind]
    rfl

def Skeleton.Makes (s : Skeleton) (n : ℕ) : Prop :=
  ∀ p : Passage, p.skeleton = s → n ≤ (Lesson.ofLines p.textLines).length

namespace Skeleton

theorem makes_zero (s : Skeleton) : s.Makes 0 :=
  fun _ _ => Nat.zero_le _

theorem makes_one {s : Skeleton} (h : s.titled ∨ [] ∈ s.below) : s.Makes 1 := by
  rintro p rfl
  rw [Nat.one_le_iff_ne_zero, ne_eq, List.length_eq_zero_iff, textLines_eq_cons]
  rcases h with h | h
  · exact Lesson.ofLines_cons_ne_nil (Line.ofText_marker _ _) (.inl h)
  · obtain ⟨l, hl, hmarks⟩ := List.mem_map.1 h
    obtain ⟨as, bs, hbelow⟩ := List.append_of_mem hl
    rw [hbelow, ← List.cons_append]
    exact Lesson.ofLines_ne_nil ⟨_, List.mem_cons_self, Line.isMarked_marker_append _ _⟩ hmarks bs

theorem makes_two {k : Kind} {b : Bool} {bs : List (List Text)}
    (hbs : ∃ ms ∈ bs, ∃ k : Kind, k.marker ∈ ms) (as cs : List (List Text)) :
    Makes ⟨k, b, as ++ [] :: (bs ++ [] :: cs)⟩ 2 := by
  intro p hp
  have hbelow : p.below.map Line.marks = as ++ [] :: (bs ++ [] :: cs) :=
    congrArg Skeleton.below hp
  obtain ⟨ls₁, ls₂, hsplit, -, h₂⟩ := List.map_eq_append_iff.1 hbelow
  obtain ⟨t, ls₃, rfl, ht, h₃⟩ := List.map_eq_cons_iff.1 h₂
  obtain ⟨ls₄, ls₅, rfl, h₄, h₅⟩ := List.map_eq_append_iff.1 h₃
  obtain ⟨u, ls₆, rfl, hu, -⟩ := List.map_eq_cons_iff.1 h₅
  have hmarked : ∃ l ∈ ls₄, Line.IsMarked l := by
    obtain ⟨ms, hms, hk⟩ := hbs
    rw [← h₄] at hms
    obtain ⟨l, hl, rfl⟩ := List.mem_map.1 hms
    exact ⟨l, hl, Line.isMarked_iff_mem_marks.2 hk⟩
  rw [textLines_eq_cons, hsplit, ← List.cons_append]
  exact Lesson.two_le_length_ofLines
    ⟨_, List.mem_cons_self, Line.isMarked_marker_append _ _⟩ ht hmarked hu ls₆

end Skeleton

theorem kind_of_mem_ofLines {k k₀ : Kind} {ms : List Text} {rest : List (List Text)}
    (hp : p.skeleton = ⟨k, false, ms :: rest⟩) (hms : k₀.marker ∈ ms)
    (hrest : ∀ ms ∈ rest, ∀ k : Kind, k.marker ∉ ms) :
    ∀ b ∈ Lesson.ofLines p.textLines, b.kind = k₀ := by
  have hbelow : p.below.map Line.marks = ms :: rest := congrArg Skeleton.below hp
  have htitled : p.kind.titles p.remark = false := congrArg Skeleton.titled hp
  obtain ⟨l, ls, hsplit, rfl, rfl⟩ := List.map_eq_cons_iff.1 hbelow
  have hmarked : Line.IsMarked l := Line.isMarked_iff_mem_marks.2 ⟨k₀, hms⟩
  have hunmarked : ∀ u ∈ ls, Line.IsUnmarked u := by
    intro u hu
    rw [← Line.not_isMarked_iff, Line.isMarked_iff_mem_marks, not_exists]
    exact hrest _ (List.mem_map_of_mem hu)
  obtain ⟨rest, hl⟩ := Text.startsWith_iff.1 (Line.mem_marks_iff.1 hms).2
  have hnone : p.kind.headline? (p.remark.lines.head (Text.lines_ne_nil _)) = none :=
    Option.not_isSome_iff_eq_none.1 (by rw [← Kind.titles, htitled]; decide)
  have hfirst : Lesson.ofLines
      [p.kind.marker ++ p.remark.lines.head (Text.lines_ne_nil _)] = [] := by
    rw [Lesson.ofLines_marker_cons (Line.ofText_marker _ _) (by simp), hnone]
    rfl
  rw [textLines_eq_cons, hsplit, ← List.singleton_append, Lesson.ofLines_append hmarked, hfirst,
    List.nil_append, Lesson.ofLines_marker_cons (Line.ofText_of_trim_eq hl.symm) hunmarked]
  intro b hb
  rw [Option.mem_toList, Segment.block?_eq_some_iff] at hb
  rw [hb.2, Segment.kind_block]

end Passage

namespace Draft

theorem ofText_text {d : Draft} (hd : d ≠ []) :
    Lesson.ofText d.text = d.flatMap fun p => Lesson.ofLines p.textLines := by
  have hne : d.flatMap Passage.written ≠ [] := by
    obtain ⟨p, ps, rfl⟩ := List.exists_cons_of_ne_nil hd
    rw [List.flatMap_cons, p.written_eq_cons]
    exact List.cons_ne_nil _ _
  have hlines : Text.lines d.text = d.flatMap Passage.textLines := by
    rw [text, Text.lines_unlines_eq_flatMap hne, List.flatMap_assoc]
    rfl
  rw [Lesson.ofText_eq_ofLines, hlines, Lesson.ofLines_flatMap]
  intro p _
  exact ⟨_, _, p.textLines_eq_cons, Line.isMarked_marker_append _ _⟩

theorem shape_flatMap {d : Draft} (h : ∀ p ∈ d, p.skeleton.IsUnmarked)
    (hcode : ∀ p ∈ d, p.NamesLanguage) :
    Lesson.shape (d.flatMap fun p => Lesson.ofLines p.textLines) =
      (d.map Passage.skeleton).flatMap Passage.Skeleton.shape := by
  rw [Lesson.shape, List.map_flatMap, List.flatMap_map]
  apply List.flatMap_congr
  intro p hp
  exact Passage.shape_ofLines_textLines (h p hp) (hcode p hp)

theorem foldr_add_le_length {d : Draft} {ns : List ℕ}
    (h : List.Forall₂ Passage.Skeleton.Makes (d.map Passage.skeleton) ns) :
    ns.foldr (· + ·) 0 ≤ (d.flatMap fun p => Lesson.ofLines p.textLines).length := by
  rw [List.forall₂_map_left_iff] at h
  induction h with
  | nil => exact Nat.le_refl 0
  | cons hp _ ih =>
    rw [List.foldr_cons, List.flatMap_cons, List.length_append]
    exact Nat.add_le_add (hp _ rfl) ih

end Draft

end LessonText

import LessonText.Authoring.BuiltIn
import LessonText.Proofs.Markup.Skeleton

/-! The blocks of the built-in lesson. Topic and course are put into it as they are, so that lines
in them that are markers open blocks of their own. What else the two are does not matter, but for
a last block that is all fences. -/

namespace LessonText

namespace BuiltIn

variable {r : Request}

def outline : List (Kind × Option Text) :=
  [(.prose .title, none), (.prose .intro, none), (.prose .heading, none), (.prose .paragraph, none),
    (.points, none), (.prose .heading, none), (.prose .paragraph, none),
    (.code, some Fence.defaultLanguage), (.prose .heading, none), (.points, none),
    (.prose .summary, none)]

/-- The lines of topic and course that some line of the lesson begins with. The first line of the
course always comes behind other text. -/
def inset (r : Request) : List Text :=
  r.topic.text.lines ++ r.course.text.lines.tail

section Skeletons

variable (topic course : List (List Text))

def opening : List Passage.Skeleton :=
  [⟨.prose .title, true, topic.tail ++ [[]]⟩,
    ⟨.prose .intro, false, [] :: (topic.tail ++ (course.tail ++ (topic.tail ++ [[]])))⟩,
    ⟨.prose .heading, true, []⟩]

def middle : List Passage.Skeleton :=
  [⟨.points, false, [] :: (topic.tail ++ [[], [], [], []])⟩,
    ⟨.prose .heading, true, []⟩,
    ⟨.prose .paragraph, false, [] :: (topic.tail ++ [[]])⟩,
    ⟨.code, false, [Fence.mark] :: [] :: (topic.tail ++ [] :: [] :: (topic.tail ++
      [] :: (course.tail ++ [[], [], [], [], [], [], [], [Fence.mark], []])))⟩,
    ⟨.prose .heading, true, []⟩,
    ⟨.points, false, [[], [], [], []]⟩]

def skeletons : List Passage.Skeleton :=
  opening topic course ++ ⟨.prose .paragraph, false, topic ++ [[]]⟩ ::
    (middle topic course ++ [⟨.prose .summary, false, topic ++ course.tail⟩])

end Skeletons

theorem map_skeleton_draft (r : Request) :
    (draft r).map Passage.skeleton = skeletons r.topic.text.marks r.course.text.marks := by
  -- The fixed parts are told apart by evaluation, one at a time.
  simp (disch := (try rw [String.toList_ofList]); decide +kernel) only [draft, List.map_cons,
    List.map_nil, Passage.skeleton, Passage.kind, Passage.marks_below, Passage.remark,
    Passage.written, List.tail_cons, List.flatMap_cons, List.flatMap_nil, List.append_assoc,
    String.toList_empty, Text.marks_nil, Text.marks_leads_append, Text.marks_leads,
    Text.marks_append_divides_append, Text.marks_append_divides, Text.tail_marks_append,
    Text.marks_mark, List.cons_append, List.nil_append, List.append_nil, Kind.titles_nil,
    Kind.titles_leads_append, Kind.titles_leads, skeletons, opening, middle]

theorem ofText_lesson (r : Request) :
    Lesson.ofText (lesson r) = (draft r).flatMap fun p => Lesson.ofLines p.textLines := by
  rw [lesson, Draft.ofText_text]
  exact List.cons_ne_nil _ _

theorem namesLanguage_draft : ∀ p ∈ draft r, p.NamesLanguage := by
  simp only [draft, List.forall_mem_cons, Passage.NamesLanguage, Passage.kind, Passage.remark,
    Passage.language?, String.toList_empty, List.not_mem_nil, Option.mem_def, reduceCtorEq,
    false_imp_iff, forall_const, implies_true, not_false_eq_true, and_true, true_and]

section Unmarked

variable {topic course : List (List Text)}

variable (ht : ∀ ms ∈ topic.tail, ∀ k : Kind, k.marker ∉ ms)
  (hc : ∀ ms ∈ course.tail, ∀ k : Kind, k.marker ∉ ms)

include ht hc in
theorem isUnmarked_opening : ∀ s ∈ opening topic course, s.IsUnmarked := by
  simp +contextual [opening, Passage.Skeleton.IsUnmarked, or_imp, ht, hc]

include ht hc in
theorem isUnmarked_middle : ∀ s ∈ middle topic course, s.IsUnmarked := by
  simp +contextual [middle, Passage.Skeleton.IsUnmarked, or_imp, Kind.marker_ne_mark, ht, hc]

theorem shape_opening : (opening topic course).flatMap Passage.Skeleton.shape = outline.take 3 := by
  simp [opening, Passage.Skeleton.shape, Passage.Skeleton.hasText, outline]

theorem shape_middle :
    (middle topic course).flatMap Passage.Skeleton.shape = (outline.drop 4).dropLast := by
  simp [middle, Passage.Skeleton.shape, Passage.Skeleton.hasText, outline]

theorem makes_skeletons (h : ∃ ms ∈ topic.tail ++ course.tail, ∃ k : Kind, k.marker ∈ ms) :
    List.Forall₂ Passage.Skeleton.Makes (skeletons topic course)
      [1, 2, 1, 1, 1, 1, 1, 2, 1, 1, 0] := by
  have hintro : ∃ ms ∈ topic.tail ++ (course.tail ++ topic.tail), ∃ k : Kind, k.marker ∈ ms := by
    obtain ⟨ms, hms, hk⟩ := h
    refine ⟨ms, ?_, hk⟩
    rw [← List.append_assoc]
    exact List.mem_append_left _ hms
  have hcode : ∃ ms ∈ topic.tail ++ [] :: [] :: (topic.tail ++ [] :: course.tail),
      ∃ k : Kind, k.marker ∈ ms := by
    obtain ⟨ms, hms, hk⟩ := h
    refine ⟨ms, ?_, hk⟩
    rcases List.mem_append.1 hms with hms | hms <;> simp [hms]
  have hmany := Passage.Skeleton.makes_two (k := .prose .intro) (b := false) hintro [] []
  have hcodes := Passage.Skeleton.makes_two (k := .code) (b := false) hcode [[Fence.mark]]
    [[], [], [], [], [], [], [Fence.mark], []]
  simp only [List.append_assoc, List.cons_append, List.nil_append] at hmany hcodes
  refine .cons (Passage.Skeleton.makes_one (by simp)) (.cons hmany ?_)
  iterate 5 refine .cons (Passage.Skeleton.makes_one (by simp)) ?_
  refine .cons hcodes ?_
  iterate 2 refine .cons (Passage.Skeleton.makes_one (by simp)) ?_
  exact .cons (Passage.Skeleton.makes_zero _) .nil

end Unmarked

theorem forall_marks_iff {ls : List Text} :
    (∀ ms ∈ ls.map Line.marks, ∀ k : Kind, k.marker ∉ ms) ↔ ∀ l ∈ ls, Line.IsUnmarked l := by
  simp only [List.forall_mem_map, ← Line.not_isMarked_iff, Line.isMarked_iff_mem_marks, not_exists]

theorem map_marks_inset (r : Request) :
    (inset r).map Line.marks = r.topic.text.marks ++ r.course.text.marks.tail := by
  rw [inset, List.map_append, List.map_tail]
  rfl

theorem exists_draft_eq (r : Request) : ∃ d₁ p d₂ q, draft r = d₁ ++ p :: (d₂ ++ [q]) ∧
    d₁.map Passage.skeleton = opening r.topic.text.marks r.course.text.marks ∧
    p.skeleton = ⟨.prose .paragraph, false, r.topic.text.marks ++ [[]]⟩ ∧
    d₂.map Passage.skeleton = middle r.topic.text.marks r.course.text.marks ∧
    q.skeleton = ⟨.prose .summary, false, r.topic.text.marks ++ r.course.text.marks.tail⟩ := by
  obtain ⟨d₁, ps, hd, h₁, hps⟩ := List.map_eq_append_iff.1 (map_skeleton_draft r)
  obtain ⟨p, qs, rfl, hp, hqs⟩ := List.map_eq_cons_iff.1 hps
  obtain ⟨d₂, qs, rfl, h₂, hqs⟩ := List.map_eq_append_iff.1 hqs
  obtain ⟨q, rfl, hq⟩ := List.map_eq_singleton_iff.1 hqs
  exact ⟨d₁, p, d₂, q, hd, h₁, hp, h₂, hq⟩

section Lines

variable (ht : ∀ ms ∈ r.topic.text.marks.tail, ∀ k : Kind, k.marker ∉ ms)
  (hc : ∀ ms ∈ r.course.text.marks.tail, ∀ k : Kind, k.marker ∉ ms)
include ht hc

theorem shape_of_tails_isUnmarked : ∃ p q : Passage,
    p.skeleton = ⟨.prose .paragraph, false, r.topic.text.marks ++ [[]]⟩ ∧
    q.skeleton = ⟨.prose .summary, false, r.topic.text.marks ++ r.course.text.marks.tail⟩ ∧
    p.NamesLanguage ∧ q.NamesLanguage ∧
    (Lesson.ofText (lesson r)).shape =
      outline.take 3 ++ ((Lesson.ofLines p.textLines).shape ++
        ((outline.drop 4).dropLast ++ (Lesson.ofLines q.textLines).shape)) := by
  obtain ⟨d₁, p, d₂, q, hd, h₁, hp, h₂, hq⟩ := exists_draft_eq r
  have hnames : ∀ p ∈ draft r, p.NamesLanguage := namesLanguage_draft
  rw [hd, List.forall_mem_append, List.forall_mem_cons, List.forall_mem_append,
    List.forall_mem_singleton] at hnames
  obtain ⟨hnames₁, hnamesp, hnames₂, hnamesq⟩ := hnames
  have hopening : Lesson.shape (d₁.flatMap fun p => Lesson.ofLines p.textLines) =
      outline.take 3 := by
    rw [Draft.shape_flatMap _ hnames₁, h₁, shape_opening]
    exact fun p hp => isUnmarked_opening ht hc _ (h₁ ▸ List.mem_map_of_mem hp)
  have hmiddle : Lesson.shape (d₂.flatMap fun p => Lesson.ofLines p.textLines) =
      (outline.drop 4).dropLast := by
    rw [Draft.shape_flatMap _ hnames₂, h₂, shape_middle]
    exact fun p hp => isUnmarked_middle ht hc _ (h₂ ▸ List.mem_map_of_mem hp)
  refine ⟨p, q, hp, hq, hnamesp, hnamesq, ?_⟩
  rw [ofText_lesson, hd, List.flatMap_append, List.flatMap_cons, List.flatMap_append,
    List.flatMap_singleton, Lesson.shape_append, Lesson.shape_append, Lesson.shape_append, hopening,
    hmiddle]

theorem shape_ne_outline_of_head {k : Kind} {ms : List Text} {mss : List (List Text)}
    (htopic : r.topic.text.marks = ms :: mss) (hk : k.marker ∈ ms) :
    (Lesson.ofText (lesson r)).shape ≠ outline := by
  obtain ⟨p, q, hp, hq, -, -, hshape⟩ := shape_of_tails_isUnmarked ht hc
  rw [htopic, List.tail_cons] at ht
  rw [htopic, List.cons_append] at hp hq
  have hpkind : ∀ b ∈ Lesson.ofLines p.textLines, b.kind = k :=
    Passage.kind_of_mem_ofLines hp hk (by simpa [or_imp, forall_and] using ht)
  have hqkind : ∀ b ∈ Lesson.ofLines q.textLines, b.kind = k :=
    Passage.kind_of_mem_ofLines hq hk (List.forall_mem_append.2 ⟨ht, hc⟩)
  have hpne : 0 < (Lesson.ofLines p.textLines).shape.length := by
    rw [Lesson.length_shape]
    exact Passage.Skeleton.makes_one (by simp) p hp
  intro houtline
  rw [houtline] at hshape
  -- What `p` makes stands where the paragraph should be, and only `p` and `q` can make the summary.
  have hparagraph : .prose .paragraph = k := by
    obtain ⟨b, bs, hb⟩ := List.exists_cons_of_length_pos hpne
    rw [hb] at hshape
    have hfirst : some (Kind.prose .paragraph, none) = some b := congrArg (·[3]?) hshape
    refine Lesson.kind_eq_of_mem_shape (w := none) hpkind ?_
    rw [hb, Option.some.inj hfirst]
    exact List.mem_cons_self
  have hsummary : .prose .summary = k := by
    have hmem : (.prose .summary, none) ∈ outline := by decide
    rw [hshape, List.mem_append, List.mem_append, List.mem_append] at hmem
    rcases hmem with hmem | hmem | hmem | hmem
    · exact absurd hmem (by decide)
    · exact Lesson.kind_eq_of_mem_shape hpkind hmem
    · exact absurd hmem (by decide)
    · exact Lesson.kind_eq_of_mem_shape hqkind hmem
  exact absurd (hparagraph.trans hsummary.symm) (by decide)

end Lines

theorem shape_of_isUnmarked (h : ∀ l ∈ inset r, Line.IsUnmarked l) :
    (Lesson.ofText (lesson r)).shape =
      outline.dropLast ++
        if ∃ l ∈ inset r, ¬Line.IsFence l then [(.prose .summary, none)] else [] := by
  rw [← forall_marks_iff, map_marks_inset] at h
  have htopic := (List.forall_mem_append.1 h).1
  obtain ⟨p, q, hp, hq, hpnames, hqnames, hshape⟩ := shape_of_tails_isUnmarked
    (fun ms hms => htopic ms (List.mem_of_mem_tail hms)) (List.forall_mem_append.1 h).2
  have hpunmarked : p.skeleton.IsUnmarked := by
    rw [hp]
    exact List.forall_mem_append.2 ⟨htopic, by simp⟩
  have hqunmarked : q.skeleton.IsUnmarked := by
    rw [hq]
    exact h
  have hfence : (∃ ms ∈ r.topic.text.marks ++ r.course.text.marks.tail, Fence.mark ∉ ms) ↔
      ∃ l ∈ inset r, ¬Line.IsFence l := by
    simp only [← map_marks_inset, List.mem_map, exists_exists_and_eq_and,
      Line.isFence_iff_mem_marks]
  have hparagraph : p.skeleton.shape = [(.prose .paragraph, none)] := by
    rw [hp, Passage.Skeleton.shape, if_pos (Passage.Skeleton.hasText_iff.2 (by simp))]
    rfl
  have hsummary : q.skeleton.shape =
      if ∃ l ∈ inset r, ¬Line.IsFence l then [(.prose .summary, none)] else [] := by
    rw [hq, Passage.Skeleton.shape]
    exact if_congr (by rw [Passage.Skeleton.hasText_iff, hfence]; simp) rfl rfl
  rw [hshape, Passage.shape_ofLines_textLines hpunmarked hpnames,
    Passage.shape_ofLines_textLines hqunmarked hqnames, hparagraph, hsummary]
  rfl

theorem length_of_tails_isMarked
    (h : ∃ ms ∈ r.topic.text.marks.tail ++ r.course.text.marks.tail, ∃ k : Kind, k.marker ∈ ms) :
    12 ≤ (Lesson.ofText (lesson r)).length := by
  have hmakes := makes_skeletons h
  rw [← map_skeleton_draft] at hmakes
  rw [ofText_lesson]
  exact Draft.foldr_add_le_length hmakes

theorem ofText_lesson_ne_nil (r : Request) : Lesson.ofText (lesson r) ≠ [] := by
  intro hnil
  by_cases h : ∃ ms ∈ r.topic.text.marks.tail ++ r.course.text.marks.tail, ∃ k : Kind, k.marker ∈ ms
  · have hlength := length_of_tails_isMarked h
    rw [hnil] at hlength
    exact absurd hlength (by decide)
  · push Not at h
    rw [List.forall_mem_append] at h
    obtain ⟨p, q, -, -, -, -, hshape⟩ := shape_of_tails_isUnmarked h.1 h.2
    rw [hnil] at hshape
    exact absurd hshape.symm (List.cons_ne_nil _ _)

/-- The lesson has the blocks that it is meant to have exactly if no line of topic or course that
comes to stand at a line start is a marker, and not all of these lines are fences. -/
theorem shape_lesson_eq_outline_iff (r : Request) :
    (Lesson.ofText (lesson r)).shape = outline ↔
      (∀ l ∈ inset r, Line.IsUnmarked l) ∧ ∃ l ∈ inset r, ¬Line.IsFence l := by
  constructor
  · intro h
    have htails : ∀ ms ∈ r.topic.text.marks.tail ++ r.course.text.marks.tail,
        ∀ k : Kind, k.marker ∉ ms := by
      by_contra hne
      push Not at hne
      have hlength := length_of_tails_isMarked hne
      rw [← Lesson.length_shape, h] at hlength
      exact absurd hlength (by decide)
    rw [List.forall_mem_append] at htails
    have hunmarked : ∀ l ∈ inset r, Line.IsUnmarked l := by
      rw [← forall_marks_iff, map_marks_inset, List.forall_mem_append]
      refine ⟨?_, htails.2⟩
      obtain ⟨ms, mss, htopic⟩ := List.exists_cons_of_ne_nil (Text.marks_ne_nil r.topic.text)
      have hmss := htails.1
      rw [htopic, List.tail_cons] at hmss
      rw [htopic, List.forall_mem_cons]
      exact ⟨fun k hk => shape_ne_outline_of_head htails.1 htails.2 htopic hk h, hmss⟩
    refine ⟨hunmarked, ?_⟩
    by_contra hno
    rw [shape_of_isUnmarked hunmarked, if_neg hno] at h
    exact absurd h (by decide)
  · rintro ⟨hunmarked, hsome⟩
    rw [shape_of_isUnmarked hunmarked, if_pos hsome]
    rfl

theorem shape_lesson_codeTopic : ∃ r, Request.ofTexts "##CODE##" "Basics" = .ok r ∧
    (Lesson.ofText (lesson r)).shape ≠ outline := by
  let r : Request :=
    ⟨⟨"##CODE##", by decide, by decide⟩, ⟨"Basics", by decide, by decide⟩⟩
  have htopic : r.topic.text.marks = [[Kind.code.marker]] := by decide
  have hcourse : r.course.text.marks = [[]] := by decide
  refine ⟨r, rfl, shape_ne_outline_of_head (k := .code) ?_ ?_ htopic List.mem_cons_self⟩
  · rw [htopic]
    exact List.forall_mem_nil _
  · rw [hcourse]
    exact List.forall_mem_nil _

end BuiltIn

end LessonText

import LessonText.Proofs.Authoring.Outline
import LessonText.Proofs.Display.Items
import LessonText.Proofs.Text.Flush

namespace LessonText

namespace Passage

variable {p : Passage} {k : Kind} {first last remark t : Text} {ls rest : List Text}

def Means (p : Passage) (b : Block) : Prop :=
  p.texts ≠ [] ∧ p.block = b

theorem means_unlines (h : p.texts = ls ∨ p.texts = ls ++ [[]]) (hfirst : ls.head? = some first)
    (hlast : ls.getLast? = some last) (hl : first.IsFlushLeft) (hr : last.IsFlushRight) :
    p.Means (Block.ofText p.kind p.language? (Text.unlines ls)) := by
  have hne : ls ≠ [] := by
    rintro rfl
    contradiction
  have hls : (Text.unlines ls).trim = Text.unlines ls :=
    Text.trim_of_isFlush (Text.isFlushLeft_unlines hfirst hl) (Text.isFlushRight_unlines hlast hr)
  have htrim : (Text.unlines p.texts).trim = Text.unlines ls := by
    rcases h with h | h
    · rw [h, hls]
    · rw [h, Text.trim_unlines_snoc_nil, hls]
  constructor
  · rcases h with h | h <;> simp [h, hne]
  · rw [block, htrim]
    cases p.kind <;> rfl

theorem means_line (h : p.texts = [t] ∨ p.texts = [t, []]) (hl : t.IsFlushLeft)
    (hr : t.IsFlushRight) : p.Means (Block.ofText p.kind p.language? t) := by
  have hmeans := means_unlines h rfl rfl hl hr
  rwa [Text.unlines, List.intercalate_singleton] at hmeans

theorem means_headline (hk : k.takesHeadline) (hrest : rest = [] ∨ rest = [[]])
    (hremark : remark = ' ' :: t) (hl : t.IsFlushLeft) (hr : t.IsFlushRight) :
    (lines k remark rest).Means (Block.ofText k none t) := by
  have htrim : remark.trim = t := by
    rw [hremark, Text.trim_cons_of_isWhiteSpace (by decide), Text.trim_of_isFlush hl hr]
  have hblank : remark.isBlank = false := by
    rw [Bool.eq_false_iff, ne_eq, ← Text.trim_eq_nil_iff, htrim]
    exact (Text.isFlushLeft_iff.1 hl).1
  have htexts : (lines k remark rest).texts = t :: rest := by
    have hheadline : k.headline? remark = some t :=
      Kind.headline?_eq_some_iff.2 ⟨hk, hblank, htrim⟩
    simp only [texts, kind, Passage.remark, content, hheadline, Option.toList_some,
      List.singleton_append]
  refine means_line ?_ hl hr
  rcases hrest with rfl | rfl
  · exact .inl htexts
  · exact .inr htexts

end Passage

theorem Draft.ofText_text_of_wellFormed {d : Draft} (h : ∀ p ∈ d, p.WellFormed) :
    Lesson.ofText d.text = d.map Passage.block := by
  have hfeed : ∀ l ∈ d.flatMap Passage.written, '\n' ∉ l := by
    rw [List.forall_mem_flatMap]
    exact fun p hp => Passage.lineFeed_not_mem_written (h p hp)
  have hbody : ∀ s ∈ d.map Passage.segment, ∀ l ∈ s.body, l.isMarker = false := by
    rw [List.forall_mem_map]
    exact fun p _ => Passage.isMarker_of_mem_body
  rw [Draft.text, Lesson.ofText_unlines hfeed, Lesson.map_ofText_flatMap_written h,
    Segment.cut_flatMap_lines hbody, Lesson.filterMap_block?_map_segment h]

namespace BuiltIn

variable {r : Request}

def fundamentals (r : Request) : List Text :=
  ["- **Foundation**: " ++ r.topic.text ++ " is the base for more advanced concepts".toList,
    "- **Modularity**: Helps organise code into **reusable components**",
    "- **Efficiency**: Improves **performance** and maintainability",
    "- **Best Practices**: Follows industry **standard patterns**"]

def takeaways : List Text :=
  ["- Always start with the **basics** before moving to advanced topics",
    "- Practice regularly to reinforce your **understanding**",
    "- Apply concepts in **real projects** for better retention"]

def blocks (r : Request) : Lesson :=
  let topic := r.topic.text
  let course := r.course.text
  [.prose .title ("Understanding " ++ topic ++ ": A Complete Guide".toList),
    .prose .intro
      ("Welcome to this guide on " ++ topic ++ "! It is a crucial concept in ".toList ++ course ++
        " and a foundation for building robust applications. Understanding ".toList ++ topic ++
        " will help you write cleaner, more efficient code.".toList),
    .prose .heading "Core Fundamentals",
    .prose .paragraph
      (topic ++ " is one of the **fundamental building blocks** of modern development. ".toList ++
        "It provides the structure and logic needed to create **scalable solutions**. ".toList ++
        "Once you master it, more complex challenges become approachable.".toList),
    .points (Text.unlines (fundamentals r)),
    .prose .heading "Practical Example",
    .prose .paragraph
      ("Here is how " ++ topic ++ " works in practice. The example below shows the ".toList ++
        "**basic implementation** pattern.".toList),
    .code "javascript" (Text.unlines
      ["// Basic example of " ++ topic,
        "const example = \x7b",
        "  name: \"" ++ topic ++ "\",".toList,
        "  course: \"" ++ course ++ "\",".toList,
        "  learn: function() \x7b",
        "    console.log(\"Learning \" + this.name);",
        "    return true;",
        "  \x7d",
        "\x7d;",
        "",
        "example.learn();"]),
    .prose .heading "Key Takeaways",
    .points (Text.unlines takeaways),
    .prose .summary
      (topic ++ " is essential for success in ".toList ++ course ++
        ". Focus on the core principles, practise with real examples, and build your ".toList ++
        "expertise step by step.".toList)]

theorem forall₂_means_blocks (r : Request) :
    List.Forall₂ Passage.Means (draft r) (blocks r) := by
  have htopic (t u v : Text) : (r.topic.text ++ t ++ u ++ v).IsFlushLeft :=
    ((r.topic.isFlushLeft.append t).append u).append v
  refine .cons ?title <| .cons ?intro <| .cons ?core <| .cons ?paragraph <| .cons ?fundamentals <|
    .cons ?practice <| .cons ?explanation <| .cons ?code <| .cons ?key <| .cons ?takeaways <|
    .cons ?summary .nil
  case title => exact Passage.means_headline rfl (.inr rfl) rfl rfl (.append (by decide +kernel) _)
  case core | practice | key =>
    exact Passage.means_headline rfl (.inl rfl) rfl (by decide +kernel) (by decide +kernel)
  case intro | explanation =>
    exact Passage.means_line (.inr rfl) rfl (.append (by decide +kernel) _)
  case paragraph =>
    exact Passage.means_line (.inr rfl) (htopic _ _ _) (.append (by decide +kernel) _)
  case summary =>
    exact Passage.means_line (.inl rfl) ((htopic _ _ _).append _) (.append (by decide +kernel) _)
  case fundamentals | code | takeaways => exact Passage.means_unlines (.inr rfl) rfl rfl rfl rfl

theorem marks_content (ht : Line.marks r.topic.text = []) :
    ∀ p ∈ draft r, ∀ l ∈ p.content, Line.marks l = [] := by
  have hnil : Line.marks [] = [] := rfl
  -- The fixed parts are told apart by evaluation, one at a time.
  simp (disch := (try rw [String.toList_ofList]); decide +kernel) only [draft, List.forall_mem_cons,
    Passage.content, List.append_assoc, Line.Leads.marks_append, Line.Divides.marks_append, ht,
    List.not_mem_nil, false_imp_iff, implies_true, and_true, Line.Leads.marks_eq_nil,
    String.toList_empty, List.cons_append, List.nil_append, hnil]

theorem lineFeed_not_mem_content (ht : '\n' ∉ r.topic.text) (hc : '\n' ∉ r.course.text) :
    ∀ p ∈ draft r, '\n' ∉ p.remark ∧ ∀ l ∈ p.content, '\n' ∉ l := by
  have hfixed (f : Text) (hf : List.elem '\n' f = false) : '\n' ∉ f := by
    simpa using hf
  simp (disch := (try rw [String.toList_ofList]); decide +kernel) only [draft, List.forall_mem_cons,
    Passage.content, Passage.remark, List.mem_append, not_or, ht, hc, hfixed,
    List.not_mem_nil, false_imp_iff, implies_true, and_true, String.toList_empty,
    List.cons_append, List.nil_append, not_false_eq_true]

theorem wellFormed_draft (ht : Line.IsContent r.topic.text) (hc : '\n' ∉ r.course.text) :
    ∀ p ∈ draft r, p.WellFormed := by
  have hmarks := marks_content (Line.isContent_iff_marks.1 ht).2
  have hfeed := lineFeed_not_mem_content ht.no_lineFeed hc
  have htexts : ∀ p ∈ draft r, p.texts ≠ [] :=
    ((List.forall₂_and_left _ _).1 (forall₂_means_blocks r)).1
  have hlanguage : ∀ p ∈ draft r, ∀ w ∈ p.language?, Text.IsUnspaced w := by
    simp only [draft, List.forall_mem_cons, Passage.language?]
    decide
  intro p hp
  exact ⟨(hfeed p hp).1, hlanguage p hp,
    fun l hl => Line.isContent_iff_marks.2 ⟨(hfeed p hp).2 l hl, hmarks p hp l hl⟩, htexts p hp⟩

theorem map_length_items?_blocks (ht : '\n' ∉ r.topic.text) (hc : '\n' ∉ r.course.text) :
    ((blocks r).filterMap Block.items?).map List.length = [4, 3] := by
  have hitems : (blocks r).filterMap Block.items? =
      [Points.items (Text.unlines (fundamentals r)), Points.items (Text.unlines takeaways)] := rfl
  have hpassage₁ : .lines .points [] (fundamentals r ++ [[]]) ∈ draft r :=
    List.mem_of_getElem? (i := 4) rfl
  have hpassage₂ : .lines .points [] (takeaways ++ [[]]) ∈ draft r :=
    List.mem_of_getElem? (i := 9) rfl
  have hfeed := lineFeed_not_mem_content ht hc
  have hfundamentals : (Points.items (Text.unlines (fundamentals r))).length = 4 := by
    refine Points.length_items_unlines (List.cons_ne_nil _ _)
      (fun l hl => (hfeed _ hpassage₁).2 l (List.mem_append_left _ hl)) ?_
    simp only [fundamentals, List.forall_mem_cons]
    refine ⟨?_, ?_, ?_, ?_, List.forall_mem_nil _⟩ <;> rw [String.toList_ofList] <;> rfl
  have htakeaways : (Points.items (Text.unlines takeaways)).length = 3 := by
    refine Points.length_items_unlines (List.cons_ne_nil _ _)
      (fun l hl => (hfeed _ hpassage₂).2 l (List.mem_append_left _ hl)) ?_
    simp only [takeaways, List.forall_mem_cons]
    refine ⟨?_, ?_, ?_, List.forall_mem_nil _⟩ <;> rw [String.toList_ofList] <;> rfl
  rw [hitems, List.map_cons, List.map_singleton, hfundamentals, htakeaways]

/-- A topic and a course of one line each stand in the lesson as they are, and nothing is taken for
what it is not: the blocks are those that are meant, their texts those that are meant, and the lists
have four points and three. -/
theorem ofText_lesson_eq_blocks (ht : Line.IsContent r.topic.text) (hc : '\n' ∉ r.course.text) :
    Lesson.ofText (lesson r) = blocks r ∧
      ((Lesson.ofText (lesson r)).filterMap Block.items?).map List.length = [4, 3] := by
  have hblocks : Lesson.ofText (lesson r) = blocks r := by
    have hmeans := ((List.forall₂_and_left _ _).1 (forall₂_means_blocks r)).2
    rw [← List.forall₂_map_left_iff, List.forall₂_eq_eq_eq] at hmeans
    rw [lesson, Draft.ofText_text_of_wellFormed (wellFormed_draft ht hc), hmeans]
  rw [hblocks]
  exact ⟨rfl, map_length_items?_blocks ht.no_lineFeed hc⟩

def markedUp : Request where
  topic := ⟨"- \"C#\": **`async`** ```", by decide, by decide⟩
  course := ⟨"##CODE## - **``` ##", by decide, by decide⟩

theorem ofText_lesson_markedUp :
    Line.IsContent markedUp.topic.text ∧ '\n' ∉ markedUp.course.text ∧
      Lesson.ofText (lesson markedUp) = blocks markedUp ∧
      ((Lesson.ofText (lesson markedUp)).filterMap Block.items?).map List.length = [4, 3] := by
  have ht : Line.IsContent markedUp.topic.text := by decide
  have hc : '\n' ∉ markedUp.course.text := by decide
  exact ⟨ht, hc, ofText_lesson_eq_blocks ht hc⟩

end BuiltIn

end LessonText

import LessonText.Markup.Lesson

namespace LessonText

namespace Line

def isMarker : Line → Bool
  | .marker _ => true
  | _ => false

def content? : Line → Option Text
  | .content t => some t
  | _ => none

def language? : Line → Option Text
  | .fence f => f.language
  | _ => none

@[simp] theorem isMarker_marker (m : Marker) : isMarker (.marker m) = true := rfl

@[simp] theorem isMarker_fence (f : Fence) : isMarker (.fence f) = false := rfl

@[simp] theorem isMarker_content (t : Text) : isMarker (.content t) = false := rfl

end Line

structure Segment where
  marker : Marker
  body : List Line
  deriving DecidableEq, Repr

namespace Segment

def cut : List Line → List Segment
  | [] => []
  | .marker m :: ls => ⟨m, ls.takeWhile (!·.isMarker)⟩ :: cut ls
  | .fence _ :: ls | .content _ :: ls => cut ls

def lines (s : Segment) : List Line :=
  .marker s.marker :: s.body

def texts (s : Segment) : List Text :=
  s.marker.headline.toList ++ s.body.filterMap Line.content?

def language? (s : Segment) : Option Text :=
  s.body.findSome? Line.language?

def block (s : Segment) : Block :=
  let text := (Text.unlines s.texts).trim
  match s.marker.kind with
  | .prose role => .prose role text
  | .points => .points text
  | .code => .code (s.language?.getD Fence.defaultLanguage) text

def block? (s : Segment) : Option Block :=
  if s.texts.isEmpty then none else some s.block

@[simp] theorem kind_block (s : Segment) : s.block.kind = s.marker.kind := by
  rw [block]
  cases s.marker.kind <;> rfl

@[simp] theorem text_block (s : Segment) : s.block.text = (Text.unlines s.texts).trim := by
  rw [block]
  cases s.marker.kind <;> rfl

theorem language?_block (s : Segment) :
    s.block.language? =
      if s.marker.kind = .code then some (s.language?.getD Fence.defaultLanguage) else none := by
  rw [block]
  cases s.marker.kind <;> rfl

theorem block?_eq_some_iff {s : Segment} {b : Block} :
    s.block? = some b ↔ s.texts ≠ [] ∧ b = s.block := by
  rw [block?]
  by_cases h : s.texts = []
  · simp [h]
  · simp [h, eq_comm (a := b)]

theorem filterMap_block?_cut (m : Marker) (ls : List Line) :
    (cut (.marker m :: ls)).filterMap block? =
      (block? ⟨m, ls.takeWhile (!·.isMarker)⟩).toList ++ (cut ls).filterMap block? := by
  rw [cut]
  cases h : block? ⟨m, ls.takeWhile (!·.isMarker)⟩ <;> simp [h]

theorem takeWhile_append_cut (ls : List Line) :
    ls.takeWhile (!·.isMarker) ++ (cut ls).flatMap lines = ls := by
  induction ls with
  | nil => rfl
  | cons l ls ih => cases l <;> simp_all [cut, lines]

theorem isMarker_of_mem_body {ls : List Line} {s : Segment} (hs : s ∈ cut ls) :
    ∀ l ∈ s.body, l.isMarker = false := by
  induction ls with
  | nil => simp [cut] at hs
  | cons l ls ih =>
    cases l with
    | marker m =>
      rcases List.mem_cons.1 hs with rfl | hs
      · intro l hl
        simpa using List.all_eq_true.1 List.all_takeWhile l hl
      · exact ih hs
    | fence f => exact ih hs
    | content t => exact ih hs

theorem cut_append {ls : List Line} (h : ∀ l ∈ ls, l.isMarker = false) (ms : List Line) :
    cut (ls ++ ms) = cut ms := by
  induction ls with
  | nil => rfl
  | cons l ls ih =>
    have hl := h l List.mem_cons_self
    have ht := ih fun k hk => h k (List.mem_cons_of_mem l hk)
    cases l with
    | marker m => contradiction
    | fence f => exact ht
    | content t => exact ht

theorem takeWhile_flatMap_lines (ss : List Segment) :
    (ss.flatMap lines).takeWhile (!·.isMarker) = [] := by
  cases ss <;> simp [lines]

theorem cut_flatMap_lines {ss : List Segment} (h : ∀ s ∈ ss, ∀ l ∈ s.body, l.isMarker = false) :
    cut (ss.flatMap lines) = ss := by
  induction ss with
  | nil => rfl
  | cons s ss ih =>
    have hs := h s List.mem_cons_self
    have ht := ih fun r hr => h r (List.mem_cons_of_mem s hr)
    have hb : ∀ l ∈ s.body, (!l.isMarker) = true := fun l hl => by simp [hs l hl]
    rw [List.flatMap_cons, lines, List.cons_append, cut, cut_append hs, ht,
      List.takeWhile_append_of_pos hb, takeWhile_flatMap_lines, List.append_nil]

def opened (s : Segment) : OpenBlock where
  kind := s.marker.kind
  lines := s.texts.toArray
  language := if s.marker.kind = .code then s.language? else none

def snoc (s : Segment) (l : Line) : Segment :=
  { s with body := s.body ++ [l] }

@[simp] theorem texts_snoc (s : Segment) (l : Line) :
    (s.snoc l).texts = s.texts ++ l.content?.toList := by
  cases h : l.content? <;> simp [snoc, texts, h]

@[simp] theorem language?_snoc (s : Segment) (l : Line) :
    (s.snoc l).language? = s.language?.or l.language? := by
  simp [snoc, language?]

@[simp] theorem marker_snoc (s : Segment) (l : Line) : (s.snoc l).marker = s.marker := rfl

theorem close_opened (s : Segment) : s.opened.close = s.block? := by
  cases h : s.texts with
  | nil => simp [opened, OpenBlock.close, Block.ofLines?, block?, h]
  | cons t ts =>
    cases hk : s.marker.kind <;>
      simp [opened, OpenBlock.close, Block.ofLines?, Block.ofText, block?, block, h, hk]

theorem opened_ofMarker (m : Marker) : OpenBlock.ofMarker m = opened ⟨m, []⟩ := by
  simp [opened, OpenBlock.ofMarker, texts, language?]

theorem opened_fence (s : Segment) (f : Fence) : s.opened.fence f = (s.snoc (.fence f)).opened := by
  by_cases h : s.marker.kind = .code <;>
    simp [opened, OpenBlock.fence, h, Line.content?, Line.language?]

theorem opened_content (s : Segment) (t : Text) :
    s.opened.content t = (s.snoc (.content t)).opened := by
  simp [opened, OpenBlock.content, Line.content?, Line.language?]

end Segment

namespace Builder

open Segment (cut)

@[simp] theorem pushAll_nil (b : Builder) : b.pushAll [] = b := rfl

@[simp] theorem pushAll_cons (b : Builder) (l : Line) (ls : List Line) :
    b.pushAll (l :: ls) = (b.push l).pushAll ls := rfl

/-- While a segment is open each line extends it, until a marker closes it and opens the next. -/
theorem finish_pushAll_opened (bs : Array Block) (s : Segment) (ls : List Line) :
    (pushAll ⟨bs, some s.opened⟩ ls).finish =
      bs.toList ++ (Segment.block? ⟨s.marker, s.body ++ ls.takeWhile (!·.isMarker)⟩).toList ++
        (cut ls).filterMap Segment.block? := by
  -- The open block is always that of a segment: the one whose body is what was read of it.
  induction ls generalizing bs s with
  | nil => simp [finish, Segment.close_opened, cut]
  | cons l ls ih =>
    cases l with
    | marker m =>
      rw [pushAll_cons, push, Segment.opened_ofMarker, ih, Segment.filterMap_block?_cut]
      simp [Segment.close_opened]
    | fence f =>
      rw [pushAll_cons, push, Option.map_some, Segment.opened_fence, ih]
      simp [Segment.snoc, cut]
    | content t =>
      rw [pushAll_cons, push, Option.map_some, Segment.opened_content, ih]
      simp [Segment.snoc, cut]

theorem finish_pushAll (ls : List Line) :
    (empty.pushAll ls).finish = (cut ls).filterMap Segment.block? := by
  induction ls with
  | nil => rfl
  | cons l ls ih =>
    cases l with
    | marker m =>
      rw [pushAll_cons, empty, push, Segment.opened_ofMarker, finish_pushAll_opened,
        Segment.filterMap_block?_cut]
      simp
    | fence f => exact ih
    | content t => exact ih

/-- The blocks of any lines, in the order of their markers. No line but a marker ends a segment,
and nothing that a segment holds counts for the next one. -/
theorem finish_pushAll_eq_blocks_of_segments (ls : List Line) :
    (empty.pushAll ls).finish = (cut ls).filterMap Segment.block? ∧
      ls.takeWhile (!·.isMarker) ++ (cut ls).flatMap Segment.lines = ls ∧
      ∀ s ∈ cut ls, (∀ l ∈ s.body, l.isMarker = false) ∧
        (s.texts = [] → s.block? = none) ∧
        (s.texts ≠ [] → ∃ b, s.block? = some b ∧ b.kind = s.marker.kind ∧
          b.text = (Text.unlines s.texts).trim ∧
          b.language? = if s.marker.kind = .code then
            some (s.language?.getD Fence.defaultLanguage) else none) := by
  refine ⟨finish_pushAll ls, Segment.takeWhile_append_cut ls, fun s hs => ⟨?_, ?_, ?_⟩⟩
  · exact Segment.isMarker_of_mem_body hs
  · intro h
    simp [Segment.block?, h]
  · intro h
    exact ⟨s.block, Segment.block?_eq_some_iff.2 ⟨h, rfl⟩, s.kind_block, s.text_block,
      s.language?_block⟩

end Builder

end LessonText

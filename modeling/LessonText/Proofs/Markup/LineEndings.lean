import LessonText.Proofs.Markup.Skeleton
import LessonText.Proofs.Text.LineEndings

/-! Lessons do not depend on how the lines of their text end. Returns are read as white space where
a line is classified and stay in content, so taking them out of a lesson's lines takes them out of
its blocks and does nothing else. -/

namespace LessonText

open Text (dropReturns)

namespace Line

def dropReturns : Line → Line
  | .content t => .content t.dropReturns
  | l => l

theorem dropReturns_ofText {l m : Text} (h : Text.SameLine l m) :
    (ofText m).dropReturns = (ofText l).dropReturns := by
  rw [ofText, ofText, h.trim_eq]
  split
  · rfl
  · rfl
  · exact congrArg content h.dropReturns_eq

end Line

namespace Block

def withoutReturns (b : Block) : (Kind × Option Text) × Text :=
  ((b.kind, b.language?), b.text.dropReturns)

end Block

namespace Segment

def dropReturns (s : Segment) : Segment :=
  { s with body := s.body.map Line.dropReturns }

theorem cut_map_dropReturns (ls : List Line) :
    cut (ls.map Line.dropReturns) = (cut ls).map dropReturns := by
  have hmarker : (fun l : Line => !l.isMarker) ∘ Line.dropReturns = fun l => !l.isMarker := by
    funext l
    cases l <;> rfl
  induction ls with
  | nil => rfl
  | cons l ls ih =>
    cases l with
    | marker m =>
      have hkept : (Line.marker m).dropReturns = .marker m := rfl
      rw [List.map_cons, hkept, cut, List.takeWhile_map, hmarker, ih, cut, List.map_cons,
        dropReturns]
    | fence f => exact ih
    | content t => exact ih

theorem language?_dropReturns (s : Segment) : s.dropReturns.language? = s.language? := by
  have hlanguage : Line.language? ∘ Line.dropReturns = Line.language? := by
    funext l
    cases l <;> rfl
  rw [language?, dropReturns, List.findSome?_map, hlanguage, language?]

theorem texts_dropReturns (s : Segment) :
    s.dropReturns.texts.map Text.dropReturns = s.texts.map Text.dropReturns := by
  have hidem (t : Text) : t.dropReturns.dropReturns = t.dropReturns := by
    simp [Text.dropReturns]
  have hcontent (l : Line) : l.dropReturns.content?.map Text.dropReturns =
      l.content?.map Text.dropReturns := by
    cases l with
    | marker m => rfl
    | fence f => rfl
    | content t => exact congrArg some (hidem t)
  simp only [texts, dropReturns, List.map_append, List.map_filterMap, List.filterMap_map,
    Function.comp_def, hcontent]

theorem withoutReturns_block?_dropReturns (s : Segment) :
    s.dropReturns.block?.map Block.withoutReturns = s.block?.map Block.withoutReturns := by
  have hempty : s.dropReturns.texts.isEmpty = s.texts.isEmpty := by
    rw [← List.isEmpty_map (f := Text.dropReturns), texts_dropReturns, List.isEmpty_map]
  have hblock : s.dropReturns.block.withoutReturns = s.block.withoutReturns := by
    rw [Block.withoutReturns, Block.withoutReturns, kind_block, kind_block, language?_block,
      language?_block, text_block, text_block, language?_dropReturns, Text.dropReturns_trim,
      Text.dropReturns_trim, Text.dropReturns_unlines, Text.dropReturns_unlines, texts_dropReturns]
    rfl
  rw [block?, block?, hempty]
  split
  · rfl
  · exact congrArg some hblock

end Segment

namespace Lesson

variable {t : Text}

theorem withoutReturns_ofText (t : Text) : (ofText t).map Block.withoutReturns =
    (Segment.cut (t.lines.map fun l => (Line.ofText l).dropReturns)).filterMap
      (·.block?.map Block.withoutReturns) := by
  rw [ofText_eq_filterMap, List.map_filterMap, ← Function.comp_def Line.dropReturns,
    ← List.map_map, Segment.cut_map_dropReturns, List.filterMap_map]
  simp only [Function.comp_def, Segment.withoutReturns_block?_dropReturns]

theorem withoutReturns_ofText_addReturns (t : Text) :
    (ofText t.addReturns).map Block.withoutReturns = (ofText t).map Block.withoutReturns := by
  rw [withoutReturns_ofText, withoutReturns_ofText,
    Text.map_lines_addReturns Line.dropReturns_ofText]

/-- With a return at the end of each line a text has the same blocks, and deleting the returns from
their texts gives the texts that they have without. -/
theorem ofText_addReturns (h : '\r' ∉ t) :
    (ofText t.addReturns).shape = (ofText t).shape ∧
      (ofText t.addReturns).map (fun b => b.text.dropReturns) = (ofText t).map Block.text := by
  have hboth := withoutReturns_ofText_addReturns t
  have hfree : (ofText t).map (fun b => b.text.dropReturns) = (ofText t).map Block.text := by
    rw [List.map_inj_left]
    exact fun b hb => Text.dropReturns_eq_self (not_mem_text (by decide) h hb)
  constructor
  · have hshape := congrArg (List.map Prod.fst) hboth
    rwa [List.map_map, List.map_map] at hshape
  · have htexts := congrArg (List.map Prod.snd) hboth
    rw [List.map_map, List.map_map] at htexts
    exact htexts.trans hfree

def sampleLines : Text :=
  "##TITLE## Loops \n\n##CODE##\n\n```rust\n  a();\n\n  b();\n```\n\n##SUMMARY##\nDone"

theorem ofText_addReturns_sampleLines :
    '\r' ∉ sampleLines ∧
      (ofText sampleLines.addReturns).shape =
        [(.prose .title, none), (.code, some "rust".toList), (.prose .summary, none)] ∧
      (ofText sampleLines.addReturns).map (fun b => b.text.dropReturns) =
        ["Loops".toList, "a();\n\n  b();".toList, "Done".toList] := by
  have hfree : '\r' ∉ sampleLines := by decide
  obtain ⟨hshape, htexts⟩ := ofText_addReturns hfree
  rw [hshape, htexts]
  exact ⟨hfree, by decide +kernel, by decide +kernel⟩

end Lesson

end LessonText

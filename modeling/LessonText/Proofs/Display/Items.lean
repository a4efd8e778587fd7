import LessonText.Proofs.Display.Snippets
import LessonText.Proofs.Markup.Opening
import LessonText.Proofs.Prose.Emphasis

/-! The items of a list of points are those of its raw lines. Putting the lines together and
trimming them as a whole takes away only what holds no item. -/

namespace LessonText

open Unicode (isWhiteSpace)

namespace Points

variable {t l m : Text} {ls : List Text} {c : Char}

theorem item?_congr (h : l.trim = m.trim) : item? l = item? m := by
  rw [item?, item?, h]

theorem items_cons_of_isWhiteSpace (hc : isWhiteSpace c) (t : Text) : items (c :: t) = items t := by
  rw [items, items, Text.lines_cons]
  split
  next => rfl
  next =>
    obtain ⟨m, ms, ht⟩ := Text.exists_lines_eq_cons t
    have hitem : item? (c :: m) = item? m := item?_congr (Text.trim_cons_of_isWhiteSpace hc m)
    rw [ht, List.modifyHead_cons, List.filterMap_cons, List.filterMap_cons, hitem]

theorem items_snoc_of_isWhiteSpace (hc : isWhiteSpace c) (t : Text) :
    items (t ++ [c]) = items t := by
  rw [items, items]
  rcases eq_or_ne c '\n' with rfl | hfeed
  · rw [Text.lines_append_lineFeed, List.filterMap_append]
    exact List.append_nil _
  · obtain ⟨ls, l, ht⟩ := Text.exists_lines_eq_append t
    have hsingle : Text.lines [c] = [[c]] := Text.lines_of_not_mem (by simpa using hfeed.symm)
    have hitem : item? (l ++ [c]) = item? l := item?_congr (Text.trim_snoc_of_isWhiteSpace hc l)
    rw [Text.lines_append ht hsingle, ht, List.filterMap_append, List.filterMap_append,
      List.filterMap_cons, List.filterMap_cons, hitem]

theorem items_trimStart (t : Text) : items t.trimStart = items t := by
  induction t with
  | nil => rfl
  | cons c t ih =>
    cases hc : isWhiteSpace c with
    | true =>
      rw [items_cons_of_isWhiteSpace hc, Text.trimStart, List.dropWhile_cons_of_pos hc]
      exact ih
    | false => rw [Text.trimStart_of_head? (by simpa using hc)]

theorem items_trimEnd (t : Text) : items t.trimEnd = items t := by
  induction t using List.reverseRecOn with
  | nil => rfl
  | append_singleton t c ih =>
    cases hc : isWhiteSpace c with
    | true => rw [Text.trimEnd_snoc hc, ih, items_snoc_of_isWhiteSpace hc]
    | false => rw [Text.trimEnd_of_getLast? (by simpa using hc)]

theorem items_trim (t : Text) : items t.trim = items t := by
  rw [Text.trim, items_trimEnd, items_trimStart]

theorem items_trim_unlines (hne : ls ≠ []) (h : ∀ l ∈ ls, '\n' ∉ l) :
    items (Text.unlines ls).trim = ls.filterMap item? := by
  rw [items_trim, items, Text.lines_unlines h hne]

theorem item?_dash_cons (t : Text) : item? (dash :: t) = some (Span.ofText t.trim) := by
  have htrim : Text.trim (dash :: t) = [dash] ++ t.trimEnd :=
    Text.trim_append (s := [dash]) (by decide) (by decide) (by decide) t
  rw [item?, htrim, Text.after?_eq_some_iff.2 rfl, Option.map_some, Text.trim_trimEnd]

theorem length_items_unlines (hne : ls ≠ []) (hfeed : ∀ l ∈ ls, '\n' ∉ l)
    (h : ∀ l ∈ ls, l.head? = some dash) : (items (Text.unlines ls)).length = ls.length := by
  rw [items, Text.lines_unlines hfeed hne, List.filterMap_length_eq_length]
  intro l hl
  obtain ⟨t, rfl⟩ := List.head?_eq_some_iff.1 (h l hl)
  rw [item?_dash_cons]
  rfl

end Points

def Line.item? (l : Text) : Option (List Span) :=
  if Line.IsFence l then none
  else
    match l.trim with
    | '-' :: rest => some (Span.ofText (Text.trim rest))
    | _ => none

/-- The items below the first of these lines and above the next marker, if that first line is the
marker of a list. -/
def itemsBelow? : List Text → Option (List (List Span))
  | [] => none
  | l :: ls =>
    if l.trim.startsWith Kind.points.marker then
      some ((ls.takeWhile (Line.IsUnmarked ·)).filterMap Line.item?)
    else none

namespace Line

variable {l u : Text}

theorem item?_eq (l : Text) : item? l = if IsFence l then none else Points.item? l := by
  rw [item?, Points.item?]
  split
  · rfl
  · cases l.trim with
    | nil => rfl
    | cons c rest =>
      by_cases hc : c = '-'
      · subst hc
        rfl
      · simp [Text.after?, Points.dash, Ne.symm hc, hc]

theorem item?_eq_some_nil_iff (l : Text) : item? l = some [] ↔ l.trim = [Points.dash] := by
  rw [item?_eq]
  constructor
  · intro h
    split at h
    · contradiction
    · obtain ⟨rest, hrest, hspans⟩ := Option.map_eq_some_iff.1 h
      have htrim : l.trim = [Points.dash] ++ rest := Text.after?_eq_some_iff.1 hrest
      have hblank : rest.isBlank := by
        rw [← Text.trim_eq_nil_iff, ← Span.flatMap_write_ofText rest.trim, hspans]
        rfl
      calc l.trim
        _ = Text.trim ([Points.dash] ++ rest) := by rw [← htrim, Text.trim_trim]
        _ = [Points.dash] ++ rest.trimEnd := Text.trim_append (by decide) (by decide) (by decide) _
        _ = [Points.dash] := by rw [Text.trimEnd_of_isBlank hblank, List.append_nil]
  · intro h
    have hfence : ¬IsFence l := by
      rw [IsFence, h]
      decide
    rw [if_neg hfence, Points.item?, h]
    exact congrArg some Span.ofText_nil

theorem filterMap_content?_map_ofText {ls : List Text} (h : ∀ u ∈ ls, IsUnmarked u) :
    (ls.map ofText).filterMap content? = ls.filter (¬IsFence ·) := by
  rw [List.filterMap_map, ← List.filterMap_eq_filter]
  apply List.filterMap_congr
  intro u hu
  rw [Function.comp_apply, ofText, Marker.ofText?_eq_none_iff.2 (h u hu)]
  by_cases hf : IsFence u
  · obtain ⟨r, hr⟩ := Option.isSome_iff_exists.1 hf
    rw [Fence.ofText?, hr]
    simp [content?, Option.guard, hf]
  · rw [Fence.ofText?_eq_none_iff.2 (Bool.eq_false_iff.2 hf)]
    simp [content?, Option.guard, hf]

theorem filterMap_item?_filter (ls : List Text) :
    (ls.filter (¬IsFence ·)).filterMap Points.item? = ls.filterMap item? := by
  rw [List.filterMap_filter]
  apply List.filterMap_congr
  intro u _
  rw [item?_eq]
  by_cases hf : IsFence u <;> simp [hf]

end Line

theorem Kind.startsWith_marker_points (k : Kind) (rest : Text) :
    Text.startsWith (k.marker ++ rest) Kind.points.marker = decide (k = .points) := by
  rcases k with ⟨_ | _ | _ | _ | _⟩ | _ | _ <;> rfl

namespace Block

def items? : Block → Option (List (List Span))
  | .points t => some (Points.items t)
  | _ => none

theorem items?_eq (b : Block) :
    b.items? = if b.kind = .points then some (Points.items b.text) else none := by
  cases b <;> rfl

end Block

theorem OpensBlock.items?_block {l : Text} {ls : List Text} {m : Marker}
    (h : OpensBlock (l :: ls)) (hm : Line.ofText l = .marker m) (hls : ∀ u ∈ ls, '\n' ∉ u) :
    (Segment.block ⟨m, (ls.takeWhile (Line.IsUnmarked ·)).map Line.ofText⟩).items? =
      itemsBelow? (l :: ls) := by
  have htexts := (iff_texts_ne_nil hm).1 h
  obtain ⟨k, rest, htrim, rfl⟩ := Line.exists_of_marker hm
  rw [Block.items?_eq, Segment.kind_block, Segment.text_block, itemsBelow?, htrim,
    Kind.startsWith_marker_points]
  by_cases hk : k = .points
  case neg => simp [hk]
  subst hk
  have hunmarked : ∀ u ∈ ls.takeWhile (Line.IsUnmarked ·), Line.IsUnmarked u := by
    intro u hu
    simpa using List.mem_takeWhile_imp hu
  -- No text stands on the marker's own line, so the lines below are all that the list has.
  have hbody : Segment.texts ⟨⟨.points, Kind.points.headline? rest⟩,
      (ls.takeWhile (Line.IsUnmarked ·)).map Line.ofText⟩ =
        (ls.takeWhile (Line.IsUnmarked ·)).filter (¬Line.IsFence ·) :=
    Line.filterMap_content?_map_ofText hunmarked
  have hfeed : ∀ u ∈ (ls.takeWhile (Line.IsUnmarked ·)).filter (¬Line.IsFence ·), '\n' ∉ u :=
    fun u hu => hls u ((List.takeWhile_sublist _).subset (List.mem_of_mem_filter hu))
  rw [hbody] at htexts ⊢
  rw [Points.items_trim_unlines htexts hfeed, Line.filterMap_item?_filter]
  rfl

namespace Lesson

theorem map_items?_ofLines {ls : List Text} (h : ∀ u ∈ ls, '\n' ∉ u) :
    (ofLines ls).map Block.items? = (ls.tails.filter (OpensBlock ·)).map itemsBelow? := by
  induction ls with
  | nil => rfl
  | cons l ls ih =>
    rw [List.forall_mem_cons] at h
    rw [List.tails_cons]
    by_cases hl : Line.IsMarked l
    · obtain ⟨m, hm⟩ := Line.exists_marker_of_isMarked hl
      rw [ofLines_cons_of_marker hm, List.map_append, ih h.2]
      by_cases hopens : OpensBlock (l :: ls)
      · have hblock := Segment.block?_eq_some_iff.2 ⟨(OpensBlock.iff_texts_ne_nil hm).1 hopens, rfl⟩
        rw [hblock, List.filter_cons_of_pos (by simpa using hopens), List.map_cons,
          ← hopens.items?_block hm h.2]
        rfl
      · have hnone :
            Segment.block? ⟨m, (ls.takeWhile (Line.IsUnmarked ·)).map Line.ofText⟩ = none := by
          rw [← Option.not_isSome_iff_eq_none, Segment.isSome_block?_iff,
            ← OpensBlock.iff_texts_ne_nil hm]
          exact hopens
        rw [hnone, List.filter_cons_of_neg (by simpa using hopens)]
        rfl
    · have hclosed : ¬OpensBlock (l :: ls) := fun hopens => hl hopens.isMarked
      rw [ofLines_cons_of_isUnmarked (Line.not_isMarked_iff.1 hl),
        List.filter_cons_of_neg (by simpa using hclosed), ih h.2]

end Lesson

def Panel.items? : Panel → Option (List (List Span))
  | .points items => some items
  | _ => none

theorem Panel.items?_ofBlock (lx : Lexicon) (b : Block) : (ofBlock lx b).items? = b.items? := by
  cases b <;> rfl

namespace View

def panels : View → List Panel
  | .structured panels => panels
  | .unstructured _ => []

theorem panels_ofText (lx : Lexicon) (t : Text) :
    (ofText lx t).panels = (Lesson.ofText t).map (Panel.ofBlock lx) := by
  rw [ofText]
  cases Lesson.ofText t <;> rfl

/-- The panels of a view stand for the markers that open blocks, in order. Those that stand for the
marker of a list are lists, and no others are. A list has one item for each line below its marker
that begins with a dash, up to the next marker: what follows the dash, which may be nothing. -/
theorem items?_panels_ofText (lx : Lexicon) (t : Text) :
    (ofText lx t).panels.map Panel.items? =
        (t.lines.tails.filter (OpensBlock ·)).map itemsBelow? ∧
      ∀ l, Line.item? l = some [] ↔ l.trim = [Points.dash] := by
  refine ⟨?_, Line.item?_eq_some_nil_iff⟩
  have hlines : ∀ u ∈ t.lines, '\n' ∉ u := fun u hu => Text.lineFeed_not_mem_of_mem_lines hu
  rw [panels_ofText, List.map_map, ← Lesson.map_items?_ofLines hlines, ← Lesson.ofText_eq_ofLines]
  exact List.map_congr_left fun b _ => Panel.items?_ofBlock lx b

end View

end LessonText

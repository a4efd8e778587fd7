import LessonText.Markup.Draft
import LessonText.Proofs.Markup.Segment
import LessonText.Proofs.Text.Lines
import LessonText.Proofs.Text.Trimming

namespace LessonText

namespace Kind

theorem trim_marker_append (k : Kind) (t : Text) :
    (k.marker ++ t).trim = k.marker ++ t.trimEnd := by
  apply Text.trim_append <;> rcases k with ⟨_ | _ | _ | _ | _⟩ | _ | _ <;> decide

theorem lineFeed_not_mem_marker (k : Kind) : '\n' ∉ k.marker := by
  rcases k with ⟨_ | _ | _ | _ | _⟩ | _ | _ <;> decide

def headline? (k : Kind) (remark : Text) : Option Text :=
  if k.takesHeadline && !remark.isBlank then some remark.trim else none

theorem headline?_eq_filter (k : Kind) (remark : Text) :
    k.headline? remark = (some remark.trim).filter fun h => k.takesHeadline && !h.isEmpty := by
  have hb : remark.trim.isEmpty = remark.isBlank := by
    rw [Bool.eq_iff_iff, List.isEmpty_iff, Text.trim_eq_nil_iff]
  rw [headline?, ← hb]
  rfl

end Kind

namespace Marker

theorem ofText?_append (k : Kind) (t : Text) : ofText? (k.marker ++ t) =
    some ⟨k, (some t.trim).filter fun h => k.takesHeadline && !h.isEmpty⟩ := by
  rcases k with ⟨_ | _ | _ | _ | _⟩ | _ | _ <;> rfl

theorem ofText?_eq_none_iff {t : Text} :
    ofText? t = none ↔ ∀ k ∈ Kind.all, t.startsWith k.marker = false := by
  simp [ofText?, Text.startsWith]

end Marker

namespace Fence

theorem trim_mark_append (t : Text) : (mark ++ t).trim = mark ++ t.trimEnd := by
  apply Text.trim_append <;> decide

theorem ofText?_append (t : Text) : ofText? (mark ++ t) = some ⟨t.firstWord?⟩ := rfl

theorem ofText?_eq_none_iff {t : Text} : ofText? t = none ↔ t.startsWith mark = false := by
  simp [ofText?, Text.startsWith]

end Fence

namespace Line

def IsUnmarked (l : Text) : Prop :=
  ∀ k ∈ Kind.all, l.trim.startsWith k.marker = false

instance (l : Text) : Decidable (IsUnmarked l) :=
  inferInstanceAs (Decidable (∀ k ∈ Kind.all, l.trim.startsWith k.marker = false))

@[mk_iff]
structure IsContent (l : Text) : Prop where
  no_lineFeed : '\n' ∉ l
  no_marker : IsUnmarked l
  no_fence : l.trim.startsWith Fence.mark = false

instance (l : Text) : Decidable (IsContent l) :=
  decidable_of_iff' _ (isContent_iff l)

theorem ofText_marker (k : Kind) (remark : Text) :
    ofText (k.marker ++ remark) = .marker ⟨k, k.headline? remark⟩ := by
  rw [ofText, k.trim_marker_append, Marker.ofText?_append, Text.trim_trimEnd, k.headline?_eq_filter]

theorem ofText_fence (t : Text) : ofText (Fence.mark ++ t) = .fence ⟨t.trimEnd.firstWord?⟩ := by
  rw [ofText, Fence.trim_mark_append, Fence.ofText?_append]
  rfl

theorem ofText_fence_append {w : Text} (h : Text.IsUnspaced w) :
    ofText (Fence.mark ++ w) = .fence ⟨some w⟩ := by
  rw [ofText_fence, Text.trimEnd_of_forall h.isWhiteSpace, Text.firstWord?_of_isUnspaced h]

theorem ofText_content {l : Text} (h : IsContent l) : ofText l = .content l := by
  rw [ofText, Marker.ofText?_eq_none_iff.2 h.no_marker, Fence.ofText?_eq_none_iff.2 h.no_fence]

theorem isMarker_ofText {l : Text} (h : IsUnmarked l) : (ofText l).isMarker = false := by
  rw [ofText, Marker.ofText?_eq_none_iff.2 h]
  cases Fence.ofText? l.trim <;> rfl

end Line

namespace Passage

def kind : Passage → Kind
  | .lines kind _ _ => kind
  | .fenced _ _ _ _ => .code

def remark : Passage → Text
  | .lines _ remark _ | .fenced remark _ _ _ => remark

def language? : Passage → Option Text
  | .lines _ _ _ => none
  | .fenced _ language _ _ => language

def content : Passage → List Text
  | .lines _ _ ls => ls
  | .fenced _ _ code after => code ++ after

def texts (p : Passage) : List Text :=
  (p.kind.headline? p.remark).toList ++ p.content

def block (p : Passage) : Block :=
  let text := (Text.unlines p.texts).trim
  match p.kind with
  | .prose role => .prose role text
  | .points => .points text
  | .code => .code (p.language?.getD Fence.defaultLanguage) text

/-- A passage that has text, and whose lines are not taken for something else. -/
@[mk_iff]
structure WellFormed (p : Passage) : Prop where
  remark : '\n' ∉ p.remark
  language : ∀ w ∈ p.language?, Text.IsUnspaced w
  content : ∀ l ∈ p.content, Line.IsContent l
  texts_ne_nil : p.texts ≠ []

instance (p : Passage) : Decidable p.WellFormed :=
  decidable_of_iff' _ (wellFormed_iff p)

def body : Passage → List Line
  | .lines _ _ ls => ls.map .content
  | .fenced _ language code after =>
    .fence ⟨language⟩ :: (code.map .content ++ .fence ⟨none⟩ :: after.map .content)

def segment (p : Passage) : Segment :=
  ⟨⟨p.kind, p.kind.headline? p.remark⟩, p.body⟩

variable {p : Passage} {ls : List Text}

theorem isMarker_of_mem_body : ∀ l ∈ p.body, l.isMarker = false := by
  cases p <;> simp [body, or_imp, forall_and]

theorem filterMap_content?_map (ls : List Text) :
    (ls.map Line.content).filterMap Line.content? = ls := by
  induction ls with
  | nil => rfl
  | cons l ls ih => simp_all [Line.content?]

theorem findSome?_language?_map (ls : List Text) :
    (ls.map Line.content).findSome? Line.language? = none := by
  simp [Line.language?]

theorem filterMap_content?_body (p : Passage) : p.body.filterMap Line.content? = p.content := by
  cases p with
  | lines k r ls => exact filterMap_content?_map ls
  | fenced r language code after =>
    simp only [body, content, List.filterMap_cons, List.filterMap_append, Line.content?,
      filterMap_content?_map]

theorem texts_segment (p : Passage) : p.segment.texts = p.texts := by
  rw [Segment.texts, segment, filterMap_content?_body, texts]

theorem language?_segment (p : Passage) : p.segment.language? = p.language? := by
  cases p with
  | lines k r ls => exact findSome?_language?_map ls
  | fenced r language code after =>
    cases language with
    | some w => rfl
    | none =>
      have hbody : (code.map Line.content ++ Line.fence ⟨none⟩ :: after.map Line.content).findSome?
          Line.language? = none := by
        rw [List.findSome?_append, findSome?_language?_map, Option.none_or]
        exact findSome?_language?_map after
      exact hbody

theorem block_segment (p : Passage) : p.segment.block = p.block := by
  rw [Segment.block, block, texts_segment, language?_segment]
  rfl

theorem block?_segment (h : p.WellFormed) : p.segment.block? = some p.block := by
  rw [Segment.block?_eq_some_iff, texts_segment, block_segment]
  exact ⟨h.texts_ne_nil, rfl⟩

theorem map_ofText_content (h : ∀ l ∈ ls, Line.IsContent l) :
    ls.map Line.ofText = ls.map .content :=
  List.map_congr_left fun l hl => Line.ofText_content (h l hl)

theorem map_ofText_written (h : p.WellFormed) : p.written.map Line.ofText = p.segment.lines := by
  cases p with
  | lines k r ls =>
    have hls : ls.map Line.ofText = ls.map .content := map_ofText_content h.content
    rw [written, List.map_cons, Line.ofText_marker, hls]
    rfl
  | fenced r language code after =>
    have hfence : Line.ofText (Fence.mark ++ language.getD []) = .fence ⟨language⟩ := by
      cases language with
      | none => exact Line.ofText_fence []
      | some w => exact Line.ofText_fence_append (h.language w rfl)
    have hcode : ∀ l ∈ code, Line.IsContent l := fun l hl => h.content l (by simp [content, hl])
    have hafter : ∀ l ∈ after, Line.IsContent l := fun l hl => h.content l (by simp [content, hl])
    rw [written, List.map_cons, List.map_cons, List.map_append, List.map_cons, Line.ofText_marker,
      hfence, map_ofText_content hcode, map_ofText_content hafter]
    rfl

theorem lineFeed_not_mem_written (h : p.WellFormed) : ∀ l ∈ p.written, '\n' ∉ l := by
  have hmarker : '\n' ∉ p.kind.marker ++ p.remark := by
    rw [List.mem_append, not_or]
    exact ⟨p.kind.lineFeed_not_mem_marker, h.remark⟩
  have hcontent : ∀ l ∈ p.content, '\n' ∉ l := fun l hl => (h.content l hl).no_lineFeed
  cases p with
  | lines k r ls => exact List.forall_mem_cons.2 ⟨hmarker, hcontent⟩
  | fenced r language code after =>
    have hfence : '\n' ∉ Fence.mark ++ language.getD [] := by
      rw [List.mem_append, not_or]
      refine ⟨by decide, ?_⟩
      cases language with
      | none => exact List.not_mem_nil
      | some w =>
        intro hw
        exact absurd ((h.language w rfl).isWhiteSpace '\n' hw) (by decide)
    refine List.forall_mem_cons.2 ⟨hmarker, List.forall_mem_cons.2 ⟨hfence, ?_⟩⟩
    rw [List.forall_mem_append, List.forall_mem_cons]
    have hcode := List.forall_mem_append.1 hcontent
    exact ⟨hcode.1, by decide, hcode.2⟩

end Passage

namespace Lesson

open Passage (written segment block)

theorem ofText_unlines {ls : List Text} (h : ∀ l ∈ ls, '\n' ∉ l) :
    ofText (Text.unlines ls) = (Segment.cut (ls.map Line.ofText)).filterMap Segment.block? := by
  cases ls with
  | nil => rfl
  | cons l ls =>
    rw [ofText, Text.lines_unlines h (List.cons_ne_nil l ls), Builder.finish_pushAll]

theorem map_ofText_flatMap_written {d : Draft} (h : ∀ p ∈ d, p.WellFormed) :
    (d.flatMap written).map Line.ofText = (d.map segment).flatMap Segment.lines := by
  induction d with
  | nil => rfl
  | cons p d ih =>
    rw [List.forall_mem_cons] at h
    rw [List.flatMap_cons, List.map_append, Passage.map_ofText_written h.1, ih h.2]
    rfl

theorem filterMap_block?_map_segment {d : Draft} (h : ∀ p ∈ d, p.WellFormed) :
    (d.map segment).filterMap Segment.block? = d.map block := by
  induction d with
  | nil => rfl
  | cons p d ih =>
    rw [List.forall_mem_cons] at h
    rw [List.map_cons, List.filterMap_cons_some (Passage.block?_segment h.1), ih h.2]
    rfl

/-- A lesson is read back as it was written, whatever stands in front of its first marker. -/
theorem ofText_unlines_written {preamble : List Text} {d : Draft}
    (hpre : ∀ l ∈ preamble, '\n' ∉ l ∧ Line.IsUnmarked l) (hd : ∀ p ∈ d, p.WellFormed) :
    ofText (Text.unlines (preamble ++ d.flatMap written)) = d.map block := by
  have hls : ∀ l ∈ preamble ++ d.flatMap written, '\n' ∉ l := by
    rw [List.forall_mem_append, List.forall_mem_flatMap]
    exact ⟨fun l hl => (hpre l hl).1, fun p hp => Passage.lineFeed_not_mem_written (hd p hp)⟩
  have hskip : ∀ l ∈ preamble.map Line.ofText, l.isMarker = false := by
    rw [List.forall_mem_map]
    exact fun l hl => Line.isMarker_ofText (hpre l hl).2
  have hbody : ∀ s ∈ d.map segment, ∀ l ∈ s.body, l.isMarker = false := by
    rw [List.forall_mem_map]
    exact fun p _ => Passage.isMarker_of_mem_body
  rw [ofText_unlines hls, List.map_append, map_ofText_flatMap_written hd, Segment.cut_append hskip,
    Segment.cut_flatMap_lines hbody, filterMap_block?_map_segment hd]

def samplePreamble : List Text :=
  ["```", "not yet a lesson"]

def sampleDraft : Draft :=
  [.lines (.prose .title) " Arrays ##INTRO## " [],
    .lines (.prose .intro) " (why)" ["First.", "", "  Second."],
    .fenced "" (some "rust") ["  let x = 1;", "  x"] [],
    .fenced "" none ["f(x)"] []]

theorem ofText_unlines_written_sampleDraft :
    (∀ l ∈ samplePreamble, '\n' ∉ l ∧ Line.IsUnmarked l) ∧
      (∀ p ∈ sampleDraft, p.WellFormed) ∧
      ofText (Text.unlines (samplePreamble ++ sampleDraft.flatMap written)) =
        [.prose .title "Arrays ##INTRO##", .prose .intro "First.\n\n  Second.",
          .code "rust" "let x = 1;\n  x", .code "javascript" "f(x)"] := by
  have hpre : ∀ l ∈ samplePreamble, '\n' ∉ l ∧ Line.IsUnmarked l := by decide
  have hd : ∀ p ∈ sampleDraft, p.WellFormed := by decide
  refine ⟨hpre, hd, ?_⟩
  rw [ofText_unlines_written hpre hd]
  decide

end Lesson

end LessonText

import LessonText.CommandLine.Run
import LessonText.Proofs.Display.Snippets
import LessonText.Proofs.Storage.Writing
import LessonText.Proofs.Text.Bytes
import LessonText.Proofs.Text.Digits

namespace LessonText

namespace Arguments

theorem isOption_toDigits (n : Nat) : isOption (Nat.toDigits 10 n) = false := by
  obtain ⟨c, ds, hn, hc⟩ := (Text.isDigits_toDigits n).exists_eq_cons
  have hdash : c ≠ '-' := Text.ne_of_kind hc (by decide)
  simp [hn, isOption, hdash]

theorem number?_toDigits {n : Nat} (h : n < Nat.pow 2 64) :
    number? (Nat.toDigits 10 n) = some n := by
  have hplus : Text.after? "+" (Nat.toDigits 10 n) = none := by
    obtain ⟨c, ds, hn, hc⟩ := (Text.isDigits_toDigits n).exists_eq_cons
    have hplus : c ≠ '+' := Text.ne_of_kind hc (by decide)
    simp [hn, Text.after?, hplus.symm]
  rw [number?, hplus, Option.getD_none, Text.natural?_toDigits]
  exact Option.filter_some_pos (decide_eq_true h)

theorem Usage.read_valued {u : Usage} {f : Found} {w name value : Text} {c : Char} {long : Text}
    (hoption : isOption w) (hlong : Text.after? "--" w = some (c :: long))
    (hcut : cut (c :: long) = (name, none)) (hname : (u.valued.lookup name).isSome)
    (hvalue : isOption value = false) (ws : List Text) :
    u.read false f (w :: value :: ws) =
      (u.addValue f name value).bind fun f => u.read false f ws := by
  have hword : (false || !isOption w) = false := by rw [hoption]; rfl
  rw [read, hword, if_neg Bool.false_ne_true, hlong]
  simp only [hcut, hname, hvalue, if_true, if_neg Bool.false_ne_true]

theorem read_copy_block {n : Nat} (h : n < Nat.pow 2 64) :
    read ["copy".toList, "--block".toList, Nat.toDigits 10 n] = .ok (.copy none n none) := by
  have hnumber := number?_toDigits h
  have hread : copyUsage.read false {} ["--block".toList, Nat.toDigits 10 n] =
      .ok { values := [("block".toList, Nat.toDigits 10 n)] } := by
    have hadd : copyUsage.addValue {} "block" (Nat.toDigits 10 n) =
        .ok { values := [("block".toList, Nat.toDigits 10 n)] } := by
      simp [Usage.addValue, copyUsage, Found.value?, hnumber]
    have hcut : cut "block".toList = ("block".toList, none) := rfl
    rw [Usage.read_valued (by decide) rfl hcut (by decide) (isOption_toDigits n), hadd]
    rfl
  have hcopy : copy { values := [("block".toList, Nat.toDigits 10 n)] } = .copy none n none := by
    simp [copy, Found.value?, hnumber]
  rw [read, if_neg (by decide), if_neg (by decide), if_neg (by decide), if_pos rfl, hread]
  exact congrArg Except.ok hcopy

end Arguments

namespace Stream

theorem sink_of_unlimited {s : Stream} (hcapacity : s.capacity = none)
    (hflush : s.flushFails = false) (t : Text) :
    sink t s = (none, { s with held := s.held ++ Utf8.encode t }) := by
  have hroom : s.room (Utf8.encode t).size = (Utf8.encode t).size := by
    rw [room, hcapacity]
  simp only [sink, hroom, hflush, ByteArray.extract_zero_size, Nat.lt_irrefl, if_false,
    Bool.false_eq_true]

end Stream

namespace Command

variable {w : Surroundings} {file : Option Text} {raw : Text}

theorem copyTo_eq {σ : Type} (sink : Sink σ) (held : σ) (t : Text) :
    copyTo sink held t = ((sink t held).2, (sink t held).1.isNone) := by
  rcases h : sink t held with ⟨_ | r, s⟩ <;>
    simp [copyTo, Copier.step, h, Confirmation.accept]

/-- What comes of copying a text: its bytes are printed, or a file holds them afterwards, unless
there can be no such file. -/
def Delivered (w : Surroundings) (t : Text) (output : Option Text)
    (outcome : Except Trouble Report) : Prop :=
  match output with
  | none =>
    outcome = .ok { output := Utf8.encode t, complaint := "Copied!\n", files := w.files }
  | some path =>
    match w.files.write (.ofText path) t with
    | .ok files =>
      outcome = .ok { complaint := "Copied!\n", files } ∧
        files.readBytes (.ofText path) = .ok (Utf8.encode t)
    | .error _ => outcome = .error .notCopied

theorem delivered_deliver (w : Surroundings) (t : Text) (output : Option Text) :
    Delivered w t output (deliver w t output) := by
  cases output with
  | none => simp [Delivered, deliver, copyTo_eq, Stream.sink_of_unlimited]
  | some path =>
    cases hw : w.files.write (.ofText path) t with
    | ok files =>
      simp only [Delivered, deliver, copyTo_eq, Sink.file, hw]
      exact ⟨rfl, FileTree.readBytes_of_write hw⟩
    | error c => simp [Delivered, deliver, copyTo_eq, Sink.file, hw]

theorem deliver_ne_noBlock (w : Surroundings) (t : Text) (output : Option Text) (n count : Nat) :
    deliver w t output ≠ .error (.noBlock n count) := by
  intro h
  have hd := delivered_deliver w t output
  rw [h] at hd
  cases output with
  | none => simp [Delivered] at hd
  | some path => cases hw : w.files.write (.ofText path) t <;> simp [Delivered, hw] at hd

theorem attempt_copy (run : Program → Environment → Text → Outcome)
    (h : source w file = .ok raw) (n : Nat) (output : Option Text) :
    attempt run w (.copy file n output) =
      match (Lesson.ofText raw).snippet? n with
      | some t => deliver w t output
      | none => .error (.noBlock n (Lesson.ofText raw).codeBlocks.length) := by
  rw [attempt, h]
  rfl

/-- A view shows the texts of its lesson's code blocks, each as it is, and the command copies the
same texts by their numbers. -/
theorem copied_eq_shown (lx : Lexicon) (raw : Text) :
    let shown := (View.ofText lx raw).snippets
    shown = (Lesson.ofText raw).codeBlocks.map Block.text ∧
      (∀ paragraphs, View.ofText lx raw = .unstructured paragraphs →
        shown = [] ∧ (Lesson.ofText raw).codeBlocks = []) ∧
      (∀ panels, View.ofText lx raw = .structured panels →
        ∀ language code listing, .code language code listing ∈ panels →
          Text.unlines (listing.map Listing.Row.text) = code) ∧
      (∀ n < Nat.pow 2 64,
        Arguments.read ["copy".toList, "--block".toList, Nat.toDigits 10 n] =
          .ok (.copy none n none)) ∧
      ∀ run w file, source w file = .ok raw → ∀ n output,
        (attempt run w (.copy file n output) = .error (.noBlock n shown.length) ↔
          ¬(1 ≤ n ∧ n ≤ shown.length)) ∧
        (1 ≤ n ∧ n ≤ shown.length → ∃ t, shown[n - 1]? = some t ∧
          Delivered w t output (attempt run w (.copy file n output))) := by
  intro shown
  have hshown : shown = (Lesson.ofText raw).snippets := View.snippets_ofText lx raw
  refine ⟨hshown, ?_, ?_, fun n hn => Arguments.read_copy_block hn, ?_⟩
  · intro paragraphs hv
    rw [hshown, (View.ofText_eq_unstructured_iff.1 hv).1]
    exact ⟨rfl, rfl⟩
  · intro panels hv language code listing hp
    rw [View.listing_of_mem hv hp, Listing.map_text_ofText, Text.unlines_lines]
  · intro run w file hsource n output
    rw [attempt_copy run hsource, hshown]
    refine ⟨⟨fun h hn => ?_, fun hn => ?_⟩, fun hn => ?_⟩
    · obtain ⟨t, ht, -⟩ := Lesson.exists_snippet? hn
      rw [ht] at h
      exact deliver_ne_noBlock w t output _ _ h
    · rw [Lesson.snippet?_eq_none hn, Lesson.length_snippets]
    · obtain ⟨t, ht, hmem⟩ := Lesson.exists_snippet? hn
      rw [ht]
      exact ⟨t, hmem, delivered_deliver w t output⟩

def sampleLesson : Text :=
  "##CODE##\nf('é')\n##POINTS##\n- a\n##CODE##\n```\n  if (x) \x7b\n    // y\n  \x7d\n```"

def sampleSurroundings : Surroundings where
  files := .empty []
  environment := .ofText []
  input := Utf8.encode sampleLesson
  session := []

theorem copied_eq_shown_sampleLesson :
    source sampleSurroundings none = .ok sampleLesson ∧
      (∃ t, (View.ofText .javascript sampleLesson).snippets[1]? = some t ∧
        attempt (Shell.run (.empty []) []) sampleSurroundings (.copy none 2 none) =
          .ok { output := Utf8.encode t, complaint := "Copied!\n", files := .empty [] }) ∧
      attempt (Shell.run (.empty []) []) sampleSurroundings (.copy none 3 none) =
        .error (.noBlock 3 2) := by
  have hsource : source sampleSurroundings none = .ok sampleLesson := by
    rw [source, sampleSurroundings, Utf8.decode?_encode]
  obtain ⟨hshown, -, -, -, hcopy⟩ := copied_eq_shown .javascript sampleLesson
  specialize hcopy (Shell.run (.empty []) []) sampleSurroundings none hsource
  have hlength : (View.ofText .javascript sampleLesson).snippets.length = 2 := by
    rw [hshown]
    decide +kernel
  refine ⟨hsource, ?_, ?_⟩
  · exact (hcopy 2 none).2 (by rw [hlength]; decide)
  · have h := (hcopy 3 none).1
    rw [hlength] at h
    exact h.2 (by decide)

end Command

end LessonText

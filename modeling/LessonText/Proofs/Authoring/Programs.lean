import LessonText.Authoring.Program
import LessonText.Proofs.Authoring.Outline
import LessonText.Proofs.Authoring.Running
import LessonText.Proofs.Display.Emptiness
import LessonText.Proofs.Text.Bytes

namespace LessonText

def Delivery.Reached (d : Delivery) : Prop :=
  d = .whole ∨ d = .cut

def Outcome.Prints (o : Outcome) (t : Text) : Prop :=
  ∃ d complaint, Delivery.Reached d ∧ o = .ended d (.code 0) (Utf8.encode t) complaint ∧
    t.isBlank = false

namespace Program

inductive Fails (p : Program) : Outcome → Failure → Prop
  | notStarted (cause : Cause) : p.Fails (.notStarted cause) (.notStarted p.name cause)
  | promptNotSent (cause : Cause) (status : ExitStatus) (output complaint : ByteArray) :
    p.Fails (.ended (.failed cause) status output complaint) (.promptNotSent p.name cause)
  | exited {d : Delivery} {status : ExitStatus} (hd : d.Reached) (hstatus : status ≠ .code 0)
      (output complaint : ByteArray) :
    p.Fails (.ended d status output complaint)
      (.exited status (Utf8.decodeLossy complaint).trim)
  | notUtf8 {d : Delivery} {output : ByteArray} (hd : d.Reached)
      (houtput : ∀ t, output ≠ Utf8.encode t) (complaint : ByteArray) :
    p.Fails (.ended d (.code 0) output complaint) .notUtf8
  | noContent {d : Delivery} {t : Text} (hd : d.Reached) (hblank : t.isBlank)
      (complaint : ByteArray) :
    p.Fails (.ended d (.code 0) (Utf8.encode t) complaint) .noContent

variable {p : Program} {o : Outcome} {d : Delivery} {t : Text} {f : Failure}

theorem content_of_reached (hd : d.Reached) (status : ExitStatus) (output complaint : ByteArray) :
    p.content (.ended d status output complaint) =
      if !status.succeeded then .error (.exited status (Utf8.decodeLossy complaint).trim)
      else
        match Utf8.decode? output with
        | none => .error .notUtf8
        | some t => if t.isBlank then .error .noContent else .ok t := by
  rcases hd with rfl | rfl <;> rfl

theorem content_of_prints (h : o.Prints t) : p.content o = .ok t := by
  obtain ⟨d, complaint, hd, rfl, hblank⟩ := h
  rw [content_of_reached hd, if_neg (by decide), Utf8.decode?_encode]
  exact if_neg (by simp [hblank])

theorem content_of_fails (h : p.Fails o f) : p.content o = .error f := by
  cases h with
  | notStarted cause => rfl
  | promptNotSent cause status output complaint => rfl
  | exited hd hstatus output complaint =>
    rw [content_of_reached hd, if_pos (by simpa [ExitStatus.succeeded] using hstatus)]
  | notUtf8 hd houtput complaint =>
    have hnone : Utf8.decode? _ = none :=
      Option.eq_none_iff_forall_ne_some.2 fun t ht => houtput t (Utf8.decode?_eq_some_iff.1 ht)
    rw [content_of_reached hd, if_neg (by decide), hnone]
  | noContent hd hblank complaint =>
    rw [content_of_reached hd, if_neg (by decide), Utf8.decode?_encode]
    exact if_pos hblank

theorem prints_or_fails (p : Program) (o : Outcome) : (∃ t, o.Prints t) ∨ ∃ f, p.Fails o f := by
  cases o with
  | notStarted cause => exact .inr ⟨_, .notStarted cause⟩
  | ended d status output complaint =>
    by_cases hd : d.Reached
    · by_cases hstatus : status = .code 0
      · subst hstatus
        by_cases houtput : ∃ t, output = Utf8.encode t
        · obtain ⟨t, rfl⟩ := houtput
          cases hblank : t.isBlank with
          | true => exact .inr ⟨_, .noContent hd hblank complaint⟩
          | false => exact .inl ⟨t, d, complaint, hd, rfl, hblank⟩
        · exact .inr ⟨_, .notUtf8 hd (not_exists.1 houtput) complaint⟩
      · exact .inr ⟨_, .exited hd hstatus output complaint⟩
    · cases d with
      | whole => exact absurd (.inl rfl) hd
      | cut => exact absurd (.inr rfl) hd
      | failed cause => exact .inr ⟨_, .promptNotSent cause status output complaint⟩

theorem content_eq_ok_iff : p.content o = .ok t ↔ o.Prints t := by
  refine ⟨fun h => ?_, content_of_prints⟩
  rcases p.prints_or_fails o with ⟨u, hu⟩ | ⟨f, hf⟩
  · rw [content_of_prints hu] at h
    rwa [← Except.ok.inj h]
  · rw [content_of_fails hf] at h
    contradiction

theorem content_eq_error_iff : p.content o = .error f ↔ p.Fails o f := by
  refine ⟨fun h => ?_, content_of_fails⟩
  rcases p.prints_or_fails o with ⟨u, hu⟩ | ⟨g, hg⟩
  · rw [content_of_prints hu] at h
    contradiction
  · rw [content_of_fails hg] at h
    rwa [← Except.error.inj h]

end Program

namespace BuiltIn

theorem isBlank_lesson (r : Request) : (lesson r).isBlank = false := by
  rw [Bool.eq_false_iff]
  exact fun h => ofText_lesson_ne_nil r (Lesson.ofText_of_isBlank h)

end BuiltIn

namespace Content

theorem ofReply_eq_written_iff {r : Request} {reply : Except Failure Text} {t : Text} :
    ofReply r reply = .written t ↔ reply = .ok t := by
  cases reply <;> simp [ofReply]

theorem ofReply_eq_builtIn_iff {r : Request} {reply : Except Failure Text} {t : Text}
    {reason : Reason} :
    ofReply r reply = .builtIn t reason ↔
      t = BuiltIn.lesson r ∧ ∃ f, reason = .failed f ∧ reply = .error f := by
  cases reply with
  | ok u => simp [ofReply]
  | error f => simp [ofReply, eq_comm]

end Content

namespace Author

/-- With a credential a program's outcome alone decides: a printed lesson is taken as it is, and
else the built-in one tells what failed. Either way there is something to show. -/
theorem write_of_program {key : Text} (hkey : key.isBlank = false) (p : Program)
    (run : Program → Environment → Text → Outcome) (settings : ModelSettings) (number : Nat)
    (session : Text) (r : Request) :
    ∃ content call,
      write ⟨Phrase.ofText? key, some (p.backend run), settings⟩ number session r =
        (content, some call) ∧
      (∀ t, content = .written t ↔ (run p call.environment call.prompt).Prints t) ∧
      (∀ t reason, content = .builtIn t reason ↔ t = BuiltIn.lesson r ∧
        ∃ f, reason = .failed f ∧ p.Fails (run p call.environment call.prompt) f) ∧
      content.text.isBlank = false ∧
      ∀ lx, 0 < (View.ofText lx content.text).size := by
  obtain ⟨credential, hcredential, -⟩ := Phrase.exists_ofText? hkey
  let call := callFor credential settings (fun _ => session) number r
  have hwrite : write ⟨some credential, some (p.backend run), settings⟩ number session r =
      (.ofReply r (p.content (run p call.environment call.prompt)), some call) :=
    write_of_open (fun _ => session) number r
  rw [hcredential]
  refine ⟨_, call, hwrite, ?_, ?_, ?_⟩
  · intro t
    rw [Content.ofReply_eq_written_iff, Program.content_eq_ok_iff]
  · intro t reason
    simp only [Content.ofReply_eq_builtIn_iff, Program.content_eq_error_iff]
  · generalize run p call.environment call.prompt = o
    have hshown : (Content.ofReply r (p.content o)).text.isBlank = false := by
      cases h : p.content o with
      | ok t =>
        obtain ⟨-, -, -, -, hblank⟩ := Program.content_eq_ok_iff.1 h
        exact hblank
      | error f => exact BuiltIn.isBlank_lesson r
    exact ⟨hshown, fun lx => View.size_ofText_pos lx hshown⟩

def sampleRun : Program → Environment → Text → Outcome :=
  fun _ _ _ => .ended .cut (.signal 9) ⟨#[0xFF]⟩ .empty

theorem write_of_program_sampleRun :
    Text.isBlank " key" = false ∧ ∃ r content call, Request.ofTexts "Loops" "Basics" = .ok r ∧
      write ⟨Phrase.ofText? " key", some (Program.backend ⟨"cat", []⟩ sampleRun), {}⟩ 0 [] r =
        (content, some call) ∧
      content = .builtIn (BuiltIn.lesson r)
        (.failed (.exited (.signal 9) (Utf8.decodeLossy .empty).trim)) ∧
      ∀ lx, 0 < (View.ofText lx content.text).size := by
  have hkey : Text.isBlank " key" = false := by decide
  have htopic : Text.isBlank "Loops" = false := by decide
  have hcourse : Text.isBlank "Basics" = false := by decide
  obtain ⟨r, hr, -⟩ := Request.exists_ofTexts htopic hcourse
  obtain ⟨content, call, hwrite, -, hbuiltIn, -, hshown⟩ :=
    write_of_program hkey ⟨"cat", []⟩ sampleRun {} 0 [] r
  have hfails : Program.Fails ⟨"cat", []⟩ (sampleRun ⟨"cat", []⟩ call.environment call.prompt)
      (.exited (.signal 9) (Utf8.decodeLossy .empty).trim) :=
    .exited (.inr rfl) (by decide) _ _
  exact ⟨hkey, r, content, call, hr, hwrite, (hbuiltIn _ _).2 ⟨rfl, _, rfl, hfails⟩, hshown⟩

end Author

end LessonText

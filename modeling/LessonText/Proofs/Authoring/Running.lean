import LessonText.Authoring.Author
import LessonText.CommandLine.Session
import LessonText.Proofs.Text.Splicing

namespace LessonText

namespace Phrase

theorem exists_ofText? {t : Text} (h : t.isBlank = false) :
    ∃ p, ofText? t = some p ∧ p.text = t.trim := by
  have hne : t.trim ≠ [] := by
    rw [ne_eq, Text.trim_eq_nil_iff, h]
    decide
  exact ⟨_, dif_neg hne, rfl⟩

end Phrase

namespace Request

variable {topic course : Text}

def complaint (topic : Text) : Text :=
  if topic.isBlank then "topic is empty" else "course title is empty"

theorem ofTexts_of_isBlank (h : topic.isBlank ∨ course.isBlank) :
    ofTexts topic course = .error (.invalidRequest (complaint topic)) := by
  cases htopic : topic.isBlank with
  | true => rw [ofTexts, Phrase.ofText?_eq_none_iff.2 htopic, complaint, if_pos htopic]
  | false =>
    have hcourse : course.isBlank := by simpa [htopic] using h
    obtain ⟨p, hp, -⟩ := Phrase.exists_ofText? htopic
    rw [ofTexts, hp, Phrase.ofText?_eq_none_iff.2 hcourse, complaint, if_neg (by simp [htopic])]

theorem exists_ofTexts (htopic : topic.isBlank = false) (hcourse : course.isBlank = false) :
    ∃ r, ofTexts topic course = .ok r ∧ r.topic.text = topic.trim ∧
      r.course.text = course.trim := by
  obtain ⟨p, hp, htext⟩ := Phrase.exists_ofText? htopic
  obtain ⟨q, hq, hqtext⟩ := Phrase.exists_ofText? hcourse
  exact ⟨⟨p, q⟩, by rw [ofTexts, hp, hq], htext, hqtext⟩

def accepted (requests : List (Text × Text)) : List Request :=
  requests.filterMap fun q => (ofTexts q.1 q.2).toOption

theorem getElem?_accepted {requests : List (Text × Text)} {i : Nat} {r : Request}
    (hi : requests[i]? = some (topic, course)) (hr : ofTexts topic course = .ok r) :
    (accepted requests)[(accepted (requests.take i)).length]? = some r := by
  obtain ⟨hlt, hget⟩ := List.getElem?_eq_some_iff.1 hi
  have hsplit : requests = requests.take i ++ (topic, course) :: requests.drop (i + 1) := by
    rw [← hget, List.getElem_cons_drop, List.take_append_drop]
  have haccepted : accepted requests =
      accepted (requests.take i) ++ r :: accepted (requests.drop (i + 1)) := by
    conv => lhs; rw [hsplit]
    simp [accepted, hr, Except.toOption]
  rw [haccepted, List.getElem?_append_right le_rfl, Nat.sub_self, List.getElem?_cons_zero]

end Request

namespace Prompt

theorem session_suffix_text (r : Request) (session : Text) :
    session ++ ['\n'] <:+ text r session := by
  have hlast : Text.unlines ["Session: " ++ session, []] <:+ text r session :=
    Text.unlines_suffix_unlines (List.cons_ne_nil _ _) (List.suffix_iff_eq_drop.2 rfl)
  refine List.IsSuffix.trans ?_ hlast
  rw [Text.unlines_cons_of_ne_nil _ (List.cons_ne_nil _ _), List.append_assoc]
  exact List.suffix_append _ _

theorem session_eq_of_text_eq {r q : Request} {s t : Text} (hlength : s.length = t.length)
    (h : text r s = text q t) : s = t := by
  obtain ⟨p, hp⟩ := session_suffix_text r s
  obtain ⟨p', hp'⟩ := session_suffix_text q t
  rw [← hp, ← hp'] at h
  have hend : s ++ ['\n'] = t ++ ['\n'] := List.append_inj_right' h (by simp [hlength])
  exact List.append_cancel_right hend

end Prompt

def Content.ofReply (r : Request) : Except Failure Text → Content
  | .ok t => .written t
  | .error f => .builtIn (BuiltIn.lesson r) (.failed f)

namespace Author

variable {a : Author} {session : Nat → Text} {n : Nat} {requests : List (Text × Text)}

theorem runFrom_of_idle {content : Request → Content}
    (h : ∀ n s r, a.write n s r = (content r, none)) :
    a.runFrom session n requests =
      ⟨requests.map fun q => (Request.ofTexts q.1 q.2).map content, []⟩ := by
  induction requests with
  | nil => rfl
  | cons q qs ih =>
    cases hq : Request.ofTexts q.1 q.2 with
    | error f => simp [runFrom, hq, ih, Except.map]
    | ok r => simp [runFrom, hq, h, ih, Except.map]

theorem calls_runFrom {content : Nat → Request → Content} {call : Nat → Request → Call}
    (h : ∀ n r, a.write n (session n) r = (content n r, some (call n r))) :
    (a.runFrom session n requests).calls =
      (Request.accepted requests).mapIdx fun k => call (n + k) := by
  induction requests generalizing n with
  | nil => rfl
  | cons q qs ih =>
    cases hq : Request.ofTexts q.1 q.2 with
    | error f => simp [runFrom, Request.accepted, hq, ih, Except.toOption]
    | ok r =>
      have hshift : (fun k => call (n + (k + 1))) = fun k => call (n + 1 + k) := by
        funext k
        rw [Nat.add_assoc, Nat.add_comm 1 k]
      simp [runFrom, Request.accepted, hq, h, ih, Except.toOption, List.mapIdx_cons, hshift]

theorem length_results_runFrom :
    (a.runFrom session n requests).results.length = requests.length := by
  induction requests generalizing n with
  | nil => rfl
  | cons q qs ih =>
    cases hq : Request.ofTexts q.1 q.2 with
    | error f => simp [runFrom, hq, ih]
    | ok r => rcases hw : a.write n (session n) r with ⟨content, _ | call⟩ <;>
        simp [runFrom, hq, hw, ih]

theorem getElem?_results_runFrom {content : Nat → Request → Content} {call : Nat → Request → Call}
    (h : ∀ n r, a.write n (session n) r = (content n r, some (call n r))) (i : Nat) :
    (a.runFrom session n requests).results[i]? = requests[i]?.map fun q =>
      (Request.ofTexts q.1 q.2).map
        (content (n + (Request.accepted (requests.take i)).length)) := by
  induction requests generalizing n i with
  | nil => rfl
  | cons q qs ih =>
    cases hq : Request.ofTexts q.1 q.2 with
    | error f =>
      cases i with
      | zero => simp [runFrom, hq, Except.map]
      | succ i => simp [runFrom, Request.accepted, hq, ih, Except.toOption]
    | ok r =>
      cases i with
      | zero => simp [runFrom, Request.accepted, hq, h, Except.map]
      | succ i =>
        simp [runFrom, Request.accepted, hq, h, ih, Except.toOption, Nat.add_assoc, Nat.add_comm 1]

def callFor (credential : Credential) (settings : ModelSettings) (session : Nat → Text) (k : Nat)
    (r : Request) : Call :=
  { credential, prompt := Prompt.text r (session k), settings }

theorem write_of_open {credential : Credential} {backend : Backend} {settings : ModelSettings}
    (session : Nat → Text) (n : Nat) (r : Request) :
    write ⟨some credential, some backend, settings⟩ n (session n) r =
      (.ofReply r (backend n (callFor credential settings session n r)),
        some (callFor credential settings session n r)) := by
  simp only [write, callFor]
  cases backend n ⟨credential, Prompt.text r (session n), settings⟩ <;> rfl

theorem nodup_map_prompt {rs : List Request} {credential : Credential} {settings : ModelSettings}
    (hsessions : ((List.range rs.length).map session).Nodup)
    (hlength : ∀ j < rs.length, ∀ k < rs.length, (session j).length = (session k).length) :
    ((rs.mapIdx (callFor credential settings session)).map Call.prompt).Nodup := by
  rw [List.Nodup, List.pairwise_iff_getElem] at hsessions ⊢
  intro j k hj hk hjk heq
  rw [List.length_map, List.length_mapIdx] at hj hk
  rw [List.getElem_map, List.getElem_map, List.getElem_mapIdx, List.getElem_mapIdx] at heq
  have hsession := Prompt.session_eq_of_text_eq (hlength j hj k hk) heq
  refine hsessions j k (by simpa using hj) (by simpa using hk) hjk ?_
  simpa using hsession

/-- What an accepted request comes to in a run, the `k`-th of them counted from zero. -/
structure Run.Answers (run : Run) (key : Text) (backend : Option Backend) (settings : ModelSettings)
    (session : Nat → Text) (k : Nat) (r : Request) (content : Content) : Prop where
  no_credential : key.isBlank → content = .builtIn (BuiltIn.lesson r) .noCredential
  no_backend : key.isBlank = false → backend = none →
    content = .builtIn (BuiltIn.lesson r) (.failed .noBackend)
  reply : key.isBlank = false → ∀ b, backend = some b → ∃ call, run.calls[k]? = some call ∧
    call.credential.text = key.trim ∧ call.settings = settings ∧
    call.prompt = Prompt.text r (session k) ∧ content = .ofReply r (b k call)

variable {key : Text} {backend : Option Backend} {settings : ModelSettings}

structure Run.InStep (run : Run) (key : Text) (backend : Option Backend) (settings : ModelSettings)
    (session : Nat → Text) (requests : List (Text × Text)) (content : Nat → Request → Content) :
    Prop where
  results : ∀ i, run.results[i]? = requests[i]?.map fun q =>
    (Request.ofTexts q.1 q.2).map (content (Request.accepted (requests.take i)).length)
  answers : ∀ k r, (Request.accepted requests)[k]? = some r →
    run.Answers key backend settings session k r (content k r)
  calls : run.calls = [] ∧ (key.isBlank ∨ backend.isNone) ∨
    ∃ credential, run.calls =
      (Request.accepted requests).mapIdx (callFor credential settings session) ∧
        ¬(key.isBlank ∨ backend.isNone)

theorem inStep_of_idle {a : Author} (reason : Reason)
    (h : ∀ n s r, a.write n s r = (.builtIn (BuiltIn.lesson r) reason, none))
    (hblank : key.isBlank → reason = .noCredential)
    (hbackend : key.isBlank = false → backend = none ∧ reason = .failed .noBackend) :
    (a.run session requests).InStep key backend settings session requests
      fun _ r => .builtIn (BuiltIn.lesson r) reason where
  results i := by rw [run, runFrom_of_idle h, List.getElem?_map]
  answers k r _ := {
    no_credential := fun hkey => by rw [hblank hkey]
    no_backend := fun hkey _ => by rw [(hbackend hkey).2]
    reply := fun hkey b hb => by
      rw [(hbackend hkey).1] at hb
      contradiction }
  calls := by
    refine .inl ⟨by rw [run, runFrom_of_idle h], ?_⟩
    cases hkey : key.isBlank with
    | true => exact .inl rfl
    | false => exact .inr (by rw [(hbackend hkey).1]; rfl)

theorem inStep_of_open {credential : Credential} {b : Backend} (hkey : key.isBlank = false)
    (hcredential : credential.text = key.trim) :
    (run ⟨some credential, some b, settings⟩ session requests).InStep key (some b) settings session
      requests fun k r => .ofReply r (b k (callFor credential settings session k r)) where
  results i := by
    rw [run, getElem?_results_runFrom (write_of_open session)]
    simp only [Nat.zero_add]
  answers k r hr := {
    no_credential := fun hblank => by
      rw [hkey] at hblank
      contradiction
    no_backend := fun _ hb => by contradiction
    reply := fun _ b' hb => by
      obtain rfl := Option.some.inj hb
      refine ⟨callFor credential settings session k r, ?_, hcredential, rfl, rfl, rfl⟩
      rw [run, calls_runFrom (write_of_open session), List.getElem?_mapIdx, hr, Option.map_some,
        Nat.zero_add] }
  calls := by
    refine .inr ⟨credential, ?_, by simp [hkey]⟩
    rw [run, calls_runFrom (write_of_open session)]
    simp only [Nat.zero_add]

theorem exists_inStep (key : Text) (backend : Option Backend) (settings : ModelSettings)
    (session : Nat → Text) (requests : List (Text × Text)) :
    ∃ content, (run ⟨Phrase.ofText? key, backend, settings⟩ session requests).InStep key backend
      settings session requests content := by
  cases hkey : key.isBlank with
  | true =>
    rw [Phrase.ofText?_eq_none_iff.2 hkey]
    exact ⟨_, inStep_of_idle .noCredential (fun _ _ _ => rfl) (fun _ => rfl)
      fun h => by rw [hkey] at h; contradiction⟩
  | false =>
    obtain ⟨credential, hcredential, htext⟩ := Phrase.exists_ofText? hkey
    rw [hcredential]
    cases backend with
    | none =>
      exact ⟨_, inStep_of_idle (.failed .noBackend) (fun _ _ _ => rfl)
        (fun h => by rw [hkey] at h; contradiction) fun _ => ⟨rfl, rfl⟩⟩
    | some b => exact ⟨_, inStep_of_open hkey htext⟩

/-- Whatever the requests, results stand in their order. A request with a blank field is refused.
Without a credential, and without a backend, all others have the built-in lesson, and no call is
made. Else each of them makes one call, and its result is made of the reply to that call. -/
theorem run_in_step (key : Text) (backend : Option Backend) (settings : ModelSettings)
    (session : Nat → Text) (requests : List (Text × Text)) :
    let run := Author.run ⟨Phrase.ofText? key, backend, settings⟩ session requests
    run.results.length = requests.length ∧
      run.calls.length =
        (if key.isBlank ∨ backend.isNone then 0 else (Request.accepted requests).length) ∧
      (∀ i topic course, requests[i]? = some (topic, course) →
        (topic.isBlank ∨ course.isBlank →
          run.results[i]? = some (.error (.invalidRequest (Request.complaint topic)))) ∧
        (topic.isBlank = false → course.isBlank = false →
          ∃ r content, r.topic.text = topic.trim ∧ r.course.text = course.trim ∧
            run.results[i]? = some (.ok content) ∧
            run.Answers key backend settings session
              (Request.accepted (requests.take i)).length r content)) ∧
      (((List.range run.calls.length).map session).Nodup →
        (∀ j < run.calls.length, ∀ k < run.calls.length,
          (session j).length = (session k).length) →
        (run.calls.map Call.prompt).Nodup) := by
  intro run
  obtain ⟨content, hstep⟩ := exists_inStep key backend settings session requests
  refine ⟨length_results_runFrom, ?_, fun i topic course hi => ⟨fun hblank => ?_, ?_⟩, ?_⟩
  · rcases hstep.calls with ⟨hcalls, hidle⟩ | ⟨credential, hcalls, hopen⟩
    · rw [if_pos hidle, hcalls, List.length_nil]
    · rw [if_neg hopen, hcalls, List.length_mapIdx]
  · rw [hstep.results, hi, Option.map_some, Request.ofTexts_of_isBlank hblank, Except.map]
  · intro htopic hcourse
    obtain ⟨r, hr, hrtopic, hrcourse⟩ := Request.exists_ofTexts htopic hcourse
    refine ⟨r, _, hrtopic, hrcourse, ?_, hstep.answers _ r (Request.getElem?_accepted hi hr)⟩
    rw [hstep.results, hi, Option.map_some, hr, Except.map]
  · rcases hstep.calls with ⟨hcalls, -⟩ | ⟨credential, hcalls, -⟩
    · rw [hcalls]
      exact fun _ _ => List.nodup_nil
    · rw [hcalls, List.length_mapIdx]
      exact nodup_map_prompt

def sampleRequests : List (Text × Text) :=
  [("Loops", "Basics"), (" ", "Basics"), ("Loops", "Basics")]

def sampleBackend : Backend :=
  fun k _ => if k = 0 then .ok " ##TITLE## Loops\n" else .error .noContent

theorem run_in_step_sampleRequests :
    let run := Author.run ⟨Phrase.ofText? "\tsecret ", some sampleBackend, {}⟩
      (Session.identifier 7) sampleRequests
    run.calls.length = 2 ∧
      run.results[1]? = some (.error (.invalidRequest "topic is empty")) ∧
      (∃ r, r.topic.text = "Loops".toList ∧
        run.results[0]? = some (.ok (.written " ##TITLE## Loops\n")) ∧
        run.results[2]? = some (.ok (.builtIn (BuiltIn.lesson r) (.failed .noContent)))) ∧
      ∃ p q, run.calls.map Call.prompt = [p, q] ∧ p ≠ q := by
  intro run
  obtain ⟨-, hcalls, hresults, hprompts⟩ := run_in_step "\tsecret " (some sampleBackend) {}
    (Session.identifier 7) sampleRequests
  rw [if_neg (by decide)] at hcalls
  have htwo : run.calls.length = 2 := hcalls
  refine ⟨htwo, (hresults 1 _ _ rfl).1 (by decide), ?_, ?_⟩
  · obtain ⟨q, c, -, -, hc, hfirst⟩ := (hresults 0 _ _ rfl).2 (by decide) (by decide)
    obtain ⟨r, d, hr, -, hd, hlast⟩ := (hresults 2 _ _ rfl).2 (by decide) (by decide)
    obtain ⟨_, -, -, -, -, rfl⟩ := hfirst.reply (by decide) sampleBackend rfl
    obtain ⟨_, -, -, -, -, rfl⟩ := hlast.reply (by decide) sampleBackend rfl
    exact ⟨r, hr, hc, hd⟩
  · obtain ⟨p, q, hpq⟩ := List.length_eq_two.1 ((List.length_map Call.prompt).trans htwo)
    rw [htwo, hpq] at hprompts
    exact ⟨p, q, hpq, by simpa using hprompts (by decide +kernel) (by decide +kernel)⟩

end Author

end LessonText

import LessonText.CommandLine.Run
import LessonText.Proofs.Authoring.Running
import LessonText.Proofs.Settings.KeyFile

/-! The credential that settings lead to, and its way to the generator program: the first key that
is not blank counts, wherever it is stated, and it is handed on as it is. -/

namespace LessonText

namespace Phrase

variable {t : Text} {p q : Phrase}

theorem ofText?_eq_some_iff : ofText? t = some p ↔ t.isBlank = false ∧ t.trim = p.text := by
  constructor
  · intro h
    have hblank : t.isBlank = false := by
      rw [Bool.eq_false_iff, ne_eq, ← ofText?_eq_none_iff, h]
      exact Option.some_ne_none p
    obtain ⟨q, hq, htext⟩ := exists_ofText? hblank
    obtain rfl : q = p := Option.some.inj (hq.symm.trans h)
    exact ⟨hblank, htext.symm⟩
  · rintro ⟨hblank, htext⟩
    obtain ⟨q, hq, hqtext⟩ := exists_ofText? hblank
    rw [hq, ← ofText?_text q, ← ofText?_text p, hqtext, htext]

end Phrase

namespace Credential

def first? (keys : List Text) : Option Text :=
  (keys.find? (!·.isBlank)).map Text.trim

variable {keys : List Text} {k : Credential}

theorem findSome?_ofText?_eq_some_iff :
    keys.findSome? Phrase.ofText? = some k ↔ first? keys = some k.text := by
  induction keys with
  | nil => simp [first?]
  | cons t keys ih =>
    cases hblank : t.isBlank with
    | true =>
      rw [List.findSome?_cons, Phrase.ofText?_eq_none_iff.2 hblank, first?,
        List.find?_cons_of_neg (by simp [hblank])]
      exact ih
    | false =>
      obtain ⟨p, hp, -⟩ := Phrase.exists_ofText? hblank
      have hiff : Phrase.ofText? t = some k ↔ t.isBlank = false ∧ t.trim = k.text :=
        Phrase.ofText?_eq_some_iff
      rw [hp, hblank, eq_self, true_and] at hiff
      rw [List.findSome?_cons, hp, hiff, first?, List.find?_cons_of_pos (by simp [hblank]),
        Option.map_some, Option.some_inj]

theorem exists_of_first? {t : Text} (h : first? keys = some t) :
    ∃ k : Credential, k.text = t ∧ Phrase.ofText? t = some k := by
  obtain ⟨u, hu, rfl⟩ := Option.map_eq_some_iff.1 h
  have hblank : u.isBlank = false := by simpa using List.find?_some hu
  obtain ⟨k, -, hk⟩ := Phrase.exists_ofText? hblank
  exact ⟨k, hk, hk ▸ Phrase.ofText?_text k⟩

theorem findSome?_ofText?_eq_none_iff :
    keys.findSome? Phrase.ofText? = none ↔ ∀ t ∈ keys, t.isBlank := by
  simp only [List.findSome?_eq_none_iff, Phrase.ofText?_eq_none_iff]

end Credential

namespace Settings

def statedKeys (s : Settings) (e : Environment) (name : Text) : List Text :=
  (e.get? name).toList ++ s.key.toList

def keyFileText? (s : Settings) (files : FileTree) : Option Text :=
  s.keyFile.bind fun path => (files.readText (.ofText path)).toOption

def keyFileError? (s : Settings) (files : FileTree) : Option SettingsError :=
  s.keyFile.bind fun path =>
    match files.readText (.ofText path) with
    | .error c => some (.keyFileUnreadable path c)
    | .ok _ => none

def keys (s : Settings) (files : FileTree) (e : Environment) (name : Text) : List Text :=
  s.statedKeys e name ++ (s.keyFileText? files).toList

variable {s : Settings} {files : FileTree} {e : Environment} {name : Text} {k : Credential}

theorem credential_eq (s : Settings) (files : FileTree) (e : Environment) (name : Text) :
    s.credential files e name =
      match (s.statedKeys e name).findSome? Phrase.ofText?, s.keyFileError? files with
      | some k, _ => .ok (some k)
      | none, some x => .error x
      | none, none => .ok ((s.keyFileText? files).toList.findSome? Phrase.ofText?) := by
  have hstated : (s.statedKeys e name).findSome? Phrase.ofText? =
      ((e.get? name).bind Phrase.ofText?).or (s.key.bind Phrase.ofText?) := by
    rw [statedKeys, List.findSome?_append]
    cases e.get? name <;> cases s.key <;> simp
  rw [credential, hstated]
  cases ((e.get? name).bind Phrase.ofText?).or (s.key.bind Phrase.ofText?) with
  | some k => rfl
  | none =>
    cases hfile : s.keyFile with
    | none => simp [keyFileError?, keyFileText?, hfile]
    | some path =>
      cases hread : files.readText (.ofText path) <;>
        simp [keyFileError?, keyFileText?, hfile, hread, Except.toOption]

theorem keyFileError?_eq_some_iff {x : SettingsError} :
    s.keyFileError? files = some x ↔ ∃ path cause, s.keyFile = some path ∧
      files.readText (.ofText path) = .error cause ∧ x = .keyFileUnreadable path cause := by
  cases hfile : s.keyFile with
  | none => simp [keyFileError?, hfile]
  | some path =>
    cases hread : files.readText (.ofText path) <;> simp [keyFileError?, hfile, hread, eq_comm]

theorem keyFileError?_eq_none_iff :
    s.keyFileError? files = none ↔
      ∀ path, s.keyFile = some path → ∃ t, files.readText (.ofText path) = .ok t := by
  cases hfile : s.keyFile with
  | none => simp [keyFileError?, hfile]
  | some path => cases hread : files.readText (.ofText path) <;> simp [keyFileError?, hfile, hread]

theorem keyFileText?_eq_none_of_error {x : SettingsError} (h : s.keyFileError? files = some x) :
    s.keyFileText? files = none := by
  obtain ⟨path, cause, hfile, hread, -⟩ := keyFileError?_eq_some_iff.1 h
  rw [keyFileText?, hfile, Option.bind_some, hread]
  rfl

theorem credential_eq_some_iff :
    s.credential files e name = .ok (some k) ↔
      Credential.first? (s.keys files e name) = some k.text := by
  rw [keys, ← Credential.findSome?_ofText?_eq_some_iff, List.findSome?_append, credential_eq]
  cases (s.statedKeys e name).findSome? Phrase.ofText? with
  | some j => simp
  | none =>
    cases herror : s.keyFileError? files with
    | none => simp
    | some x => simp [keyFileText?_eq_none_of_error herror]

theorem credential_eq_none_iff :
    s.credential files e name = .ok none ↔
      (∀ t ∈ s.keys files e name, t.isBlank) ∧ s.keyFileError? files = none := by
  rw [keys, ← Credential.findSome?_ofText?_eq_none_iff, List.findSome?_append, credential_eq]
  cases (s.statedKeys e name).findSome? Phrase.ofText? with
  | some j => simp
  | none => cases s.keyFileError? files <;> simp

theorem credential_eq_error_iff {x : SettingsError} :
    s.credential files e name = .error x ↔
      (∀ t ∈ s.statedKeys e name, t.isBlank) ∧ s.keyFileError? files = some x := by
  rw [← Credential.findSome?_ofText?_eq_none_iff, credential_eq]
  cases (s.statedKeys e name).findSome? Phrase.ofText? with
  | some j => simp
  | none => cases s.keyFileError? files <;> simp

theorem credential_congr {files' : FileTree} (keyFile : Option Text)
    (h : ∃ t ∈ s.statedKeys e name, t.isBlank = false) :
    ({ s with keyFile } : Settings).credential files' e name = s.credential files e name := by
  have hsome : (s.statedKeys e name).findSome? Phrase.ofText? ≠ none := by
    rw [ne_eq, Credential.findSome?_ofText?_eq_none_iff]
    obtain ⟨t, ht, hblank⟩ := h
    intro hall
    rw [hall t ht] at hblank
    contradiction
  obtain ⟨j, hj⟩ := Option.ne_none_iff_exists'.1 hsome
  have hj' : (({ s with keyFile } : Settings).statedKeys e name).findSome? Phrase.ofText? =
      some j := hj
  rw [credential_eq, credential_eq, hj, hj']

end Settings

namespace Command

variable {run : Program → Environment → Text → Outcome} {w : Surroundings} {s : Settings}
  {topic course : Text} {path : Option Text} {r : Request}

def author (run : Program → Environment → Text → Outcome) (s : Settings)
    (credential : Option Credential) : Author where
  credential
  backend := (Program.ofCommand? s.command).map (·.backend run)
  settings := s.toModelSettings

theorem lesson_of_settings (hs : settings w path = .ok s)
    (hr : Request.ofTexts topic course = .ok r) :
    lesson run w topic course path =
      ((s.credential w.files w.environment Credential.variable).mapError Trouble.settings).map
        fun credential => ((author run s credential).write 0 w.session r).1 := by
  rw [lesson, hs, hr]
  change Except.bind
    ((s.credential w.files w.environment Credential.variable).mapError Trouble.settings) _ = _
  cases s.credential w.files w.environment Credential.variable <;> rfl

theorem lesson_of_credential {credential : Option Credential} (hs : settings w path = .ok s)
    (hr : Request.ofTexts topic course = .ok r)
    (hc : s.credential w.files w.environment Credential.variable = .ok credential) :
    lesson run w topic course path = .ok ((author run s credential).write 0 w.session r).1 := by
  rw [lesson_of_settings hs hr, hc]
  rfl

/-- What becomes of the credential that settings lead to. A program finds it in its variable as it
is, whatever the variable held before. -/
structure HandsOn (run : Program → Environment → Text → Outcome) (w : Surroundings) (s : Settings)
    (r : Request) (lesson : Except Trouble Content) : Prop where
  unreadable : ∀ x, s.credential w.files w.environment Credential.variable = .error x →
    lesson = .error (.settings x)
  missing : s.credential w.files w.environment Credential.variable = .ok none →
    lesson = .ok (.builtIn (BuiltIn.lesson r) .noCredential)
  unused : ∀ c, s.credential w.files w.environment Credential.variable = .ok (some c) →
    Program.ofCommand? s.command = none →
      lesson = .ok (.builtIn (BuiltIn.lesson r) (.failed .noBackend))
  found : ∀ c p, s.credential w.files w.environment Credential.variable = .ok (some c) →
    Program.ofCommand? s.command = some p →
      ∃ call, (call.environment ++ w.environment).get? Credential.variable = some c.text ∧
        lesson = .ok (.ofReply r (p.backend run 0 call))

theorem handsOn_lesson (hs : settings w path = .ok s) (hr : Request.ofTexts topic course = .ok r) :
    HandsOn run w s r (lesson run w topic course path) where
  unreadable x hx := by
    rw [lesson_of_settings hs hr, hx]
    rfl
  missing hnone := lesson_of_credential hs hr hnone
  unused c hc hp := by
    rw [lesson_of_credential hs hr hc, author, hp]
    rfl
  found c p hc hp := by
    refine ⟨Author.callFor c s.toModelSettings (fun _ => w.session) 0 r, rfl, ?_⟩
    rw [lesson_of_credential hs hr hc, author, hp]
    exact congrArg (fun q => Except.ok q.1) (Author.write_of_open (fun _ => w.session) 0 r)

end Command

namespace Settings

/-- The credential is the first key that is not blank, trimmed, and there is none if all are blank.
A key file that cannot be read is an error exactly if it is needed, and it is not even looked at if
another key is there. A command hands the credential on as it is. -/
theorem credential_resolved (s : Settings) :
    (∀ files e name,
      (∀ t, Credential.first? (s.keys files e name) = some t ↔
        ∃ c, s.credential files e name = .ok (some c) ∧ c.text = t ∧ Phrase.ofText? t = some c) ∧
      (s.credential files e name = .ok none ↔
        (∀ t ∈ s.keys files e name, t.isBlank) ∧
          ∀ path, s.keyFile = some path → ∃ t, files.readText (.ofText path) = .ok t) ∧
      (∀ x, s.credential files e name = .error x ↔
        (∀ t ∈ s.statedKeys e name, t.isBlank) ∧ ∃ path cause, s.keyFile = some path ∧
          files.readText (.ofText path) = .error cause ∧ x = .keyFileUnreadable path cause) ∧
      ((∃ t ∈ s.statedKeys e name, t.isBlank = false) → ∀ keyFile files',
        ({ s with keyFile } : Settings).credential files' e name = s.credential files e name)) ∧
    ∀ run w topic course path r, Command.settings w path = .ok s →
      Request.ofTexts topic course = .ok r →
        Command.HandsOn run w s r (Command.lesson run w topic course path) := by
  refine ⟨fun files e name => ⟨fun t => ?first, ?none, fun x => ?error, ?stated⟩, ?command⟩
  case first =>
    constructor
    · intro ht
      obtain ⟨c, rfl, haccepted⟩ := Credential.exists_of_first? ht
      exact ⟨c, credential_eq_some_iff.2 ht, rfl, haccepted⟩
    · rintro ⟨c, hc, rfl, -⟩
      exact credential_eq_some_iff.1 hc
  case none => rw [credential_eq_none_iff, keyFileError?_eq_none_iff]
  case error => rw [credential_eq_error_iff, keyFileError?_eq_some_iff]
  case stated => exact fun h keyFile files' => credential_congr keyFile h
  case command => exact fun run w topic course path r => Command.handsOn_lesson

def sampleFile : Text :=
  "[generation]\napi_key = \" \"\napi_key_file = \"key\"\ncommand = [\"cat\"]\n"

def keyed : Surroundings where
  files := ((FileTree.empty []).insert ["lesson.toml"] (.file (Utf8.encode sampleFile))).insert
    ["key"] (.file (Utf8.encode "\tsecret\n"))
  environment := [(Credential.variable, "")]
  input := .empty
  session := Session.identifier 7 7

def keyedSettings : Settings where
  key := some " "
  keyFile := some "key"
  command := ["cat"]

theorem credential_resolved_keyed :
    ∃ (c : Credential) (r : Request) (call : Call),
      keyedSettings.credential keyed.files keyed.environment Credential.variable = .ok (some c) ∧
      c.text = "secret".toList ∧
      (call.environment ++ keyed.environment).get? Credential.variable = some "secret".toList ∧
      Command.lesson (Shell.run keyed.files keyed.environment) keyed "Loops" "Basics"
          (some "lesson.toml".toList) =
        .ok (.ofReply r
          (Program.backend ⟨"cat", []⟩ (Shell.run keyed.files keyed.environment) 0 call)) ∧
      keyedSettings.credential (.empty []) [("KEY", "other")] "KEY" =
        keyedSettings.credential keyed.files [("KEY", "other")] "KEY" := by
  have hkey : keyed.files.readText (.ofText "key") = .ok "\tsecret\n" :=
    FileTree.readText_of_readBytes rfl
  have hfile : keyed.files.readText (.ofText "lesson.toml") = .ok sampleFile :=
    FileTree.readText_of_readBytes rfl
  have htoml : ofToml? sampleFile = some keyedSettings := by decide +kernel
  have hsettings : Command.settings keyed (some "lesson.toml".toList) = .ok keyedSettings := by
    have hload : load keyed.files keyed.environment "lesson.toml" keyed.account =
        .ok (some keyedSettings) := load_of_readText _ _ hfile htoml
    rw [Command.settings, hload]
    rfl
  have hfirst : Credential.first? (keyedSettings.keys keyed.files keyed.environment
      Credential.variable) = some "secret".toList := by
    have htext : keyedSettings.keyFileText? keyed.files = some "\tsecret\n".toList :=
      congrArg Except.toOption hkey
    rw [keys, htext]
    decide +kernel
  obtain ⟨hresolved, hcommand⟩ := credential_resolved keyedSettings
  obtain ⟨c, hc, htext, -⟩ := ((hresolved _ _ _).1 _).1 hfirst
  obtain ⟨r, hr, -⟩ : ∃ r, Request.ofTexts "Loops" "Basics" = .ok r ∧ _ :=
    Request.exists_ofTexts (by decide) (by decide)
  obtain ⟨call, hcall, hlesson⟩ := (hcommand _ _ _ _ _ r hsettings hr).found c ⟨"cat", []⟩ hc rfl
  have hstated := (hresolved keyed.files [("KEY", "other")] "KEY").2.2.2
    ⟨"other", by decide, by decide⟩ (some "key".toList) (.empty [])
  exact ⟨c, r, call, hc, htext, htext ▸ hcall, hlesson, hstated⟩

end Settings

end LessonText

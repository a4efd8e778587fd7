import LessonText.Proofs.Storage.Expanding
import LessonText.Proofs.Storage.Writing
import LessonText.Settings.Stored

namespace LessonText.Settings

open Expansion (Expands)
open Toml (Table Value)

def entriesOf? : Value → Option Table
  | .table _ t => some t
  | .array vs => some (names.zip vs)
  | .dateTime _ => some []
  | _ => none

def entries? (t : Text) : Option Table :=
  (Toml.Document.ofText? t).bind fun root =>
    match root.get? tableName with
    | none => some []
    | some v => entriesOf? v

/-- The second table gives settings the fields of the first, but for one that it leaves out. -/
structure Omits (name : Text) (f g : Table) : Prop where
  get?_eq_none : Table.get? g name = none
  get?_eq : ∀ {n}, n ∈ names → n ≠ name → Table.get? g n = Table.get? f n

variable {t path p name : Text} {f g : Table} {s : Settings} {files : FileTree} {e : Environment}

theorem ofValue?_eq_bind (v : Value) : ofValue? v = (entriesOf? v).bind ofTable? := by
  cases v <;> rfl

theorem ofToml?_eq_bind (t : Text) : ofToml? t = (entries? t).bind ofTable? := by
  rw [ofToml?, entries?, Option.bind_assoc]
  refine congrArg _ (funext fun root => ?_)
  cases root.get? tableName with
  | none => rfl
  | some v => exact ofValue?_eq_bind v

theorem Omits.field?_eq {α : Type} {n : Text} (h : Omits name f g) (hn : n ∈ names)
    (hne : n ≠ name) (read : Value → Option α) : field? g n read = field? f n read := by
  rw [field?, field?, h.get?_eq hn hne]

theorem Omits.ofTable?_eq (h : Omits keyFileName f g) :
    ofTable? f = (field? f keyFileName text?).bind fun keyFile =>
      (ofTable? g).map ({ · with keyFile }) := by
  have homitted : field? g keyFileName text? = some none := by rw [field?, h.get?_eq_none]
  rw [ofTable?, ofTable?, homitted, h.field?_eq (n := modelName) (by decide) (by decide),
    h.field?_eq (n := temperatureName) (by decide) (by decide),
    h.field?_eq (n := maxTokensName) (by decide) (by decide),
    h.field?_eq (n := keyName) (by decide) (by decide),
    h.field?_eq (n := commandName) (by decide) (by decide)]
  cases field? f modelName text? <;> cases field? f temperatureName temperature? <;>
    cases field? f maxTokensName maxTokens? <;> cases field? f keyName text? <;>
    cases field? f keyFileName text? <;> cases field? f commandName texts? <;> rfl

theorem get?_filter_self (f : Table) (name : Text) :
    Table.get? (f.filter (·.1 ≠ name)) name = none := by
  rw [Table.get?, List.lookup_eq_none_iff]
  intro kv hkv
  have hne : kv.1 ≠ name := of_decide_eq_true (List.mem_filter.1 hkv).2
  exact bne_iff_ne.2 hne.symm

theorem get?_filter_of_ne {n : Text} (f : Table) (h : n ≠ name) :
    Table.get? (f.filter (·.1 ≠ name)) n = Table.get? f n := by
  induction f with
  | nil => rfl
  | cons kv f ih =>
    obtain ⟨k, v⟩ := kv
    simp only [Table.get?] at ih ⊢
    by_cases hk : k = name
    · have hn : (n == k) = false := beq_false_of_ne (hk ▸ h)
      rw [List.filter_cons_of_neg (by simpa using hk), List.lookup_cons, hn, ih]
    · rw [List.filter_cons_of_pos (by simpa using hk), List.lookup_cons, List.lookup_cons, ih]

theorem omits_filter (f : Table) (name : Text) : Omits name f (f.filter (·.1 ≠ name)) where
  get?_eq_none := get?_filter_self f name
  get?_eq _ hne := get?_filter_of_ne f hne

theorem load_of_readText (e : Environment) (account : Option Text)
    (hread : files.readText (.ofText path) = .ok t) (hs : ofToml? t = some s) :
    load files e path account = .ok (some (s.expand e account)) := by
  rw [load, if_pos (FileTree.has_of_readText hread), hread]
  simp only [hs]

theorem ofTable?_of_omits (homits : Omits keyFileName f g)
    (hp : Table.get? f keyFileName = some (.string p)) :
    ofTable? f = (ofTable? g).map ({ · with keyFile := some p }) := by
  have hfield : field? f keyFileName text? = some (some p) := by
    rw [field?, hp]
    rfl
  rw [homits.ofTable?_eq, hfield, Option.bind_some]

theorem keyFile_eq_none (hg : Table.get? g keyFileName = none) (hs : ofTable? g = some s) :
    s.keyFile = none := by
  have homits : Omits keyFileName g g := ⟨hg, fun _ _ => rfl⟩
  have hfield : field? g keyFileName text? = some none := by rw [field?, hg]
  have heq := homits.ofTable?_eq
  rw [hfield, Option.bind_some, hs, Option.map_some, Option.some_inj] at heq
  rw [heq]

/-- A path to a key file never keeps settings from being loaded. It is expanded as a whole or not at
all, and the other fields are those of a document without it. -/
theorem load_keyFile (e : Environment) (account : Option Text)
    (hread : files.readText (.ofText path) = .ok t) (hs : ofToml? t = some s)
    (hf : entries? t = some f) (hp : Table.get? f keyFileName = some (.string p)) :
    ∃ u, load files e path account = .ok (some { s with keyFile := some u }) ∧
      (∀ v, Expands e account p v ↔ v = u) ∧
      ∀ files' path' t' g, FileTree.readText files' (.ofText path') = .ok t' →
        entries? t' = some g → Omits keyFileName f g →
          load files' e path' account = .ok (some { s with keyFile := none }) := by
  have homitted {g : Table} (homits : Omits keyFileName f g) :
      ∃ r, ofTable? g = some r ∧ { r with keyFile := some p } = s := by
    rwa [ofToml?_eq_bind, hf, Option.bind_some, ofTable?_of_omits homits hp,
      Option.map_eq_some_iff] at hs
  refine ⟨Expansion.path e account p, ?_, fun v => Expansion.expands_iff, ?_⟩
  · obtain ⟨r, -, rfl⟩ := homitted (omits_filter f keyFileName)
    rw [load_of_readText e account hread hs, expand, Option.map_some]
  · intro files' path' t' g hread' hg homits
    obtain ⟨r, hr, rfl⟩ := homitted homits
    have hs' : ofToml? t' = some r := by rw [ofToml?_eq_bind, hg, Option.bind_some, hr]
    rw [load_of_readText e account hread' hs', expand, keyFile_eq_none homits.get?_eq_none hr,
      Option.map_none]

def samplePlain : Text := "[generation]\nmodel = 'm'"

def sampleSet : Text :=
  "[generation]\nmodel = 'm'\napi_key_file = '~/$ROOT/$\x7bNONE:-k\x7d$$'"

def sampleUnset : Text :=
  "[generation]\nmodel = 'm'\napi_key_file = '~/$ROOT/$NONE'"

def sampleDocuments : FileTree :=
  (((FileTree.empty []).insert ["plain"] (.file (Utf8.encode samplePlain))).insert
    ["set"] (.file (Utf8.encode sampleSet))).insert ["unset"] (.file (Utf8.encode sampleUnset))

def sampleVariables : Environment :=
  [("HOME", ""), ("ROOT", "$ROOT~")]

def sampleAccount : Option Text :=
  some "/home/ada"

theorem load_keyFile_sampleDocuments :
    load sampleDocuments sampleVariables "set" sampleAccount =
        .ok (some { model := "m", keyFile := some "/home/ada/$ROOT~/k$" }) ∧
      load sampleDocuments sampleVariables "unset" sampleAccount =
        .ok (some { model := "m", keyFile := some "~/$ROOT/$NONE" }) ∧
      load sampleDocuments sampleVariables "plain" sampleAccount = .ok (some { model := "m" }) := by
  have hset : sampleDocuments.readText (.ofText "set") = .ok sampleSet :=
    FileTree.readText_of_readBytes rfl
  have hunset : sampleDocuments.readText (.ofText "unset") = .ok sampleUnset :=
    FileTree.readText_of_readBytes rfl
  have hplain : sampleDocuments.readText (.ofText "plain") = .ok samplePlain :=
    FileTree.readText_of_readBytes rfl
  have hfields (p : Text) :
      Omits keyFileName [(modelName, .string "m"), (keyFileName, .string p)]
        [(modelName, .string "m")] :=
    omits_filter [(modelName, .string "m"), (keyFileName, .string p)] keyFileName
  obtain ⟨u, hu, hreplaced, homitted⟩ := load_keyFile (p := "~/$ROOT/$\x7bNONE:-k\x7d$$")
    (s := { model := "m", keyFile := some "~/$ROOT/$\x7bNONE:-k\x7d$$" })
    (f := [(modelName, .string "m"), (keyFileName, .string "~/$ROOT/$\x7bNONE:-k\x7d$$")])
    sampleVariables sampleAccount hset (by decide +kernel) rfl rfl
  obtain ⟨w, hw, hkept, -⟩ := load_keyFile (p := "~/$ROOT/$NONE")
    (s := { model := "m", keyFile := some "~/$ROOT/$NONE" })
    (f := [(modelName, .string "m"), (keyFileName, .string "~/$ROOT/$NONE")])
    sampleVariables sampleAccount hunset (by decide +kernel) rfl rfl
  refine ⟨?_, ?_, homitted _ _ _ _ hplain rfl (hfields _)⟩
  · rw [hu, ← (hreplaced "/home/ada/$ROOT~/k$").1 (Expansion.expands_iff.2 (by decide +kernel))]
  · rw [hw, ← (hkept "~/$ROOT/$NONE").1 (Expansion.expands_iff.2 (by decide +kernel))]

end LessonText.Settings

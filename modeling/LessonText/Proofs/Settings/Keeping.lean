import LessonText.Proofs.Settings.KeyFile
import LessonText.Proofs.Toml.Fields

namespace LessonText.Settings

open Toml (Field IsBareName IsWord Table Value)

variable {files saved : FileTree} {name path : Text} {s : Settings}

def textField (name t : Text) : Field :=
  ⟨name, Toml.Written.text t, .string t⟩

def commandField (c : List Text) : Field :=
  ⟨commandName, Toml.Written.texts c, .array (c.map .string)⟩

/-- The fields that are written. A temperature is read as some double-precision number. -/
def fields (s : Settings) (temperature : Numeral.Double) : List Field :=
  [textField modelName s.model,
    ⟨temperatureName, Toml.Written.single s.temperature, .float temperature⟩,
    ⟨maxTokensName, Toml.Written.natural s.maxTokens.toNat, .integer s.maxTokens.toNat⟩] ++
    (s.key.map (textField keyName)).toList ++ (s.keyFile.map (textField keyFileName)).toList ++
    if s.command.isEmpty then [] else [commandField s.command]

theorem toToml_eq (s : Settings) (temperature : Numeral.Double) :
    s.toToml = '[' :: (tableName ++ ']' :: '\n' :: (s.fields temperature).flatMap Field.line) := by
  have hkey : ((s.key.map fun t => Toml.Written.field keyName (Toml.Written.text t)).getD []) =
      (s.key.map (textField keyName)).toList.flatMap Field.line := by
    cases s.key <;> simp [Field.line, textField]
  have hkeyFile : ((s.keyFile.map fun t =>
      Toml.Written.field keyFileName (Toml.Written.text t)).getD []) =
        (s.keyFile.map (textField keyFileName)).toList.flatMap Field.line := by
    cases s.keyFile <;> simp [Field.line, textField]
  have hcommand : (if s.command.isEmpty then [] else
      Toml.Written.field commandName (Toml.Written.texts s.command)) =
        (if s.command.isEmpty then [] else [commandField s.command]).flatMap Field.line := by
    split <;> simp [Field.line, commandField]
  rw [toToml, hkey, hkeyFile, hcommand, fields]
  simp [Field.line, textField]

theorem isBareName_of_mem (h : name ∈ names) : IsBareName name := by
  have hempty : names.all (!·.isEmpty) := rfl
  have hbare : names.all (·.all Toml.isBare) := rfl
  rw [List.all_eq_true] at hempty hbare
  exact ⟨by simpa using hempty name h, List.all_eq_true.1 (hbare name h)⟩

theorem reads_word {w : Text} {v : Value} (hname : IsBareName name) (hw : IsWord w v) :
    Field.Reads ⟨name, w, v⟩ where
  isBareName := hname
  exists_eq_cons := by
    obtain ⟨c, t, rfl⟩ := List.exists_cons_of_ne_nil hw.ne_nil
    have hc := hw.isWordCharacter c List.mem_cons_self
    exact ⟨c, t, rfl, Toml.isSpacing_of_kind hc rfl rfl⟩
  value? rest := Toml.value?_word hw (Toml.follows_cons (.inl rfl) rest)

theorem reads_textField (hname : IsBareName name) (t : Text) : (textField name t).Reads where
  isBareName := hname
  exists_eq_cons := by
    obtain ⟨c, u, htext, hc⟩ := Toml.exists_text_eq_cons t
    refine ⟨c, u, htext, ?_⟩
    obtain rfl | rfl := hc <;> decide
  value? rest := Toml.value?_text t (Toml.follows_cons (.inl rfl) rest)

theorem reads_commandField (c : List Text) : (commandField c).Reads where
  isBareName := isBareName_of_mem (show commandName ∈ names by decide)
  exists_eq_cons := by
    obtain ⟨t, ht⟩ := Toml.exists_texts_eq_cons c
    exact ⟨'[', t, ht, by decide⟩
  value? rest := Toml.value?_texts c ('\n' :: rest)

theorem reads_of_mem_fields {temperature : Numeral.Double} (s : Settings)
    (h : IsWord (Toml.Written.single s.temperature) (.float temperature)) :
    ∀ f ∈ s.fields temperature, f.Reads := by
  have hmaxTokens : IsWord (Toml.Written.natural s.maxTokens.toNat) (.integer s.maxTokens.toNat) :=
    Toml.isWord_natural (by have := s.maxTokens.toNat_lt; omega)
  intro f hf
  simp only [fields, List.mem_append, List.mem_cons, List.not_mem_nil, or_false,
    Option.mem_toList, Option.map_eq_some_iff] at hf
  obtain ((((rfl | rfl | rfl) | ⟨t, -, rfl⟩) | ⟨t, -, rfl⟩) | hf) := hf
  · exact reads_textField (isBareName_of_mem (by decide)) _
  · exact reads_word (isBareName_of_mem (by decide)) h
  · exact reads_word (isBareName_of_mem (by decide)) hmaxTokens
  · exact reads_textField (isBareName_of_mem (by decide)) t
  · exact reads_textField (isBareName_of_mem (by decide)) t
  · split at hf
    · contradiction
    · rw [List.mem_singleton.1 hf]
      exact reads_commandField s.command

theorem nodup_names (s : Settings) (temperature : Numeral.Double) :
    ((s.fields temperature).map Field.name).Nodup := by
  have hkey : List.Sublist ((s.key.map (textField keyName)).toList.map Field.name) [keyName] := by
    cases s.key <;> simp [textField]
  have hkeyFile : List.Sublist ((s.keyFile.map (textField keyFileName)).toList.map Field.name)
      [keyFileName] := by
    cases s.keyFile <;> simp [textField]
  have hcommand : List.Sublist ((if s.command.isEmpty then [] else [commandField s.command]).map
      Field.name) [commandName] := by
    split <;> simp [commandField]
  have hsublist : List.Sublist ((s.fields temperature).map Field.name) names := by
    rw [fields, List.map_append, List.map_append, List.map_append]
    exact (((List.Sublist.refl [modelName, temperatureName, maxTokensName]).append hkey).append
      hkeyFile).append hcommand
  exact hsublist.nodup (by decide)

theorem texts?_array (c : List Text) : texts? (.array (c.map .string)) = some c := by
  have hread : c.mapM (text? ∘ .string) = some (c.map id) := List.mapM_pure
  rw [texts?, List.mapM_map, hread, List.map_id]

theorem maxTokens?_integer (n : UInt32) : maxTokens? (.integer n.toNat) = some n := by
  have hlimit : (Nat.pow 2 32 : Int) = 2 ^ 32 := rfl
  have hlt := n.toNat_lt
  rw [maxTokens?, if_pos (by omega)]
  simp

theorem field?_of_get? {α : Type} {t : Table} {v : Value} {a : α} {read : Value → Option α}
    (h : Table.get? t name = some v) (hread : read v = some a) :
    field? t name read = some (some a) := by
  rw [field?, h]
  simp [hread]

theorem ofTable?_fields (s : Settings) (temperature : Numeral.Double) :
    ofTable? ((s.fields temperature).map Field.entry) =
      some { s with temperature := .ofDouble temperature } := by
  obtain ⟨⟨model, written, maxTokens⟩, key, keyFile, command⟩ := s
  generalize ht : (fields _ temperature).map Field.entry = t
  have hmodel : field? t modelName text? = some (some model) :=
    ht ▸ field?_of_get? rfl rfl
  have htemperature : field? t temperatureName temperature? =
      some (some (.ofDouble temperature)) :=
    ht ▸ field?_of_get? rfl rfl
  have hmaxTokens : field? t maxTokensName maxTokens? = some (some maxTokens) :=
    ht ▸ field?_of_get? rfl (maxTokens?_integer maxTokens)
  -- a field that is left out is looked for among all that follow it
  have hkey : field? t keyName text? = some key := by
    rw [← ht]
    cases key <;> cases keyFile <;> cases command <;> rfl
  have hkeyFile : field? t keyFileName text? = some keyFile := by
    rw [← ht]
    cases key <;> cases keyFile <;> cases command <;> rfl
  cases command with
  | nil =>
    have hcommand : field? t commandName texts? = some none := by
      rw [← ht]
      cases key <;> cases keyFile <;> rfl
    rw [ofTable?, hmodel, htemperature, hmaxTokens, hkey, hkeyFile, hcommand]
    rfl
  | cons program arguments =>
    have hget : Table.get? t commandName =
        some (.array ((program :: arguments).map .string)) := by
      rw [← ht]
      cases key <;> cases keyFile <;> rfl
    have hcommand := field?_of_get? hget (texts?_array _)
    rw [ofTable?, hmodel, htemperature, hmaxTokens, hkey, hkeyFile, hcommand]
    rfl

theorem ofToml?_toToml (s : Settings) :
    ∃ temperature, ofToml? s.toToml = some { s with temperature } := by
  obtain ⟨x, hx⟩ := Toml.isWord_single s.temperature
  have htable : IsBareName tableName := ⟨by decide, List.all_eq_true.1 rfl⟩
  have hdocument := Toml.Document.ofText?_fields htable (reads_of_mem_fields s hx) (nodup_names s x)
  have hget (t : Table) : Table.get? [(tableName, .table .header t)] tableName =
      some (.table .header t) := by
    simp [Table.get?]
  refine ⟨.ofDouble x, ?_⟩
  rw [ofToml?, toToml_eq s x, hdocument, Option.bind_some, hget]
  exact ofTable?_fields s x

theorem expand_eq_self (e : Environment) (account : Option Text)
    (h : ∀ p ∈ s.keyFile, '$' ∉ p ∧ p.head? ≠ some '~') : s.expand e account = s := by
  obtain ⟨model, key, keyFile, command⟩ := s
  cases keyFile with
  | none => rfl
  | some p =>
    obtain ⟨hdollar, htilde⟩ := h p rfl
    rw [expand, Option.map_some, Expansion.path_eq_self e account hdollar htilde]

theorem write_of_save (h : s.save files path = .ok saved) :
    ∃ made : FileTree, made.write (.ofText path) s.toToml = .ok saved := by
  rw [save] at h
  dsimp only at h
  split at h
  · exact ⟨files, h⟩
  next d hd =>
    cases hmade : files.makeDirectories d with
    | error c => simp [hmade, bind, Except.bind] at h
    | ok made =>
      rw [hmade] at h
      exact ⟨made, h⟩

/-- Saved settings are loaded as they were, but for the temperature. The path to the key file must
refer to nothing that the environment would replace. -/
theorem load_of_save (e : Environment) (account : Option Text)
    (hkeyFile : ∀ p ∈ s.keyFile, '$' ∉ p ∧ p.head? ≠ some '~')
    (hsave : s.save files path = .ok saved) :
    ∃ temperature, load saved e path account = .ok (some { s with temperature }) := by
  obtain ⟨made, hwrite⟩ := write_of_save hsave
  obtain ⟨temperature, hread⟩ := ofToml?_toToml s
  refine ⟨temperature, ?_⟩
  rw [load_of_readText e account (FileTree.readText_of_write hwrite) hread,
    expand_eq_self e account]
  exact hkeyFile

def sampleSettings : Settings where
  model := "\n\\'''\"\"\"\x01 "
  temperature := ⟨0x7FC00000⟩
  maxTokens := 4294967295
  key := some "\r'\""
  keyFile := some ""
  command := ["'", "", "\n\n\"", "\\"]

def sampleEnvironment : Environment :=
  [("HOME", "/home/ada")]

theorem load_of_save_sampleSettings :
    ∃ saved temperature, sampleSettings.save (.empty ["home"]) "new/settings.toml" = .ok saved ∧
      load saved sampleEnvironment "new/settings.toml" =
        .ok (some { sampleSettings with temperature }) := by
  have hsave : ∃ saved, sampleSettings.save (.empty ["home"]) "new/settings.toml" = .ok saved :=
    ⟨_, rfl⟩
  have hkeyFile : ∀ p ∈ sampleSettings.keyFile, '$' ∉ p ∧ p.head? ≠ some '~' := by
    rintro p ⟨⟩
    decide
  obtain ⟨saved, hsave⟩ := hsave
  obtain ⟨temperature, hload⟩ := load_of_save sampleEnvironment none hkeyFile hsave
  exact ⟨saved, temperature, hsave, hload⟩

end LessonText.Settings

import LessonText.Settings.Basic
import LessonText.Toml.Document
import LessonText.Toml.Written

namespace LessonText.Settings

open Toml (Table Value)

def tableName : Text := "generation"

def modelName : Text := "model"
def temperatureName : Text := "temperature"
def maxTokensName : Text := "max_tokens"
def keyName : Text := "api_key"
def keyFileName : Text := "api_key_file"
def commandName : Text := "command"

def names : List Text :=
  [modelName, temperatureName, maxTokensName, keyName, keyFileName, commandName]

def text? : Value → Option Text
  | .string t => some t
  | _ => none

def temperature? : Value → Option Numeral.Single
  | .float x => some (.ofDouble x)
  | .integer n =>
    if -(Nat.pow 2 63 : Int) ≤ n ∧ n < (Nat.pow 2 64 : Int) then some (.ofInt n) else none
  | _ => none

def maxTokens? : Value → Option UInt32
  | .integer n => if 0 ≤ n ∧ n < (Nat.pow 2 32 : Int) then some (.ofNat n.toNat) else none
  | _ => none

def texts? : Value → Option (List Text)
  | .array vs => vs.mapM text?
  | _ => none

def field? {α : Type} (t : Table) (name : Text) (read : Value → Option α) : Option (Option α) :=
  match t.get? name with
  | none => some none
  | some v => (read v).map some

def ofTable? (t : Table) : Option Settings := do
  let plain : Settings := {}
  let model ← field? t modelName text?
  let temperature ← field? t temperatureName temperature?
  let maxTokens ← field? t maxTokensName maxTokens?
  let key ← field? t keyName text?
  let keyFile ← field? t keyFileName text?
  let command ← field? t commandName texts?
  return {
    model := model.getD plain.model
    temperature := temperature.getD plain.temperature
    maxTokens := maxTokens.getD plain.maxTokens
    key
    keyFile
    command := command.getD plain.command }

/-- An array gives the first fields without their names, and a date gives none. -/
def ofValue? : Value → Option Settings
  | .table _ t => ofTable? t
  | .array vs => ofTable? (names.zip vs)
  | .dateTime _ => some {}
  | _ => none

def ofToml? (t : Text) : Option Settings :=
  (Toml.Document.ofText? t).bind fun root =>
    match root.get? tableName with
    | none => some {}
    | some v => ofValue? v

def toToml (s : Settings) : Text :=
  "[" ++ tableName ++ "]\n".toList ++
    Toml.Written.field modelName (Toml.Written.text s.model) ++
    Toml.Written.field temperatureName (Toml.Written.single s.temperature) ++
    Toml.Written.field maxTokensName (Toml.Written.natural s.maxTokens.toNat) ++
    ((s.key.map fun t => Toml.Written.field keyName (Toml.Written.text t)).getD []) ++
    ((s.keyFile.map fun t => Toml.Written.field keyFileName (Toml.Written.text t)).getD []) ++
    if s.command.isEmpty then [] else Toml.Written.field commandName (Toml.Written.texts s.command)

end LessonText.Settings

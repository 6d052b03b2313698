import Parcelgen.Error
import Parcelgen.Schema.Document
import Parcelgen.Text.Case
import Parcelgen.Text.Quoted
import Parcelgen.Toml.Document

/-! Schema documents read from TOML. Field names are matched without regard to letter case, values must have the type of
their field, and a key that no table used is an error. -/

namespace Parcelgen.Schema

/-- Reading a value records the keys that were used; `none` is a value of the wrong type. -/
abbrev TomlReader (α : Type) := StateT (List String) Option α

namespace TomlReader

def text : Toml.Value → TomlReader String
  | .string s => pure s
  | _ => failure

def flag : Toml.Value → TomlReader Bool
  | .bool b => pure b
  | _ => failure

/-- One field of a record: how its value goes into the record. -/
structure Field (α : Type) where
  name : String
  put : List String → Toml.Value → α → TomlReader α

def Field.ofText {α : Type} (name : String) (put : α → String → α) : Field α where
  name := name
  put _ v a := do return put a (← text v)

/-- Puts the members of a table into a record; other members are left for the check of unused keys. -/
def record {α : Type} (fields : List (Field α)) (path : List String) : List (String × Toml.Value) → α → TomlReader α
  | [], a => pure a
  | (key, v) :: rest, a => do
    match fields.find? fun f => Text.isWord f.name key with
    | none => record fields path rest a
    | some f => do
      modify (Toml.keyText (path ++ [key]) :: ·)
      record fields path rest (← f.put (path ++ [key]) v a)

def table {α : Type} [Inhabited α] (fields : List (Field α)) (path : List String) : Toml.Value → TomlReader α
  | .table members => record fields path members default
  | _ => failure

/-- An array of records. -/
def Field.ofRecords {α β : Type} [Inhabited β] (name : String) (fields : List (Field β)) (put : α → List β → α) : Field α where
  name := name
  put path v a := match v with
    | .array items => do return put a (← items.mapM (table fields path))
    | _ => failure

def fieldDecl : List (Field FieldDecl) := [
  .ofText "name" fun d s => { d with name := s },
  .ofText "type" fun d s => { d with type := s }]

def valueDecl : List (Field ValueDecl) := [
  .ofText "name" fun d s => { d with name := s },
  .ofText "value" fun d s => { d with value := s }]

def typeDecl : List (Field TypeDecl) := [
  .ofText "name" fun d s => { d with name := s },
  .ofText "kind" fun d s => { d with kind := s },
  .ofRecords "fields" fieldDecl fun d fs => { d with fields := fs },
  .ofText "storage" fun d s => { d with storage := s },
  .ofRecords "values" valueDecl fun d vs => { d with values := vs },
  .ofText "type" fun d s => { d with type := s }]

def methodDecl : List (Field MethodDecl) := [
  .ofText "name" fun d s => { d with name := s },
  .ofRecords "args" fieldDecl fun d fs => { d with args := fs },
  .ofRecords "results" fieldDecl fun d fs => { d with results := fs },
  { name := "oneway", put := fun _ v d => do return { d with oneway := (← flag v) } }]

def interfaceDecl : List (Field InterfaceDecl) := [
  .ofText "name" fun d s => { d with name := s },
  .ofRecords "methods" methodDecl fun d ms => { d with methods := ms }]

def document : List (Field Document) := [
  .ofText "package" fun d s => { d with package := s },
  .ofText "namespace" fun d s => { d with space := s },
  .ofRecords "types" typeDecl fun d ts => { d with types := ts },
  .ofRecords "interfaces" interfaceDecl fun d is => { d with interfaces := is }]

end TomlReader

/-- Schema documents are written in the later edition. -/
def tomlEdition : Toml.Edition := { relaxed := true }

/-- Reads a document; of several unused keys the first in the text is reported. -/
def Document.ofToml (text : String) : Except Error Document :=
  match decoded? with
  | none => .error (.caused { phase := .load, kind := .invalidInput, detail := "decode toml document" } (.plain "malformed document"))
  | some (keys, doc, used) =>
    match (keys.map Toml.keyText).find? fun k => !used.contains k with
    | some k => .error (.fault { phase := .load, kind := .invalidInput, detail := "unknown key " ++ Text.quote k })
    | none => .ok doc
where
  decoded? : Option (List (List String) × Document × List String) := do
    let d ← Toml.read? tomlEdition text
    return (d.keys, ← (TomlReader.record TomlReader.document [] d.root {}).run [])

end Parcelgen.Schema

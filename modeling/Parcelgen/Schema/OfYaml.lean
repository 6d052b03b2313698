import Parcelgen.Error
import Parcelgen.Schema.Document
import Parcelgen.Yaml.Value

/-! Schema documents read from YAML. Every key must be known, any scalar can be a text, and a null leaves a field as it is. -/

namespace Parcelgen.Schema

namespace YamlReader

open Yaml (Node)

/-- One field of a record: how its value goes into the record; `none` is a value of the wrong type. -/
structure Field (α : Type) where
  name : String
  put : Node → α → Option α

def Field.ofText {α : Type} (name : String) (put : α → String → α) : Field α where
  name := name
  put n a := do return ((← n.text?).map (put a)).getD a

/-- Words for a truth value beyond the standard ones. -/
def flagWord? (s : String) : Option Bool :=
  if ["y", "Y", "yes", "Yes", "YES", "on", "On", "ON"].contains s then some true
  else if ["n", "N", "no", "No", "NO", "off", "Off", "OFF"].contains s then some false
  else none

/-- A truth value, `some none` for a null. -/
def flag? : Node → Option (Option Bool)
  | .scalar tag style s =>
    match Yaml.scalarMeaning? tag style s with
    | some .null => some none
    | some (.bool b) => some (some b)
    | some (.text s) => (flagWord? s).map some
    | _ => none
  | .alias _ target => flag? target
  | _ => none

def Field.ofFlag {α : Type} (name : String) (put : α → Bool → α) : Field α where
  name := name
  put n a := do return ((← flag? n).map (put a)).getD a

def isNull (n : Node) : Bool :=
  match n with
  | .scalar .. | .alias .. => n.text? == some none
  | _ => false

/-- A record, `some none` for a null. -/
def record? {α : Type} (fields : List (Field α)) (start : α) (n : Node) : Option (Option α) :=
  if isNull n then some none
  else do
    let a ← (← n.members?).foldlM (fun a (key, v) => do (← fields.find? (·.name == key)).put v a) start
    return some a

/-- The records of a sequence, without its nulls. -/
def records? {α : Type} [Inhabited α] (fields : List (Field α)) : Node → Option (List α)
  | .sequence items => items.filterMapM (record? fields default)
  | .alias _ target => records? fields target
  | n => if isNull n then some [] else none

def Field.ofRecords {α β : Type} [Inhabited β] (name : String) (fields : List (Field β)) (put : α → List β → α) : Field α where
  name := name
  put n a := do return put a (← records? fields n)

def fieldDecl : List (Field FieldDecl) := [
  .ofText "name" fun d s => { d with name := s },
  .ofText "type" fun d s => { d with type := s }]

def valueDecl : List (Field ValueDecl) := [
  .ofText "name" fun d s => { d with name := s },
  .ofText "value" fun d s => { d with value := s }]

def typeDecl : List (Field TypeDecl) := [
  .ofText "name" fun d s => { d with name := s },
  .ofText "kind" fun d s => { d with kind := s },
  .ofRecords "fields" fieldDecl fun d fs => { d with fields := fs },
  .ofText "storage" fun d s => { d with storage := s },
  .ofRecords "values" valueDecl fun d vs => { d with values := vs },
  .ofText "type" fun d s => { d with type := s }]

def methodDecl : List (Field MethodDecl) := [
  .ofText "name" fun d s => { d with name := s },
  .ofRecords "args" fieldDecl fun d fs => { d with args := fs },
  .ofRecords "results" fieldDecl fun d fs => { d with results := fs },
  .ofFlag "oneway" fun d b => { d with oneway := b }]

def interfaceDecl : List (Field InterfaceDecl) := [
  .ofText "name" fun d s => { d with name := s },
  .ofRecords "methods" methodDecl fun d ms => { d with methods := ms }]

def document : List (Field Document) := [
  .ofText "package" fun d s => { d with package := s },
  .ofText "namespace" fun d s => { d with space := s },
  .ofRecords "types" typeDecl fun d ts => { d with types := ts },
  .ofRecords "interfaces" interfaceDecl fun d is => { d with interfaces := is }]

end YamlReader

/-- Reads the first document of a text; a text without a document is an error, a null is an empty document. -/
def Document.ofYaml (text : String) : Except Error Document :=
  match decoded? with
  | none => .error (.caused { phase := .load, kind := .invalidInput, detail := "decode yaml document" } (.plain "malformed document"))
  | some doc => .ok doc
where
  decoded? : Option Document := do
    let root ← (← Yaml.read? text)
    return (← YamlReader.record? YamlReader.document {} root).getD {}

end Parcelgen.Schema

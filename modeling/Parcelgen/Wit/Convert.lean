import Parcelgen.Package.Validate
import Parcelgen.Text.Bytes
import Parcelgen.Wit.Casing
import Parcelgen.Wit.Resolve

/-!
Component interface types as wire types. Named records, enums, flags and tuples become declarations of a package, each after those it depends
on, and resources become interfaces without methods. Every definition is converted once; one that is needed while it is being converted
contains itself.
-/

namespace Parcelgen.Wit

/-- The package so far, and the definitions already converted. -/
structure Converter where
  package : Package
  finished : List (Nat × WireType) := []

/-- Conversions keep what they have declared also when they fail. -/
abbrev Converting := ExceptT Fault (StateM Converter)

def primitiveType : Primitive → Converting WireType
  | .bool => return .scalar .bool
  | .s8 => return .scalar .int8
  | .u8 => return .scalar .uint8
  | .s16 => return .scalar .int16
  | .u16 => return .scalar .uint16
  | .s32 => return .scalar .int32
  | .u32 => return .scalar .uint32
  | .s64 => return .scalar .int64
  | .u64 => return .scalar .uint64
  | .f32 => return .scalar .float
  | .f64 => return .scalar .double
  | .char => return .scalar .uint32
  | .string => return .string
  | .errorContext => throw (.unknownKind .intake "wit.ErrorContext")

def unsupportedDef (name what : String) : Fault :=
  .unsupported .intake name (what ++ " has no fixed-layout representation")

def TypeDef.label (d : TypeDef) : String := d.name.getD "<anonymous>"

/-- The smallest unsigned storage for `n` cases. -/
def caseStorage (n : Nat) : Scalar := if n ≤ 256 then .uint8 else if n ≤ 65536 then .uint16 else .uint32

/-- The smallest unsigned storage with `n` bits. -/
def flagStorage (n : Nat) : Scalar :=
  if n ≤ 8 then .uint8 else if n ≤ 16 then .uint16 else if n ≤ 32 then .uint32 else .uint64

/-- One bit for each flag. -/
def flagValues : Nat → List String → List (String × String)
  | _, [] => []
  | i, name :: names => (upperSnakeCase name, "0x" ++ Text.hex 1 (2 ^ i)) :: flagValues (i + 1) names

/-- Declares a named type. -/
def declare (t : WireType) : Converting WireType := do
  modify fun c => { c with package := { c.package with types := c.package.types ++ [t] } }
  return t

def qualified (name : String) : Converting String := return (← get).package.qualify (pascalCase name)

/-- Members of a struct; a fault is placed at the struct and the member. -/
def structMembers (convert : TypeRef → Converting WireType) (owner : String) :
    List (String × String × TypeRef) → Converting (List (String × WireType))
  | [] => return []
  | (label, member, ref) :: rest => do
    let t ← tryCatch (convert ref) fun f => throw (f.within [owner, label])
    return (member, t) :: (← structMembers convert owner rest)

def nameless {α : Type} (detail : String) : Converting α := throw (.invalidInput .intake [] detail)

def recordType (convert : TypeRef → Converting WireType) (d : TypeDef) (fields : List (String × TypeRef)) : Converting WireType :=
  match d.name with
  | none => nameless "record has no name"
  | some name => do
    let fields ← structMembers convert name (fields.map fun (label, ref) => (label, memberName label, ref))
    declare (.struct (← qualified name) fields)

def enumType (d : TypeDef) (cases : List String) : Converting WireType :=
  match d.name with
  | none => nameless "enum has no name"
  | some name => do
    declare (.enum (← qualified name) (caseStorage cases.length) (cases.map fun c => (upperSnakeCase c, "")))

/-- Up to 64 flags are an enum of bits; more are an array of words, which is not declared. -/
def flagsType (d : TypeDef) (names : List String) : Converting WireType :=
  let n := names.length
  if n == 0 then throw (unsupportedDef d.label "empty flags")
  else if n > 64 then return .array (.scalar .uint32) (toString ((n + 31) / 32))
  else match d.name with
    | none => nameless "flags have no name"
    | some name => do declare (.enum (← qualified name) (flagStorage n) (flagValues 0 names))

def numberedFields : Nat → List TypeRef → List (String × String × TypeRef)
  | _, [] => []
  | i, ref :: refs => ("f" ++ toString i, "f" ++ toString i, ref) :: numberedFields (i + 1) refs

def tupleType (convert : TypeRef → Converting WireType) (d : TypeDef) (types : List TypeRef) : Converting WireType :=
  match d.name with
  | none => throw (unsupportedDef "tuple" "anonymous tuple")
  | some name => do
    let fields ← structMembers convert name (numberedFields 0 types)
    declare (.struct (← qualified name) fields)

def listType (convert : TypeRef → Converting WireType) (elem : TypeRef) : Converting WireType := do
  let t ← convert elem
  if t.kind? == some .array then throw (unsupportedDef t.text "list of wide flags")
  return .vector t

def resourceType (d : TypeDef) : Converting WireType :=
  match d.name with
  | none => nameless "resource has no name"
  | some name => do
    let handleName := "I" ++ pascalCase name
    let qualified := (← get).package.qualify handleName
    modify fun c => { c with package := { c.package with interfaces := c.package.interfaces ++ [{ name := handleName }] } }
    return .interface qualified

/-- The wire type of a definition, given those of the types it uses. -/
def definedType (convert : TypeRef → Converting WireType) (d : TypeDef) : Converting WireType :=
  match d.kind with
  | none => throw (unsupportedDef d.label "<nil>")
  | some (.record fields) => recordType convert d fields
  | some (.enum cases) => enumType d cases
  | some (.flags names) => flagsType d names
  | some (.tuple types) => tupleType convert d types
  | some (.list elem) => listType convert elem
  | some .resource => resourceType d
  | some (.handle resource) => convert resource
  | some .option => throw (unsupportedDef d.label "option")
  | some .result => throw (unsupportedDef d.label "result")
  | some .variant => throw (unsupportedDef d.label "variant")
  | some .future => throw (unsupportedDef d.label "Future")
  | some .stream => throw (unsupportedDef d.label "Stream")
  | some (.alias t) => convert t

namespace Resolve

/-- The wire type of a use inside the definitions `pending`. No definition is open twice, so their number bounds `fuel`. -/
def convertWithin (r : Resolve) : Nat → List Nat → TypeRef → Converting WireType
  | _, _, .absent => throw (.nilElement .intake "<nil>")
  | _, _, .primitive p => primitiveType p
  | fuel, pending, .defined id => do
    match (← get).finished.find? (·.1 == id) with
    | some (_, t) => return t
    | none =>
      let d := (r.def? id).getD {}
      if pending.contains id then throw (.cycle .intake [d.label])
      match fuel with
      | 0 => throw (.cycle .intake [d.label])
      | fuel + 1 => do
        let t ← definedType (r.convertWithin fuel (id :: pending)) d
        modify fun c => { c with finished := (id, t) :: c.finished }
        return t

def convert (r : Resolve) (t : TypeRef) : Converting WireType := r.convertWithin (r.defs.length + 1) [] t

/-- Definitions that the package declares by themselves. -/
def isDeclared (d : TypeDef) : Bool :=
  d.name.isSome &&
    match d.kind with
    | some (.record _) | some (.enum _) | some (.flags _) | some (.tuple _) | some .resource => true
    | _ => false

def convertAll (r : Resolve) : List (Option Nat) → Converting Unit
  | [] => return ()
  | none :: slots => r.convertAll slots
  | some id :: slots => do
    if isDeclared ((r.def? id).getD {}) then
      let _ ← r.convert (.defined id)
    r.convertAll slots

/-- The package of a resolve, named after its last package, in the given namespace. -/
def toPackage (r : Resolve) (space : String) : Except Fault Package :=
  match r.packages.getLast? with
  | none => .error (.invalidInput .intake [] "resolve contains no packages")
  | some root =>
    let start : Converter := { package := { name := snakeCase root, space } }
    match (r.convertAll r.slots).run start with
    | (.error f, _) => .error f
    | (.ok (), c) =>
      match c.package.validate {} with
      | .error f => .error (f.within [c.package.name])
      | .ok () => .ok c.package

end Resolve

end Parcelgen.Wit

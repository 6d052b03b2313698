import Parcelgen.Package.Validate
import Parcelgen.Schema.Document
import Parcelgen.Text.Identifier
import Parcelgen.TypeExpr.Parse

/-!
Resolution of a document into a package. Declarations may refer to each other in any order. A declaration is resolved when it is first
needed, after everything it refers to, and the package lists structs and enums in the order in which they were finished; a declaration that
is needed while it is being resolved contains itself.
-/

namespace Parcelgen.Schema

/-- Quotes a name as it is. -/
def named (s : String) : String := "\"" ++ s ++ "\""

def dropColons (s : String) : String :=
  match s.toList with
  | ':' :: ':' :: rest => String.ofList rest
  | _ => s

/-- The components of a namespace, which may start with `::`. -/
def spaceParts (s : String) : List String :=
  let s := dropColons s
  if s == "" then [] else Text.components s

/-- Names that no declaration may take. -/
def isBuiltIn (name : String) : Bool := (Scalar.ofName? name).isSome || name == "string" || name == "vec"

/-- Declarations finished so far, in order. -/
abbrev Finished := List (String × WireType)

abbrev Resolving := StateT Finished (Except Fault)

/-- What names stand for. -/
structure Scope where
  package : Package
  decls : List TypeDecl
  interfaces : List String

namespace Scope

def decl? (s : Scope) (name : String) : Option TypeDecl := s.decls.find? (·.name == name)

def invalid {α : Type} (path : List String) (detail : String) : Resolving α :=
  throw (Fault.invalidInput .resolve path detail)

/-- The type of an expression, given the types of names. -/
def build (lookup : String → Resolving WireType) : TypeExpr → Resolving WireType
  | .name ident dims => return arrays (← lookup ((Text.ofBytes? ident).getD "")) dims
  | .vector elem dims => do
    let t ← build lookup elem
    if t.kind? == some .array then
      throw (Fault.unsupported .resolve ((Text.ofBytes? (TypeExpr.vector elem dims).text).getD "") "vector elements cannot be arrays")
    return arrays (.vector t) dims
where
  /-- `T[a][b]` is an array of `a` elements, each an array of `b` elements. -/
  arrays (base : WireType) (dims : List Text.Bytes) : WireType :=
    dims.foldr (fun dim t => .array t ((Text.ofBytes? dim).getD "")) base

/-- The type that the text `src` at `path` describes. -/
def typeAt (lookup : List String → String → Resolving WireType) (path : List String) (src : String) : Resolving WireType :=
  match TypeExpr.ofText src with
  | .ok e => build (lookup path) e
  | .error f => throw (f.within path)

/-- The type of a member or parameter. A declarator has one dimension at most, so arrays of arrays are refused. -/
def declarableAt (lookup : List String → String → Resolving WireType) (path : List String) (src : String) : Resolving WireType := do
  let t ← typeAt lookup path src
  match t with
  | .array (.array _ _) _ =>
    throw ((Fault.unsupported .resolve t.text "multi-dimensional arrays cannot be declared").within path)
  | t => return t

def members (lookup : List String → String → Resolving WireType) (path : List String) (seen : List String) :
    List FieldDecl → Resolving (List (String × WireType))
  | [] => return []
  | f :: fs => do
    if !Text.isIdentifier f.name then
      invalid (path ++ ["fields"]) ("field name must be an identifier, got " ++ named f.name)
    if seen.contains f.name then throw (Fault.duplicate .resolve path "field" f.name)
    let t ← declarableAt lookup (path ++ [f.name]) f.type
    return (f.name, t) :: (← members lookup path (f.name :: seen) fs)

def enumerators (path : List String) (seen : List String) : List ValueDecl → Resolving (List (String × String))
  | [] => return []
  | v :: vs => do
    if !Text.isIdentifier v.name then
      invalid (path ++ ["values"]) ("enumerator must be an identifier, got " ++ named v.name)
    if seen.contains v.name then throw (Fault.duplicate .resolve path "enumerator" v.name)
    return (v.name, Text.trim v.value) :: (← enumerators path (v.name :: seen) vs)

def enumType (s : Scope) (path : List String) (d : TypeDecl) : Resolving WireType := do
  let storageName := if d.storage == "" then "uint32" else d.storage
  match (Scalar.ofName? storageName).filter Scalar.isInteger with
  | none => invalid (path ++ ["storage"]) ("enum storage must be an integer type, got " ++ named storageName)
  | some storage => return .enum (s.package.qualify d.name) storage (← enumerators path [] d.values)

/-- The type of a declaration, given the types of names. -/
def declType (s : Scope) (lookup : List String → String → Resolving WireType) (d : TypeDecl) : Resolving WireType :=
  let path := ["types", d.name]
  match d.kind with
  | "struct" => do return .struct (s.package.qualify d.name) (← members lookup path [] d.fields)
  | "enum" => s.enumType path d
  | "typedef" => typeAt lookup (path ++ ["type"]) d.type
  | kind => invalid path ("kind must be struct, enum or typedef, got " ++ named kind)

/-- What a name outside the document's own types stands for. -/
def builtIn? (name : String) : Option WireType :=
  match Scalar.ofName? name with
  | some scalar => some (.scalar scalar)
  | none => if name == "string" then some .string else none

/-- The type of a name that is used at `path`, inside the declarations `chain`, from outside in. The chain never repeats a name, so it
is no longer than the list of declarations, which bounds `fuel`. -/
def lookup (s : Scope) : Nat → List String → List String → String → Resolving WireType
  | fuel, chain, path, name =>
    match builtIn? name with
    | some t => return t
    | none =>
      match s.decl? name with
      | some d => do
        match (← get).find? (·.1 == name) with
        | some (_, t) => return t
        | none =>
          if chain.contains name then
            throw (Fault.cycle .resolve (chain.dropWhile (· != name) ++ [name]))
          match fuel with
          | 0 => throw (Fault.cycle .resolve (chain ++ [name]))
          | fuel + 1 => do
            let t ← s.declType (s.lookup fuel (chain ++ [name])) d
            modify (· ++ [(name, t)])
            return t
      | none =>
        if s.interfaces.contains name then return .interface (s.package.qualify name)
        else throw (Fault.notFound .resolve path "type" name)

/-- The type of a name, used at `path` outside all declarations. -/
def typeOf (s : Scope) (path : List String) (name : String) : Resolving WireType := s.lookup s.decls.length [] path name

def params (s : Scope) (path : List String) : List FieldDecl → Resolving (List Param)
  | [] => return []
  | p :: ps => do
    if !Text.isIdentifier p.name then invalid path ("parameter name must be an identifier, got " ++ named p.name)
    let t ← declarableAt s.typeOf (path ++ [p.name]) p.type
    return { name := p.name, type := t } :: (← s.params path ps)

def method (s : Scope) (path : List String) (m : MethodDecl) : Resolving Method := do
  if !Text.isIdentifier m.name then invalid path ("method name must be an identifier, got " ++ named m.name)
  let args ← s.params (path ++ [m.name, "args"]) m.args
  let results ← s.params (path ++ [m.name, "results"]) m.results
  return { name := m.name, args, results, oneway := m.oneway }

def interface (s : Scope) (i : InterfaceDecl) : Resolving Interface := do
  return { name := i.name, methods := ← i.methods.mapM (s.method ["interfaces", i.name]) }

end Scope

namespace Document

/-- Types have identifiers for names, distinct ones, and none that is built in. -/
def checkTypes (seen : List String) : List TypeDecl → Except Fault Unit
  | [] => .ok ()
  | d :: ds => do
    if !Text.isIdentifier d.name then
      throw (Fault.invalidInput .resolve ["types"] ("type name must be an identifier, got " ++ named d.name))
    if isBuiltIn d.name then throw (Fault.invalidInput .resolve ["types", d.name] "type name shadows a built-in type")
    if seen.contains d.name then throw (Fault.duplicate .resolve ["types"] "type" d.name)
    checkTypes (d.name :: seen) ds

/-- Interfaces have identifiers for names, distinct from each other and from the types in `seen`. -/
def checkInterfaces (seen : List String) : List InterfaceDecl → Except Fault Unit
  | [] => .ok ()
  | i :: is => do
    if !Text.isIdentifier i.name then
      throw (Fault.invalidInput .resolve ["interfaces"] ("interface name must be an identifier, got " ++ named i.name))
    if seen.contains i.name then throw (Fault.duplicate .resolve ["interfaces"] "interface" i.name)
    checkInterfaces (i.name :: seen) is

def checkNames (doc : Document) : Except Fault Unit := do
  if !Text.isIdentifier doc.package then
    throw (Fault.invalidInput .resolve ["package"] ("package name must be an identifier, got " ++ named doc.package))
  if !(spaceParts doc.space).all Text.isIdentifier then
    throw (Fault.invalidInput .resolve ["namespace"] ("namespace components must be identifiers, got " ++ named doc.space))
  checkTypes [] doc.types
  checkInterfaces (doc.types.map (·.name)) doc.interfaces

def scope (doc : Document) : Scope := {
  package := { name := doc.package, space := dropColons doc.space }
  decls := doc.types
  interfaces := doc.interfaces.map (·.name) }

/-- All declarations, then all interfaces. -/
def resolveAll (doc : Document) : Resolving (List Interface) := do
  for d in doc.types do
    let _ ← doc.scope.typeOf [] d.name
  doc.interfaces.mapM doc.scope.interface

/-- The finished structs and enums; typedefs leave no declaration behind. -/
def declared (doc : Document) (finished : Finished) : List WireType :=
  finished.filterMap fun (name, t) =>
    match doc.scope.decl? name with
    | some d => if d.kind == "typedef" then none else some t
    | none => none

/-- The package that a document describes. -/
def resolve (doc : Document) : Except Fault Package := do
  doc.checkNames
  let (interfaces, finished) ← (doc.resolveAll).run []
  let package : Package := { doc.scope.package with types := doc.declared finished, interfaces }
  package.validate {}
  return package

end Document

end Parcelgen.Schema

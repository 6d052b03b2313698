import Parcelgen.Browser.Variable
import Parcelgen.Declaration
import Parcelgen.Generator.Output

/-! Entries of the browser: the declared types and the method parameters of a package, and the code of each. -/

namespace Parcelgen.Browser

inductive EntryKind where
  | struct
  | enum
  | arg
  | result
deriving Repr, DecidableEq, Inhabited

def EntryKind.name : EntryKind → String
  | .struct => "struct"
  | .enum => "enum"
  | .arg => "arg"
  | .result => "result"

/-- Declared types have a declaration. -/
def EntryKind.isDeclared : EntryKind → Bool
  | .struct | .enum => true
  | _ => false

structure Entry where
  kind : EntryKind
  title : String
  /-- The variable that the code reads and writes. -/
  variableName : Text.Bytes
  type : WireType
deriving Inhabited

namespace Entry

def ofType (t : WireType) : Entry :=
  { kind := if t.kind? == some .enum then .enum else .struct, title := t.localName, variableName := variableBytes t.localName, type := t }

def ofMethod (i : Interface) (m : Method) : List Entry :=
  let owner := i.name ++ "." ++ m.name
  m.args.map (fun p => ({ kind := .arg, title := owner ++ "(" ++ p.name ++ ")", variableName := Text.bytes p.name, type := p.type } : Entry)) ++
    m.results.map fun p => { kind := .result, title := owner ++ " -> " ++ p.name, variableName := Text.bytes p.name, type := p.type }

/-- Types first, then the parameters of each method in order. -/
def ofPackage (p : Package) : List Entry :=
  p.types.map ofType ++ p.interfaces.flatMap fun i => i.methods.flatMap (ofMethod i)

/-- The declaration of a declared type, then the statements that read and write the variable. Stray bytes of the variable are held. -/
def code (e : Entry) (g : Generator) : Except Error String := do
  let name := Text.holdStrays e.variableName
  let declaration ← if e.kind.isDeclared then Layout.render (e.type.declaration g.dialect) else pure ""
  let reader ← g.snippet e.type name true
  let writer ← g.snippet e.type name false
  return (if e.kind.isDeclared then "// declaration\n" ++ declaration else "") ++
    "// read from parcel\n" ++ reader ++ "// write to parcel\n" ++ writer

/-- The bytes of a text about the entry. -/
def release (e : Entry) (s : String) : Text.Bytes :=
  if (Text.ofBytes? e.variableName).isSome then Text.bytes s else Text.releaseStrays s

end Entry

end Parcelgen.Browser

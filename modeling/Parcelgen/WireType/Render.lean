import Parcelgen.Dialect
import Parcelgen.WireType.Basic

/-!
C++ spelling of wire types. An array's dimension stands behind the declared name, so a type is spelled as a name and a suffix. One level of
suffix can be spelled: an array of arrays and a vector of arrays are refused.
-/

namespace Parcelgen

/-- The spelling of a type around a declared name: `name ident suffix`. -/
structure Spelling where
  name : String
  suffix : String := ""
deriving Repr, DecidableEq, Inhabited

namespace WireType

/-- Scalars and enums are passed by value. -/
def byValue (t : WireType) (base : String) : StorageMode → Except Fault Spelling
  | .stack | .argument | .result => .ok { name := base }
  | .unknown => .error (.unknownStorageMode t.text StorageMode.unknown.name)

/-- Larger values are passed by reference and received as a pointer. -/
def byReference (t : WireType) (base : String) : StorageMode → Except Fault Spelling
  | .stack => .ok { name := base }
  | .argument => .ok { name := "const " ++ base ++ "&" }
  | .result => .ok { name := "const " ++ base ++ "*" }
  | .unknown => .error (.unknownStorageMode t.text StorageMode.unknown.name)

/-- Handles are passed by reference and received by value. -/
def byHandle (t : WireType) (base : String) : StorageMode → Except Fault Spelling
  | .stack | .result => .ok { name := base }
  | .argument => .ok { name := "const " ++ base ++ "&" }
  | .unknown => .error (.unknownStorageMode t.text StorageMode.unknown.name)

/-- An array is received as a pointer to its first element. -/
def byElement (t : WireType) (base dim : String) : StorageMode → Except Fault Spelling
  | .stack => .ok { name := base, suffix := "[" ++ dim ++ "]" }
  | .argument => .ok { name := "const " ++ base, suffix := "[" ++ dim ++ "]" }
  | .result => .ok { name := "const " ++ base ++ "*" }
  | .unknown => .error (.unknownStorageMode t.text StorageMode.unknown.name)

/-- The spelling of a type in the given mode. -/
def spell (d : Dialect) : WireType → StorageMode → Except Fault Spelling
  | .absent, _ => .error (.nilElement .render WireType.absent.text)
  | .scalar s, mode =>
    if s.isKnown then byValue (.scalar s) s.ctype mode else .error (.unknownKind .render s.name)
  | .enum n s vs, mode => byValue (.enum n s vs) n mode
  | .string, mode => byReference .string d.stringType mode
  | .struct n fs, mode => byReference (.struct n fs) n mode
  | .interface n, mode => byHandle (.interface n) (d.strongPointerTo n) mode
  | .vector elem, mode =>
    if elem.isAbsent then .error (.nilElement .render (WireType.vector elem).text)
    else do
      let e ← elem.spell d .stack
      if e.suffix != "" then throw (.nonEmptySuffix (WireType.vector elem).text e.suffix)
      byReference (.vector elem) (d.vectorTemplate ++ "<" ++ e.name ++ ">") mode
  | .array elem dim, mode =>
    if elem.isAbsent then .error (.nilElement .render (WireType.array elem dim).text)
    else do
      let e ← elem.spell d .stack
      if e.suffix != "" then throw (.nonEmptySuffix (WireType.array elem dim).text e.suffix)
      byElement (.array elem dim) e.name dim mode

/-- Spelling with a place for the suffix. The place is the caller's: what stands in it stays there when spelling fails. -/
abbrev Placing := ExceptT Fault (StateM String)

/-- The name or the fault, and what stands in the place afterwards when `suffix` stood there before. -/
def Placing.from {α : Type} (m : Placing α) (suffix : String) : Except Fault α × String := (ExceptT.run m).run suffix

/-- Goes on only with an empty place. -/
def whenEmpty (t : WireType) (m : Placing String) : Placing String := do
  let suffix ← get
  if suffix != "" then throw (.nonEmptySuffix t.text suffix) else m

/-- Hands out a name and puts its suffix into the place. -/
def put : Except Fault Spelling → Placing String
  | .ok s => do
    set s.suffix
    return s.name
  | .error f => throw f

/-- The name of an element, spelled with a place of its own; a suffix in there could not be spelled inside `whole`. -/
def elementName (whole : WireType) (element : Placing String) : Placing String :=
  match element.from "" with
  | (.error f, _) => throw f
  | (.ok name, suffix) => if suffix != "" then throw (.nonEmptySuffix whole.text suffix) else return name

/-- Spells a type into a place, which must be empty. -/
def spellInto (d : Dialect) (t : WireType) (mode : StorageMode) : Placing String :=
  whenEmpty t <| match t with
    | .absent => throw (.nilElement .render WireType.absent.text)
    | .scalar s => if s.isKnown then put (byValue t s.ctype mode) else throw (.unknownKind .render s.name)
    | .enum n _ _ => put (byValue t n mode)
    | .string => put (byReference t d.stringType mode)
    | .struct n _ => put (byReference t n mode)
    | .interface n => put (byHandle t (d.strongPointerTo n) mode)
    | .vector elem =>
      if elem.isAbsent then throw (.nilElement .render t.text)
      else do
        let name ← elementName t (elem.spellInto d .stack)
        put (byReference t (d.vectorTemplate ++ "<" ++ name ++ ">") mode)
    | .array elem dim =>
      if elem.isAbsent then throw (.nilElement .render t.text)
      else do
        let base ← elementName t (elem.spellInto d .stack)
        put (byElement t base dim mode)

/-- Spells a type for a caller that holds a place for the suffix: there must be one, and it must be empty. -/
def spellAfter (d : Dialect) (t : WireType) (mode : StorageMode) : Option String → Except Fault Spelling
  | none => .error {
      phase := .render, kind := .invalidInput, typeName := t.text, detail := "declarator suffix output is nil" }
  | some suffix =>
    match (t.spellInto d mode).from suffix with
    | (.ok name, suffix) => .ok { name, suffix }
    | (.error f, _) => .error f

/-- `type ident suffix`, the form of variables, parameters and struct members. -/
def declarator (d : Dialect) (t : WireType) (mode : StorageMode) (ident : String) : Except Fault String := do
  let s ← t.spell d mode
  return s.name ++ " " ++ ident ++ s.suffix

end WireType

/-- The size of a value: a base type and the dimensions of the arrays around it. -/
structure ByteSize where
  base : String
  dims : List String
deriving Repr, DecidableEq, Inhabited

def ByteSize.text (s : ByteSize) : String :=
  "sizeof(" ++ s.base ++ String.join (s.dims.map fun dim => "[" ++ dim ++ "]") ++ ")"

/-- The size of one value; nested arrays are spelled as a single declarator. -/
def WireType.byteSize (d : Dialect) (t : WireType) : Except Fault ByteSize :=
  let (base, dims) := t.arrayShape
  if base.isAbsent then .error (.nilElement .emit t.text)
  else do
    let s ← base.spell d .stack
    return { base := s.name, dims }

end Parcelgen

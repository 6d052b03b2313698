import Parcelgen.Marshal.Walk

/-!
Statements that move one variable through the buffer. Scalars and enums use the buffer's typed accessors and handles its binder calls; all
other values first move as one flat block, and then their embedded content is walked from the start of that block.
-/

namespace Parcelgen

namespace Site

/-- A scalar; an enum is cast to and from its storage type `cast`. -/
def scalar (site : Site) (s : Scalar) (cast : Option String) (name : String) : List Stmt :=
  if s.isKnown then
    let transfer :=
      if site.reader then
        Transfer.readScalar s ((cast.map fun c => "(" ++ c ++ " *)").getD "" ++ "&" ++ name)
      else Transfer.writeScalar s ((cast.map fun c => "(" ++ c ++ ")").getD "" ++ name)
    [.transfer site.buffer transfer, .check site.mode]
  else [.fail (.unknownKind .emit s.name)]

/-- An enum needs integer storage. -/
def badStorage (phase : Phase) (name : String) (storage : Scalar) : Fault :=
  { phase, kind := .unsupported, typeName := name, detail := "enum storage " ++ storage.name ++ " is not an integer type" }

def enum (site : Site) (typeName : String) (storage : Scalar) (name : String) : List Stmt :=
  if storage.isInteger then site.scalar storage (some storage.ctype) name else [.fail (badStorage .emit typeName storage)]

def nullCheck (site : Site) (name : String) : Stmt :=
  let d := site.dialect
  .block ("if (" ++ name ++ " == nullptr) ") [.code (d.errVar ++ " = " ++ d.unknownError ++ ";\n"), .unwind site.mode] "\n"

/-- Moves a flat block: a reader binds `name` to it, a writer copies `extent` bytes from `source`. -/
def flatBlock (site : Site) (name type source : String) (extent : Extent) (handle : String) : List Stmt :=
  Stmt.handle handle ++
    if site.reader then [.transfer site.buffer (.readBlock name type handle), site.nullCheck name]
    else [.transfer site.buffer (.writeBlock source extent handle), .check site.mode]

def block (site : Site) (t : WireType) (name : String) : Naming (List Stmt) :=
  match t.spell site.dialect .stack with
  | .error f => return [.fail f]
  | .ok s => do
    let parent ← site.nameFor name "parent"
    let flat := site.flatBlock name s.name ("&" ++ name) (.variable name) parent
    return flat ++ (← site.walk t 0 { text := name, isPointer := site.reader } parent { base := "0" })

def nestedArray (t : WireType) : Fault :=
  { phase := .emit, kind := .nonEmptySuffix, typeName := t.text,
    detail := "top-level array of arrays has no pointer-to-element spelling" }

def array (site : Site) (elem : WireType) (dim name : String) : Naming (List Stmt) :=
  match elem.spell site.dialect .stack with
  | .error f => return [.fail f]
  | .ok s =>
    if s.suffix != "" then return [.fail (nestedArray (.array elem dim))]
    else do
      let parent ← site.nameFor name "parent"
      let flat := site.flatBlock name s.name name (.elements dim s.name) parent
      return flat ++ (← site.walk (.array elem dim) 0 { text := name } parent { base := "0" })

def interface (site : Site) (typeName name : String) : List Stmt :=
  let d := site.dialect
  if site.reader then
    let binder := d.binderVar
    [.block "" [
      .declare (d.strongPointerTo d.binderType) binder "",
      .transfer site.buffer (.readBinder ("&" ++ binder)),
      .check site.mode,
      .code (name ++ " = " ++ typeName ++ "::asInterface(" ++ binder ++ ");\n")] "\n"]
  else [
    .choice (name ++ " == nullptr") [.transfer site.buffer (.writeBinder "nullptr")]
      [.transfer site.buffer (.writeBinder (typeName ++ "::asBinder(" ++ name ++ ")"))],
    .blank,
    .check site.mode]

def emptyName (t : WireType) : Fault :=
  { phase := .emit, kind := .invalidInput, typeName := t.text, detail := "variable name is empty" }

/-- The statements that read or write the variable `name`. A reader binds `name`, which is declared in result mode, to the buffer's
storage; a writer reads from it. -/
def topLevel (site : Site) (t : WireType) (name : String) : Naming (List Stmt) :=
  if name == "" then return [.fail (emptyName t)]
  else match t.missing? with
    | some f => return [.fail f]
    | none =>
      match t with
      | .absent => return [.fail (.nilElement .emit t.text)]
      | .scalar s => return site.scalar s none name
      | .enum typeName storage _ => return site.enum typeName storage name
      | .string | .vector _ | .struct _ _ => site.block t name
      | .array elem dim => site.array elem dim name
      | .interface typeName => return site.interface typeName name

end Site

end Parcelgen

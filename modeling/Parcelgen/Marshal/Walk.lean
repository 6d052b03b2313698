import Parcelgen.Marshal.Site

/-!
The walk over content that is not in the block itself: strings, the elements of vectors and interface handles, found through struct members,
array elements and vector elements. Offsets count from the block that holds the value; below a vector they start again, because its
elements are a block of their own.
-/

namespace Parcelgen

namespace WireType

mutual

/-- The first missing element or member in the tree, looking at a node before what is below it. -/
def missing? : WireType → Option Fault
  | .vector elem => if elem.isAbsent then some (.nilElement .emit (WireType.vector elem).text) else elem.missing?
  | .array elem dim => if elem.isAbsent then some (.nilElement .emit (WireType.array elem dim).text) else elem.missing?
  | .struct name fields => missingMember? name fields
  | .absent | .scalar _ | .string | .enum _ _ _ | .interface _ => none

def missingMember? (name : String) : List (String × WireType) → Option Fault
  | [] => none
  | (field, t) :: rest =>
    if t.isAbsent then
      some { phase := .emit, kind := .nilElement, path := [name, field], typeName := name, detail := "member type is nil" }
    else match t.missing? with
      | some f => some (f.within [name, field])
      | none => missingMember? name rest

end

end WireType

namespace Site

/-- The call that resolves a string's characters. -/
def embeddedString (site : Site) (place : Place) (parent : String) (offset : Offset) : List Stmt :=
  let d := site.dialect
  let call : EmbeddedCall :=
    if site.reader then
      { node := .string, callee := "const_cast<" ++ d.stringType ++ " &>(" ++ place.value ++ ")." ++ d.readEmbedded,
        carried := site.buffer.ref, parent, offset }
    else { node := .string, callee := place.select ++ d.writeEmbedded, carried := site.buffer.ptr, parent, offset }
  [.embedded call, .check site.mode]

/-- The call that resolves a vector's elements. -/
def embeddedVector (site : Site) (type : String) (place : Place) (parent : String) (offset : Offset) (child : String) : List Stmt :=
  let d := site.dialect
  let call : EmbeddedCall :=
    if site.reader then
      { node := .vector child, callee := "const_cast<" ++ type ++ " &>(" ++ place.value ++ ")." ++ d.readEmbedded,
        carried := site.buffer.ref, parent, offset }
    else { node := .vector child, callee := place.select ++ d.writeEmbedded, carried := site.buffer.ptr, parent, offset }
  Stmt.handle child ++ [.embedded call, .check site.mode]

/-- The call that resolves a handle stored in the block. -/
def embeddedBinder (site : Site) (name : String) (place : Place) (parent : String) (offset : Offset) : List Stmt :=
  let d := site.dialect
  let value := place.value
  if site.reader then
    let binder := d.binderVar
    [.block "" [
      .declare (d.strongPointerTo d.binderType) binder "",
      .embedded {
        node := .binder, callee := site.buffer.call ++ d.readEmbeddedBinder, carried := "&" ++ binder, parent, offset },
      .check site.mode,
      .code ("const_cast<" ++ d.strongPointerTo name ++ " &>(" ++ value ++ ") = " ++ name ++ "::asInterface(" ++ binder ++ ");\n")] "\n"]
  else
    let binder := "(" ++ value ++ " == nullptr ? nullptr : " ++ name ++ "::asBinder(" ++ value ++ "))"
    [.embedded { node := .binder, callee := site.buffer.call ++ d.writeEmbeddedBinder, carried := binder, parent, offset },
      .check site.mode]

/-- Leaving an element loop would let the walk carry on after a failure, so that way to unwind is refused in front of one. -/
def loopRefused (t : WireType) : Fault :=
  { phase := .emit, kind := .unsupported, typeName := t.text, detail := "break cannot unwind out of an element loop" }

/-- A loop over elements of type `elem`, unless their size has no spelling or the mode cannot leave a loop. -/
def elementLoop (site : Site) (whole elem : WireType) (depth : Nat) (bound : Bound)
    (body : String → ByteSize → Naming (List Stmt)) : Naming (List Stmt) :=
  match elem.byteSize site.dialect with
  | .error f => return [.fail f]
  | .ok size =>
    if site.mode == .exit then return [.fail (loopRefused whole)]
    else do
      let index := site.dialect.indexVar depth
      return [.loop index bound (← body index size)]

mutual

/-- The statements for the embedded content of a value at `place`, which lies at `offset` in the block `parent`, inside `depth` loops. -/
def walk (site : Site) : WireType → Nat → Place → String → Offset → Naming (List Stmt)
  | .string, _, place, parent, offset => return site.embeddedString place parent offset
  | .interface name, _, place, parent, offset => return site.embeddedBinder name place parent offset
  | .struct name fields, depth, place, parent, offset => site.walkMembers name fields depth place parent offset
  | .array elem dim, depth, place, parent, offset =>
    if elem.isEmbedded then
      site.elementLoop (.array elem dim) elem depth (.dimension dim) fun index size =>
        site.walk elem (depth + 1) (Place.element place.text index) parent (offset.step (.element index size))
    else return []
  | .vector elem, depth, place, parent, offset =>
    match (WireType.vector elem).spell site.dialect .stack with
    | .error f => return [.fail f]
    | .ok s => do
      let child ← site.nameFor place.text "child"
      let call := site.embeddedVector s.name place parent offset child
      if elem.isEmbedded then
        let loop ← site.elementLoop (.vector elem) elem depth (.elementsOf place.vector) fun index size =>
          site.walk elem (depth + 1) (Place.element place.vector index) child { base := "0", terms := [.element index size] }
        return call ++ loop
      else return call
  | .absent, _, _, _, _ | .scalar _, _, _, _, _ | .enum _ _ _, _, _, _, _ => return []

def walkMembers (site : Site) (name : String) :
    List (String × WireType) → Nat → Place → String → Offset → Naming (List Stmt)
  | [], _, _, _, _ => return []
  | (field, t) :: rest, depth, place, parent, offset => do
    let here ←
      if t.isEmbedded then do
        let body ← site.walk t depth (place.member field) parent (offset.step (.member name field))
        pure [Stmt.within [name, field] body]
      else pure []
    return here ++ (← site.walkMembers name rest depth place parent offset)

end

/-- The walk over the embedded content of a value; nothing is emitted, and no name taken, for a tree with a missing part. -/
def embedded (site : Site) (t : WireType) (place : Place) (parent offset : String) : Naming (List Stmt) :=
  match t.missing? with
  | some f => return [.fail f]
  | none => site.walk t 0 place parent { base := offset }

end Site

end Parcelgen

import Parcelgen.Json.Read
import Parcelgen.Wit.Resolve

/-!
The JSON form of resolved component interfaces. Members are taken in their order; unknown ones, and values of a shape that does not fit,
are passed over. A number refers to the definition in that slot and reserves the slot when nothing is there yet. A definition takes over what was
reserved for its slot before it started; a reference to its own slot while it is read, with nothing reserved, stays with the empty
definition it reserves.
-/

namespace Parcelgen.Wit

/-- Definitions and slots so far. -/
structure Table where
  defs : List TypeDef := []
  slots : List (Option Nat) := []

abbrev Decoding := StateT Table Option

namespace Table

def slot? (t : Table) (i : Nat) : Option Nat := (t.slots[i]?).join

/-- Puts a definition into a slot; slots in between stay empty. -/
def setSlot (t : Table) (i : Nat) (id : Option Nat) : Table :=
  { t with slots := (t.slots ++ List.replicate (i + 1 - t.slots.length) none).set i id }

def add (t : Table) (d : TypeDef) : Nat × Table := (t.defs.length, { t with defs := t.defs ++ [d] })

def update (t : Table) (id : Nat) (f : TypeDef → TypeDef) : Table := { t with defs := t.defs.modify id f }

end Table

/-- The definition that a number refers to; a negative one refers to none. -/
def reference (i : Int) : Decoding TypeRef :=
  match i with
  | .negSucc _ => return .absent
  | .ofNat i => do
    let t ← get
    match t.slot? i with
    | some id => return .defined id
    | none =>
      let (id, t) := t.add {}
      set (t.setSlot i (some id))
      return .defined id

/-- A type: the name of a primitive or the number of a definition. -/
def typeRef (v : Json) : Decoding TypeRef :=
  match v with
  | .string s => do return .primitive (← Primitive.ofName? s)
  | v =>
    match v.int? with
    | some i => reference i
    | none => return .absent

def members (v : Json) : List (String × Json) := (v.object?).getD []

def items (v : Json) : List Json := (v.array?).getD []

/-- The items of the last list under a key. -/
def listAt (v : Json) (key : String) : List Json := ((v.get? key).map items).getD []

def nameOf (v : Json) : String := ((v.get? "name").bind Json.string?).getD ""

/-- A name and a type. -/
def fieldOf (v : Json) : Decoding (String × TypeRef) := do
  let ref ← match v.get? "type" with
    | some t => typeRef t
    | none => pure .absent
  return (nameOf v, ref)

/-- A handle without a resource has no kind. -/
def handleKind (v : Json) : Decoding (Option Kind) := do
  let mut kind := none
  for (key, value) in members v do
    if key == "own" || key == "borrow" then
      let ref ← match value.int? with
        | some i => reference i
        | none => pure TypeRef.absent
      kind := some (.handle ref)
  return kind

/-- The kind that a member of a kind object gives. -/
def kindMember (key : String) (v : Json) (before : Option Kind) : Decoding (Option Kind) :=
  match key with
  | "record" => do return some (.record (← (listAt v "fields").mapM fieldOf))
  | "enum" => return some (.enum ((listAt v "cases").map nameOf))
  | "flags" => return some (.flags ((listAt v "flags").map nameOf))
  | "tuple" => do return some (.tuple (← (listAt v "types").mapM typeRef))
  | "list" => do return some (.list (← typeRef v))
  | "option" => do
    let _ ← typeRef v
    return some .option
  | "result" => do
    for (key, value) in members v do
      if key == "ok" || key == "err" then
        let _ ← typeRef value
    return some .result
  | "variant" => do
    let _ ← (listAt v "cases").mapM fieldOf
    return some .variant
  | "future" => do
    let _ ← typeRef v
    return some .future
  | "stream" => do
    let _ ← typeRef v
    return some .stream
  | "handle" => handleKind v
  | "type" => do
    match v with
    | .string _ => return some (.alias (← typeRef v))
    | v => if (v.int?).isSome then return some (.alias (← typeRef v)) else return none
  | _ => return before

def kindOf (v : Json) : Decoding (Option Kind) :=
  match v with
  | .string "resource" => return some .resource
  | .string "error-context" => return some (.alias (.primitive .errorContext))
  | v => do
    let mut kind := none
    for (key, value) in members v do
      kind ← kindMember key value kind
    return kind

/-- Reads what stands in slot `i`. -/
def slotDef (i : Nat) (v : Json) : Decoding Unit := do
  match v with
  | .object [] => modify fun t => t.setSlot i (t.slot? i)
  | .object members =>
    let t ← get
    let (id, t) := match t.slot? i with
      | some id => (id, t)
      | none => t.add {}
    set t
    for (key, value) in members do
      match key with
      | "name" => modify fun t => t.update id fun d => { d with name := value.string? }
      | "kind" =>
        let kind ← kindOf value
        modify fun t => t.update id fun d => { d with kind }
      | _ => pure ()
    modify fun t => t.setSlot i (some id)
  | v =>
    match v.int? with
    | some n =>
      let ref ← reference n
      let id := match ref with
        | .defined id => some id
        | _ => none
      modify fun t => t.setSlot i id
    | none => modify fun t => t.setSlot i (t.slot? i)

def slotDefs : Nat → List Json → Decoding Unit
  | _, [] => return ()
  | i, v :: vs => do
    slotDef i v
    slotDefs (i + 1) vs

/-! Package names are `namespace:name`, with an optional extension and version. -/

def cut (sep : Char) (s : List Char) : List Char × Option (List Char) :=
  match s.dropWhile (· != sep) with
  | [] => (s, none)
  | _ :: rest => (s.takeWhile (· != sep), some rest)

def dropPercent : List Char → List Char
  | '%' :: cs => cs
  | cs => cs

/-- Words of one letter case joined by single dashes; a digit never starts a word. -/
def isKebab (before : Option Char) : List Char → Bool
  | [] => before.any (· != '-')
  | c :: cs =>
    let ok :=
      match before with
      | none => c.isAlpha
      | some b =>
        if c.isLower then !b.isUpper
        else if c.isUpper then !b.isLower
        else if c.isDigit then b != '-'
        else c == '-' && b != '-'
    ok && isKebab (some c) cs

def isVersionWord (s : List Char) : Bool := !s.isEmpty && s.all fun c => c.isAlphanum || c == '-'

def splitOn (sep : Char) : List Char → List (List Char)
  | [] => [[]]
  | c :: cs =>
    if c == sep then [] :: splitOn sep cs
    else match splitOn sep cs with
      | part :: more => (c :: part) :: more
      | [] => [[c]]

def isVersionTail (s : Option (List Char)) : Bool :=
  match s with
  | none | some [] => true
  | some s => (splitOn '.' s).all isVersionWord

def isVersionNumber (s : List Char) : Bool :=
  !s.isEmpty && s.all Char.isDigit && s.foldl (fun n c => n * 10 + (c.toNat - '0'.toNat)) 0 < Nat.pow 2 63

/-- Three numbers joined by dots, with optional words after `-` and `+`. -/
def isVersion (s : List Char) : Bool :=
  let (s, metadata) := cut '+' s
  let (s, preRelease) := cut '-' s
  let numbers := splitOn '.' s
  numbers.length == 3 && numbers.all isVersionNumber && isVersionTail preRelease && isVersionTail metadata

/-- The name part of a package name. -/
def packageName (s : String) : Option String :=
  let (name, version) := cut '@' s.toList
  let (base, extension) := cut '/' name
  let (space, name) := cut ':' base
  let space := dropPercent space
  let name := dropPercent (name.getD [])
  let extension := dropPercent (extension.getD [])
  let ok := ((version.map isVersion).getD true) && isKebab none space && isKebab none name &&
    (extension.isEmpty || isKebab none extension)
  if ok then some (String.ofList name) else none

/-- A package; only its name counts. -/
def packageOf (v : Json) : Decoding String := do
  match v.get? "name" with
  | some (.string s) => packageName s
  | some (.number _) => failure
  | _ => return ""

/-! References of interfaces and worlds reserve slots, too. -/

def functionRefs (v : Json) : Decoding Unit := do
  for (key, value) in members v do
    match key with
    | "params" => let _ ← (items value).mapM fieldOf
    | "results" => let _ ← (items value).mapM fieldOf
    | "result" => let _ ← typeRef value
    | "kind" =>
      for (key, value) in members value do
        if key == "method" || key == "static" || key == "constructor" then
          let _ ← typeRef value
    | _ => pure ()

def interfaceRefs (v : Json) : Decoding Unit := do
  for (key, value) in members v do
    match key with
    | "types" =>
      for (_, t) in members value do
        if let some i := t.int? then
          let _ ← reference i
    | "functions" =>
      for (_, f) in members value do
        functionRefs f
    | _ => pure ()

def worldRefs (v : Json) : Decoding Unit := do
  for (key, value) in members v do
    if key == "imports" || key == "exports" then
      for (_, item) in members value do
        for (key, value) in members item do
          match key with
          | "function" => functionRefs value
          | "type" =>
            if let some i := value.int? then
              let _ ← reference i
          | _ => pure ()

/-- The packages of a resolve; definitions are left in the table. -/
def decodeMembers (packages : List String) : List (String × Json) → Decoding (List String)
  | [] => return packages
  | (key, value) :: rest => do
    match key with
    | "worlds" =>
      for w in items value do
        worldRefs w
      decodeMembers packages rest
    | "interfaces" =>
      for i in items value do
        interfaceRefs i
      decodeMembers packages rest
    | "types" => do
      slotDefs 0 (items value)
      decodeMembers packages rest
    | "packages" => do decodeMembers (← (items value).mapM packageOf) rest
    | _ => decodeMembers packages rest

/-- Reads a resolve, unless a type or package name in it is malformed. -/
def Resolve.ofJson? (v : Json) : Option Resolve := do
  let (packages, table) ← (decodeMembers [] (members v)).run {}
  return { defs := table.defs, slots := table.slots, packages }

/-- Reads the text of a resolve. -/
def Resolve.ofText? (text : String) : Option Resolve := do Resolve.ofJson? (← Json.readFirst? text)

end Parcelgen.Wit

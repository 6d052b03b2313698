import Parcelgen.Yaml.Tokens

/-! YAML nodes, and the first document of a text as a node. -/

namespace Parcelgen.Yaml

inductive Node where
  /-- A scalar with its tag, if one is written. -/
  | scalar (tag : Option String) (style : Style) (text : String)
  | sequence (items : List Node)
  | mapping (entries : List (Node × Node))
  /-- A reference to an anchored node. -/
  | alias (name : String) (target : Node)
  /-- A reference to a node from inside of it. -/
  | enclosing (name : String)
deriving Repr, Inhabited

/-- An empty plain scalar. -/
def Node.empty : Node := .scalar none .plain ""

/-- Anchors, latest first; a node that is still being read has none yet. -/
abbrev Anchors := List (String × Option Node)

structure Composer where
  tokens : List Token
  anchors : Anchors := []
  handles : List (String × String) := []
deriving Inhabited

abbrev Compose (α : Type) := StateT Composer Option α

namespace Compose

/-- The next token. Two tokens beyond it must be well formed as well. -/
def peek : Compose Token := do
  let s ← get
  if (s.tokens.take 3).contains .malformed then failure
  return s.tokens.headD .streamEnd

def skip : Compose Unit := modify fun s => { s with tokens := s.tokens.tail }

/-- Takes the next token if it is `t`. -/
def accept (t : Token) : Compose Bool := do
  if (← peek) == t then
    skip
    return true
  return false

def openAnchor (name : Option String) : Compose Unit :=
  match name with
  | none => pure ()
  | some name => modify fun s => { s with anchors := (name, none) :: s.anchors }

/-- Gives the innermost open anchor of a name its node. -/
def fill (name : String) (n : Node) : Anchors → Anchors
  | [] => []
  | (k, v) :: rest => if k == name && v.isNone then (k, some n) :: rest else (k, v) :: fill name n rest

def closeAnchor (name : Option String) (n : Node) : Compose Node := do
  match name with
  | none => pure ()
  | some name => modify fun s => { s with anchors := fill name n s.anchors }
  return n

def reference (name : String) : Compose Node := do
  match (← get).anchors.lookup name with
  | none => failure
  | some none => return .enclosing name
  | some (some n) => return .alias name n

/-- The full tag of a handle and what follows it. -/
def fullTag (handle tail : String) : Compose String := do
  if handle == "" then return tail
  match (← get).handles.lookup handle with
  | some lead => return lead ++ tail
  | none => failure

/-- Anchor and tag in front of a node, in either order. -/
def properties : Compose (Option String × Option String) := do
  match ← peek with
  | .anchor name => do
    skip
    match ← peek with
    | .tag handle tail => do
      skip
      return (some name, some (← fullTag handle tail))
    | _ => return (some name, none)
  | .tag handle tail => do
    skip
    match ← peek with
    | .anchor name => do
      skip
      return (some name, some (← fullTag handle tail))
    | _ => return (none, some (← fullTag handle tail))
  | _ => return (none, none)

mutual

/-- A node; block collections only where `inBlock`, and a sequence at the column of its key only where `dashes`. -/
def node (inBlock dashes : Bool) : Nat → Compose Node
  | 0 => failure
  | fuel + 1 => do
    match ← peek with
    | .alias name => do
      skip
      reference name
    | _ => do
      let (anchor, tag) ← properties
      openAnchor anchor
      match ← peek with
      | .blockEntry =>
        if dashes then closeAnchor anchor (.sequence (← dashEntries fuel))
        else if anchor.isSome || tag.isSome then closeAnchor anchor (.scalar tag .plain "")
        else failure
      | .scalar text style => do
        skip
        closeAnchor anchor (.scalar tag style text)
      | .flowSequenceStart => do
        skip
        closeAnchor anchor (.sequence (← flowItems true fuel))
      | .flowMappingStart => do
        skip
        closeAnchor anchor (.mapping (← flowEntries true fuel))
      | t =>
        if t == .blockSequenceStart && inBlock then do
          skip
          closeAnchor anchor (.sequence (← blockItems fuel))
        else if t == .blockMappingStart && inBlock then do
          skip
          closeAnchor anchor (.mapping (← blockEntries fuel))
        else if anchor.isSome || tag.isSome then closeAnchor anchor (.scalar tag .plain "")
        else failure

/-- A node, or an empty scalar in front of one of the tokens `ends`. -/
def nodeUnless (ends : List Token) (inBlock dashes : Bool) : Nat → Compose Node
  | 0 => failure
  | fuel + 1 => do if ends.contains (← peek) then return .empty else node inBlock dashes fuel

/-- The items of a block sequence. -/
def blockItems : Nat → Compose (List Node)
  | 0 => failure
  | fuel + 1 => do
    if ← accept .blockEntry then
      let first ← nodeUnless [.blockEntry, .blockEnd] true false fuel
      return first :: (← blockItems fuel)
    else if ← accept .blockEnd then return []
    else failure

/-- The items of a sequence at the column of its key. -/
def dashEntries : Nat → Compose (List Node)
  | 0 => failure
  | fuel + 1 => do
    if ← accept .blockEntry then
      let first ← nodeUnless [.blockEntry, .key, .value, .blockEnd] true false fuel
      return first :: (← dashEntries fuel)
    else return []

/-- The entries of a block mapping. -/
def blockEntries : Nat → Compose (List (Node × Node))
  | 0 => failure
  | fuel + 1 => do
    if ← accept .key then
      let key ← nodeUnless [.key, .value, .blockEnd] true true fuel
      let value ← if ← accept .value then nodeUnless [.key, .value, .blockEnd] true true fuel else pure .empty
      return (key, value) :: (← blockEntries fuel)
    else if ← accept .blockEnd then return []
    else failure

/-- The items of a flow sequence; an item with a key is a mapping of one entry. -/
def flowItems (first : Bool) : Nat → Compose (List Node)
  | 0 => failure
  | fuel + 1 => do
    if ← accept .flowSequenceEnd then return []
    if !first && !(← accept .flowEntry) then failure
    if ← accept .flowSequenceEnd then return []
    let item ← if ← accept .key then flowPair fuel else node false false fuel
    return item :: (← flowItems false fuel)

def flowPair : Nat → Compose Node
  | 0 => failure
  | fuel + 1 => do
    let key ←
      if [Token.value, .flowEntry, .flowSequenceEnd].contains (← peek) then do
        skip
        pure .empty
      else node false false fuel
    let value ← if ← accept .value then nodeUnless [.flowEntry, .flowSequenceEnd] false false fuel else pure .empty
    return .mapping [(key, value)]

/-- The entries of a flow mapping; a key alone has an empty value. -/
def flowEntries (first : Bool) : Nat → Compose (List (Node × Node))
  | 0 => failure
  | fuel + 1 => do
    if ← accept .flowMappingEnd then return []
    if !first && !(← accept .flowEntry) then failure
    if ← accept .flowMappingEnd then return []
    let entry ←
      if ← accept .key then do
        let key ← nodeUnless [.value, .flowEntry, .flowMappingEnd] false false fuel
        let value ← if ← accept .value then nodeUnless [.flowEntry, .flowMappingEnd] false false fuel else pure .empty
        pure (key, value)
      else do pure (← node false false fuel, .empty)
    return entry :: (← flowEntries false fuel)

end

def standardHandles : List (String × String) := [("!", "!"), ("!!", "tag:yaml.org,2002:")]

/-- The directives in front of a document. -/
def directives : Nat → Bool → List (String × String) → Compose (Bool × List (String × String))
  | 0, _, _ => failure
  | fuel + 1, versioned, handles => do
    match ← peek with
    | .version major minor => do
      if versioned || major != 1 || minor != 1 then failure
      skip
      directives fuel true handles
    | .tagDirective handle lead => do
      if (handles.lookup handle).isSome then failure
      skip
      directives fuel versioned ((handle, lead) :: handles)
    | _ => return (versioned, handles)

/-- The root node of the first document, if there is a document. -/
def document (fuel : Nat) : Compose (Option Node) := do
  match ← peek with
  | .streamEnd => return none
  | .version .. | .tagDirective .. | .documentStart => do
    let (_, handles) ← directives fuel false []
    modify fun s => { s with handles := handles ++ standardHandles }
    if !(← accept .documentStart) then failure
    match ← peek with
    | .version .. | .tagDirective .. | .documentStart | .documentEnd | .streamEnd => return some .empty
    | _ => return some (← closed (← node true false fuel))
  | _ => do
    modify fun s => { s with handles := standardHandles }
    return some (← closed (← node true false fuel))
where
  /-- The token after a document must be well formed as well. -/
  closed (n : Node) : Compose Node := do
    discard peek
    return n

end Compose

/-- The root node of the first document of a text: `none` if the text is no YAML, `some none` if it holds no document. -/
def read? (text : String) : Option (Option Node) :=
  let ts := tokens text
  ((Compose.document (2 * ts.length + 4)).run { tokens := ts }).map (·.1)

end Parcelgen.Yaml

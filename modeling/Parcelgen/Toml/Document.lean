import Parcelgen.Text.Bytes
import Parcelgen.Toml.Statement

/-! TOML documents: the root table that the statements of a text build, and the keys they define in order. -/

namespace Parcelgen.Toml

/-- What made a table. -/
inductive Origin where
  /-- A header that names a table inside of it. -/
  | implied
  /-- A dotted key. -/
  | dotted
  /-- Its own header. -/
  | header
deriving Repr, DecidableEq, Inhabited

/-- A table under construction. -/
inductive Node where
  | value (v : Value)
  | table (origin : Origin) (members : List (String × Node))
  /-- An array of tables, the latest element first. -/
  | tables (elements : List (List (String × Node)))
deriving Repr, Inhabited

abbrev Members := List (String × Node)

def Members.put (key : String) (node : Node) : Members → Members
  | [] => [(key, node)]
  | (k, n) :: rest => if k == key then (k, node) :: rest else (k, n) :: Members.put key node rest

/-- Applies `f` to the table at a path, where an array of tables stands for its latest element. Missing tables come to be on the way, made by
`origin`. A path cannot lead through any other value, nor through a table that `passes` refuses. -/
def Members.atPath (passes : Option Origin → Bool) (origin : Origin) (f : Members → Option Members) :
    List String → Members → Option Members
  | [], m => f m
  | key :: path, m =>
    match m.lookup key with
    | none => do return m.put key (.table origin (← Members.atPath passes origin f path []))
    | some (.table o inner) => do
      if passes (some o) then return m.put key (.table o (← Members.atPath passes origin f path inner)) else none
    | some (.tables (latest :: older)) => do
      if passes none then return m.put key (.tables ((← Members.atPath passes origin f path latest) :: older)) else none
    | some _ => none

/-- Headers lead through all tables. -/
def Members.atHeader (f : Members → Option Members) (path : List String) (m : Members) : Option Members :=
  Members.atPath (fun _ => true) .implied f path m

/-- Dotted keys lead through tables that dotted keys have made, and through others only if the edition allows it. -/
def Members.atDotted (ed : Edition) (f : Members → Option Members) (path : List String) (m : Members) : Option Members :=
  Members.atPath (fun o => ed.relaxed || o == some .dotted) .dotted f path m

/-- A header for a table that has had none. -/
def Members.openTable (ed : Edition) (key : String) (m : Members) : Option Members :=
  match m.lookup key with
  | none => some (m.put key (.table .header []))
  | some (.table o inner) => if o == .implied || (o == .dotted && ed.relaxed) then some (m.put key (.table .header inner)) else none
  | some _ => none

/-- Gives a key its value. A second value is an error; only a table that has had no header swallows it, if the edition allows it. -/
def Members.define (ed : Edition) (key : String) (v : Value) (m : Members) : Option Members :=
  match m.lookup key with
  | none => some (m.put key (.value v))
  | some (.table o inner) => if o != .header && ed.relaxed then some (m.put key (.table .header inner)) else none
  | some _ => none

/-- Appends an empty element to an array of tables. -/
def Members.extend (key : String) (m : Members) : Option Members :=
  match m.lookup key with
  | none => some (m.put key (.tables [[]]))
  | some (.tables elements) => some (m.put key (.tables ([] :: elements)))
  | some _ => none

mutual

def Node.toValue : Node → Value
  | .value v => v
  | .table _ members => .table (Node.membersToValue members)
  | .tables elements => .array (Node.elementsToValue elements).reverse

def Node.membersToValue : Members → List (String × Value)
  | [] => []
  | (key, node) :: rest => (key, node.toValue) :: Node.membersToValue rest

def Node.elementsToValue : List Members → List Value
  | [] => []
  | first :: rest => .table (Node.membersToValue first) :: Node.elementsToValue rest

end

/-- Assigns to a key that may be dotted. -/
def Members.assign (ed : Edition) (key : List String) (v : Value) (m : Members) : Option Members :=
  Members.atDotted ed (Members.define ed (key.getLastD "") v) key.dropLast m

mutual

def Term.value? (ed : Edition) : Term → Option Value
  | .plain v => some v
  | .array items => do return .array (← Term.values? ed items)
  | .inline entries => do return .table (Node.membersToValue (← Term.membersAfter? ed [] entries))

def Term.values? (ed : Edition) : List Term → Option (List Value)
  | [] => some []
  | first :: rest => do return (← first.value? ed) :: (← Term.values? ed rest)

def Term.membersAfter? (ed : Edition) (m : Members) : List (List String × Term) → Option Members
  | [] => some m
  | (key, t) :: rest => do Term.membersAfter? ed (← m.assign ed key (← t.value? ed)) rest

end

mutual

/-- The keys that a written value under `path` defines, in order. -/
def Term.keysUnder (path : List String) : Term → List (List String)
  | .plain _ => []
  | .array items => Term.itemKeys path items
  | .inline entries => Term.entryKeys path entries

def Term.itemKeys (path : List String) : List Term → List (List String)
  | [] => []
  | first :: rest => first.keysUnder path ++ Term.itemKeys path rest

def Term.entryKeys (path : List String) : List (List String × Term) → List (List String)
  | [] => []
  | (key, t) :: rest => (path ++ key) :: t.keysUnder (path ++ key) ++ Term.entryKeys path rest

end

structure Document where
  root : List (String × Value) := []
  /-- Every key that a header or an assignment names, in the order of the text. -/
  keys : List (List String) := []
deriving Repr, Inhabited

/-- The tables built so far, the table that the latest header opened and the keys named so far, latest first. -/
structure Build where
  root : Members := []
  scope : List String := []
  keys : List (List String) := []
deriving Inhabited

def Build.step (ed : Edition) (b : Build) : Statement → Option Build
  | .table key => do
    let root ← b.root.atHeader (Members.openTable ed (key.getLastD "")) key.dropLast
    return { root, scope := key, keys := key :: b.keys }
  | .element key => do
    let root ← b.root.atHeader (Members.extend (key.getLastD "")) key.dropLast
    return { root, scope := key, keys := key :: b.keys }
  | .assign key t => do
    let v ← t.value? ed
    let root ← b.root.atHeader (Members.assign ed key v) b.scope
    return { b with root, keys := (Term.entryKeys b.scope [(key, t)]).reverse ++ b.keys }

/-- Reads a text; `none` if it is not well formed or defines a key twice. -/
def read? (ed : Edition) (text : String) : Option Document := do
  let b ← (← statements? ed text).foldlM (Build.step ed) {}
  return { root := Node.membersToValue b.root, keys := b.keys.reverse }

/-- The text of one key part: bare if it can be. -/
def partText (s : String) : String :=
  if s == "" then "\"\""
  else if s.toList.all isBareKeyChar then s
  else "\"" ++ String.join (s.toList.map escaped) ++ "\""
where
  escaped (c : Char) : String :=
    match c with
    | '"' => "\\\""
    | '\\' => "\\\\"
    | '\x08' => "\\b"
    | '\t' => "\\t"
    | '\n' => "\\n"
    | '\x0c' => "\\f"
    | '\r' => "\\r"
    | c => if c.toNat < 0x20 || c.toNat == 0x7f then "\\u" ++ Text.hex 4 c.toNat else c.toString

/-- The text of a dotted key. -/
def keyText (key : List String) : String := ".".intercalate (key.map partText)

end Parcelgen.Toml

import Parcelgen.Toml.Lexical

/-! The lines of a TOML text: headers and assignments, with values as they are written. -/

namespace Parcelgen.Toml

/-- A written value. The keys of an inline table may be dotted, so it is no table yet. -/
inductive Term where
  | plain (v : Value)
  | array (items : List Term)
  | inline (entries : List (List String × Term))
deriving Repr, Inhabited

inductive Statement where
  /-- A header that opens a table. -/
  | table (key : List String)
  /-- A header that appends an element to an array of tables. -/
  | element (key : List String)
  | assign (key : List String) (value : Term)
deriving Repr, Inhabited

/-- Passes over gaps, line breaks and comments. -/
def skipLines : Nat → Rest → Option Rest
  | 0, s => some s
  | fuel + 1, s =>
    match skipGap s with
    | '#' :: s => do skipLines fuel (← comment? s)
    | s =>
      match newline? s with
      | some s => skipLines fuel s
      | none => some s

/-- What may stand between the parts of an inline table. -/
def skipInline (ed : Edition) (s : Rest) : Option Rest := if ed.relaxed then skipLines (s.length + 1) s else some (skipGap s)

mutual

def term? (ed : Edition) : Nat → Rest → Option (Term × Rest)
  | 0, _ => none
  | fuel + 1, s =>
    match s with
    | '[' :: s => (items? ed fuel s).map fun (items, s) => (.array items, s)
    | '\x7b' :: s => (entries? ed fuel true s).map fun (entries, s) => (.inline entries, s)
    | '"' :: _ | '\'' :: _ => (string? ed s).map fun (text, s) => (.plain (.string text), s)
    | s => (word? ed s).map fun (v, s) => (.plain v, s)

/-- The items of an array up to its bracket; a comma may follow the last one. -/
def items? (ed : Edition) : Nat → Rest → Option (List Term × Rest)
  | 0, _ => none
  | fuel + 1, s => do
    match ← skipLines (s.length + 1) s with
    | ']' :: s => return ([], s)
    | s => do
      let (item, s) ← term? ed fuel s
      match ← skipLines (s.length + 1) s with
      | ',' :: s => do
        let (items, s) ← items? ed fuel s
        return (item :: items, s)
      | ']' :: s => return ([item], s)
      | _ => none

/-- The entries of an inline table up to its brace; whether the brace may come at once is given. -/
def entries? (ed : Edition) : Nat → Bool → Rest → Option (List (List String × Term) × Rest)
  | 0, _, _ => none
  | fuel + 1, mayEnd, s => do
    match ← skipInline ed s with
    | '\x7d' :: s => if mayEnd then return ([], s) else none
    | s => do
      let (key, s) ← key? ed (s.length + 1) s
      let s ← expect? '=' s
      let (value, s) ← term? ed fuel (skipGap s)
      match ← skipInline ed s with
      | ',' :: s => do
        let (entries, s) ← entries? ed fuel ed.relaxed s
        return ((key, value) :: entries, s)
      | '\x7d' :: s => return ([(key, value)], s)
      | _ => none

end

/-- One header or assignment, without the end of its line. -/
def statement? (ed : Edition) (s : Rest) : Option (Statement × Rest) := do
  match s with
  | '[' :: '[' :: s => do
    let (key, s) ← key? ed (s.length + 1) s
    return (.element key, ← expect? ']' (← expect? ']' s))
  | '[' :: s => do
    let (key, s) ← key? ed (s.length + 1) s
    return (.table key, ← expect? ']' s)
  | s => do
    let (key, s) ← key? ed (s.length + 1) s
    let s ← expect? '=' s
    let (value, s) ← term? ed (s.length + 1) (skipGap s)
    return (.assign key value, s)

def statementsFrom? (ed : Edition) : Nat → Rest → Option (List Statement)
  | 0, _ => none
  | fuel + 1, s => do
    match ← skipLines (s.length + 1) s with
    | [] => return []
    | s => do
      let (first, s) ← statement? ed s
      let s ← endOfLine? s
      return first :: (← statementsFrom? ed fuel s)

/-- The statements of a text. A byte order mark in front is passed over. -/
def statements? (ed : Edition) (text : String) : Option (List Statement) :=
  let s := text.toList
  let s := if s.head? == some '\ufeff' then s.tail else s
  statementsFrom? ed (s.length + 1) s

end Parcelgen.Toml

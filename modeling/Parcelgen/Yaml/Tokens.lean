import Parcelgen.Yaml.Scalar

/-!
The tokens of a YAML text.

Blocks have no closing mark: a line that is indented by less ends them. A key has no opening mark: when its colon is found, the mark
of the key, and of the mapping if it starts there, is put in front of the tokens of the key. So the scanner remembers for each
nesting level of flow collections where a key could have started.
-/

namespace Parcelgen.Yaml

/-- A place where a key could have started. -/
structure KeyStart where
  /-- The number of tokens in front of it. -/
  place : Nat
  /-- Here a key must start, because a mapping goes on. -/
  required : Bool
  index : Nat
  line : Nat
  column : Nat
deriving Repr, Inhabited

structure Scanner where
  cursor : Cursor
  tokens : Array Token := #[]
  /-- The column of the open block, -1 outside of blocks. -/
  indent : Int := -1
  outer : List Int := []
  keyAllowed : Bool := true
  /-- The key start of the innermost flow collection, or of the block outside of them. -/
  keyStart : Option KeyStart := none
  /-- Those of the collections around it. -/
  outerKeyStarts : List (Option KeyStart) := []
deriving Inhabited

namespace Scanner

def inFlow (s : Scanner) : Bool := !s.outerKeyStarts.isEmpty

def emit (s : Scanner) (t : Token) : Scanner := { s with tokens := s.tokens.push t }

def advance (s : Scanner) (n : Nat) : Scanner := { s with cursor := s.cursor.skip n }

def column (s : Scanner) : Int := s.cursor.column

/-- Closes the blocks that are indented by more than `column`. -/
def unrollFrom (column : Int) : List Int → Scanner → Scanner
  | [], s => s
  | below :: outer, s =>
    if s.indent > column then unrollFrom column outer { s.emit .blockEnd with indent := below, outer } else s

def unroll (s : Scanner) (column : Int) : Scanner := if s.inFlow then s else unrollFrom column s.outer s

/-- Opens a block at `column` unless one is open there already; its mark goes in front of token `place`. -/
def roll (s : Scanner) (column : Int) (place : Nat) (t : Token) : Scanner :=
  if s.inFlow || s.indent ≥ column then s
  else { s with tokens := s.tokens.insertIdxIfInBounds place t, indent := column, outer := s.indent :: s.outer }

/-- Gives up the key start; an error if a key had to be there. -/
def dropKeyStart (s : Scanner) : Option Scanner :=
  if s.keyStart.any (·.required) then none else some { s with keyStart := none }

/-- Notes that a key may start here. -/
def markKeyStart (s : Scanner) : Option Scanner :=
  if s.keyAllowed then do
    let s' ← s.dropKeyStart
    return { s' with keyStart := some {
      place := s.tokens.size, required := !s.inFlow && s.indent == s.column
      index := s.cursor.index, line := s.cursor.line, column := s.cursor.column } }
  else some s

/-- A key ends on the line where it starts, within 1024 characters. -/
def isStale (c : Cursor) (k : KeyStart) : Bool := k.line < c.line || k.index + 1024 < c.index

def dropStale (s : Scanner) : Option Scanner :=
  let stale := s.keyStart.any (isStale s.cursor)
  if (stale && s.keyStart.any (·.required)) || s.outerKeyStarts.any (·.any fun k => isStale s.cursor k && k.required) then none
  else some { s with
    keyStart := if stale then none else s.keyStart
    outerKeyStarts := s.outerKeyStarts.map fun k => if k.any (isStale s.cursor) then none else k }

/-- Passes over blanks, comments and line breaks. In a block a tab may not stand where a key could start. -/
def skipGap : Nat → Scanner → Scanner
  | 0, s => s
  | fuel + 1, s =>
    match s.cursor.head? with
    | none => s
    | some x =>
      if x == ' ' || (x == '\t' && (s.inFlow || !s.keyAllowed)) || (x == '\ufeff' && s.cursor.column == 0) then
        skipGap fuel (s.advance 1)
      else if x == '#' then skipGap fuel { s with cursor := s.cursor.skipWhile fun c => !isBreak c }
      else if isBreak x then skipGap fuel { s.advance 1 with keyAllowed := s.keyAllowed || !s.inFlow }
      else s

/-- The handle of a tag: an exclamation mark, or a name between two of them. -/
def tagHandle (c : Cursor) : String × Cursor :=
  let (name, c) := c.next.span isNameChar
  if c.startsWith '!' then ("!" ++ name ++ "!", c.next) else ("!" ++ name, c)

def isUriChar (c : Char) : Bool := isNameChar c || ";/?:@&=+$,.!~*'()[]%".toList.contains c

/-- Replaces percent escapes; what they spell must be text. -/
def unescapeUri : List Char → Option (List UInt8)
  | [] => some []
  | '%' :: a :: b :: s => do
    let byte := (← Text.hexValue? a) * 16 + (← Text.hexValue? b)
    return byte.toUInt8 :: (← unescapeUri s)
  | '%' :: _ => none
  | c :: s => do return c.toString.toUTF8.toList ++ (← unescapeUri s)

def uriText? (s : String) : Option String := do String.fromUTF8? ⟨((← unescapeUri s.toList).toArray)⟩

/-- A line that starts with a percent sign. -/
def directive? (c : Cursor) : Option (Token × Cursor) := do
  let (name, c) := c.next.span isNameChar
  let (t, c) ←
    if name == "YAML" then do
      let (major, c) := (c.skipWhile isBlank).span Char.isDigit
      if !c.startsWith '.' then none
      let (minor, c) := c.next.span Char.isDigit
      if major.length > 9 || minor.length > 9 then none
      some (Token.version (← major.toNat?) (← minor.toNat?), c)
    else if name == "TAG" then do
      let c := c.skipWhile isBlank
      if !c.startsWith '!' then none
      let (handle, c) := tagHandle c
      if handle != "!" && !handle.endsWith "!" then none
      if !c.atBlank then none
      let (lead, c) := (c.skipWhile isBlank).span isUriChar
      if lead == "" || !c.atGap then none
      some (Token.tagDirective handle (← uriText? lead), c)
    else none
  let c := c.skipWhile isBlank
  let c := if c.startsWith '#' then c.skipWhile fun x => !isBreak x else c
  if c.atLineEnd then return (t, c.next) else none

/-- The name after an ampersand or an asterisk. -/
def anchorName? (c : Cursor) : Option (String × Cursor) :=
  let (name, c) := c.next.span isNameChar
  if name == "" || !(c.atGap || c.head?.any fun x => "?:,]\x7d%@`".toList.contains x) then none else some (name, c)

/-- A tag in its short form or between angle brackets. -/
def tag? (c : Cursor) : Option (Token × Cursor) := do
  let (t, c) ←
    if c.rest.take 2 == ['!', '<'] then do
      let (uri, c) := (c.skip 2).span isUriChar
      if uri == "" || !c.startsWith '>' then none
      some (Token.tag "" (← uriText? uri), c.next)
    else do
      let (handle, c) := tagHandle c
      if handle.length > 1 && handle.endsWith "!" then
        let (tail, c) := c.span isUriChar
        if tail == "" then none
        some (Token.tag handle (← uriText? tail), c)
      else
        let (tail, c) := c.span isUriChar
        let tail := (handle.drop 1).toString ++ (← uriText? tail)
        some (if tail == "" then Token.tag "" "!" else .tag "!" tail, c)
  if c.atGap then return (t, c) else none

/-- The end of all blocks and keys, before a document marker or a directive. -/
def closeBlocks (s : Scanner) : Option Scanner := do
  let s ← (s.unroll (-1)).dropKeyStart
  return { s with keyAllowed := false }

/-- Opens a flow collection. -/
def openFlow (s : Scanner) (t : Token) : Option Scanner := do
  let s ← s.markKeyStart
  return { (s.advance 1).emit t with keyAllowed := true, keyStart := none, outerKeyStarts := s.keyStart :: s.outerKeyStarts }

def closeFlow (s : Scanner) (t : Token) : Option Scanner := do
  let s ← s.dropKeyStart
  let s := { (s.advance 1).emit t with keyAllowed := false }
  match s.outerKeyStarts with
  | [] => return s
  | k :: ks => return { s with keyStart := k, outerKeyStarts := ks }

/-- A dash or a question mark: in a block it needs a place where a key could start. -/
def blockMark (s : Scanner) (opens t : Token) (keyAllowed : Bool) : Option Scanner := do
  if !s.inFlow && !s.keyAllowed then none
  let s ← (s.roll s.column s.tokens.size opens).dropKeyStart
  return { (s.advance 1).emit t with keyAllowed }

/-- A colon. -/
def valueMark (s : Scanner) : Option Scanner :=
  match s.keyStart with
  | some k =>
    let s := { s with tokens := s.tokens.insertIdxIfInBounds k.place .key }
    let s := s.roll k.column k.place .blockMappingStart
    some { (s.advance 1).emit .value with keyStart := none, keyAllowed := false }
  | none => do
    if !s.inFlow && !s.keyAllowed then none
    let s := s.roll s.column s.tokens.size .blockMappingStart
    return { (s.advance 1).emit .value with keyAllowed := !s.inFlow }

/-- A word that can be a key. -/
def word (s : Scanner) (read : Cursor → Option (Token × Cursor)) : Option Scanner := do
  let s ← s.markKeyStart
  let (t, c) ← read s.cursor
  return { s.emit t with cursor := c, keyAllowed := false }

def blockScalar (s : Scanner) (isLiteral : Bool) : Option Scanner := do
  let s ← s.dropKeyStart
  let (text, c) ← block isLiteral s.indent s.cursor
  return { s.emit (.scalar text (if isLiteral then .literal else .folded)) with cursor := c, keyAllowed := true }

def plainScalar (s : Scanner) : Option Scanner := do
  let s ← s.markKeyStart
  let (text, broken, c) ← plain s.inFlow (s.indent + 1) s.cursor
  return { s.emit (.scalar text .plain) with cursor := c, keyAllowed := broken }

/-- Characters that mean something at the start of a token. -/
def isIndicator (c : Char) : Bool := "-?:,[]\x7b\x7d#&*!|>'\"%@`".toList.contains c

def startsPlain (s : Scanner) (x : Char) : Bool :=
  !(isBlank x || isBreak x || isIndicator x) || (x == '-' && !(s.cursor.rest[1]?.any isBlank)) ||
    (!s.inFlow && (x == '?' || x == ':') && !s.cursor.gapAt 1)

/-- Scans the next token, and the marks that come before it. -/
def step (s : Scanner) : Option Scanner := do
  let s ← (skipGap (s.cursor.rest.length + 1) s).dropStale
  let s := s.unroll s.column
  let c := s.cursor
  match c.head? with
  | none =>
    let s ← s.closeBlocks
    return s.emit .streamEnd
  | some x =>
    if c.column == 0 && x == '%' then
      let s ← s.closeBlocks
      let (t, c) ← directive? c
      return { s.emit t with cursor := c }
    else if c.atMarker '-' then return (← s.closeBlocks).emit .documentStart |>.advance 3
    else if c.atMarker '.' then return (← s.closeBlocks).emit .documentEnd |>.advance 3
    else if x == '[' then s.openFlow .flowSequenceStart
    else if x == '\x7b' then s.openFlow .flowMappingStart
    else if x == ']' then s.closeFlow .flowSequenceEnd
    else if x == '\x7d' then s.closeFlow .flowMappingEnd
    else if x == ',' then return { ((← s.dropKeyStart).advance 1).emit .flowEntry with keyAllowed := true }
    else if x == '-' && c.gapAt 1 then s.blockMark .blockSequenceStart .blockEntry true
    else if x == '?' && (s.inFlow || c.gapAt 1) then s.blockMark .blockMappingStart .key (!s.inFlow)
    else if x == ':' && (s.inFlow || c.gapAt 1) then s.valueMark
    else if x == '*' then s.word fun c => (anchorName? c).map fun (name, c) => (.alias name, c)
    else if x == '&' then s.word fun c => (anchorName? c).map fun (name, c) => (.anchor name, c)
    else if x == '!' then s.word tag?
    else if x == '|' && !s.inFlow then s.blockScalar true
    else if x == '>' && !s.inFlow then s.blockScalar false
    else if x == '\'' then s.word fun c => (quoted false c).map fun (text, c) => (.scalar text .singleQuoted, c)
    else if x == '"' then s.word fun c => (quoted true c).map fun (text, c) => (.scalar text .doubleQuoted, c)
    else if s.startsPlain x then s.plainScalar
    else none

/-- Scans to the end, or to where the text is no YAML. -/
def run : Nat → Scanner → List Token
  | 0, s => s.tokens.toList
  | fuel + 1, s =>
    if s.tokens.back? == some .streamEnd then s.tokens.toList
    else match s.step with
      | some s => run fuel s
      | none => s.tokens.toList ++ [.malformed]

end Scanner

/-- The tokens of a text. A byte order mark in front is passed over. -/
def tokens (text : String) : List Token :=
  let s := text.toList
  let s := if s.head? == some '\ufeff' then s.tail else s
  if s.all isAllowed then Scanner.run (s.length + 2) { cursor := { rest := singleBreaks s } } else [.malformed]

end Parcelgen.Yaml

/-! Tokens of YAML, and the cursor that walks a text to find them. -/

namespace Parcelgen.Yaml

inductive Style where
  | plain
  | singleQuoted
  | doubleQuoted
  | literal
  | folded
deriving Repr, DecidableEq, Inhabited

inductive Token where
  | streamEnd
  | version (major minor : Nat)
  | tagDirective (handle lead : String)
  | documentStart
  | documentEnd
  | blockSequenceStart
  | blockMappingStart
  | blockEnd
  | flowSequenceStart
  | flowSequenceEnd
  | flowMappingStart
  | flowMappingEnd
  | blockEntry
  | flowEntry
  | key
  | value
  | alias (name : String)
  | anchor (name : String)
  | tag (handle tail : String)
  | scalar (text : String) (style : Style)
  /-- From here on the text is no YAML. -/
  | malformed
deriving Repr, DecidableEq, Inhabited

/-- A place in a text whose line breaks are single characters. -/
structure Cursor where
  rest : List Char
  index : Nat := 0
  line : Nat := 0
  column : Nat := 0
deriving Repr, Inhabited

/-- Line breaks; the line and paragraph separators keep their identity in text, all others are written as a line feed. -/
def isBreak (c : Char) : Bool := c == '\n' || c == '\u2028' || c == '\u2029'

def isBlank (c : Char) : Bool := c == ' ' || c == '\t'

/-- Letters, digits, the underscore and the hyphen, of which the names of anchors and tags consist. -/
def isNameChar (c : Char) : Bool := c.isAlphanum || c == '_' || c == '-'

/-- Characters that a text may hold as they are. -/
def isAllowed (c : Char) : Bool :=
  let n := c.toNat
  c == '\t' || c == '\n' || c == '\r' || (0x20 ≤ n && n ≤ 0x7e) || n == 0x85 || (0xa0 ≤ n && n != 0xfffe && n != 0xffff)

/-- Line breaks as single characters. -/
def singleBreaks : List Char → List Char
  | [] => []
  | '\r' :: '\n' :: s => '\n' :: singleBreaks s
  | '\r' :: s => '\n' :: singleBreaks s
  | '\u0085' :: s => '\n' :: singleBreaks s
  | c :: s => c :: singleBreaks s

namespace Cursor

def head? (c : Cursor) : Option Char := c.rest.head?

def next (c : Cursor) : Cursor :=
  match c.rest with
  | [] => c
  | x :: rest =>
    if isBreak x then { rest, index := c.index + 1, line := c.line + 1, column := 0 }
    else { rest, index := c.index + 1, line := c.line, column := c.column + 1 }

def skip : Nat → Cursor → Cursor
  | 0, c => c
  | n + 1, c => skip n c.next

def atEnd (c : Cursor) : Bool := c.rest.isEmpty

def atBlank (c : Cursor) : Bool := c.head?.any isBlank

def atBreak (c : Cursor) : Bool := c.head?.any isBreak

/-- At a break or at the end. -/
def atLineEnd (c : Cursor) : Bool := c.head?.all isBreak

/-- At a blank, a break or the end. -/
def atGap (c : Cursor) : Bool := c.head?.all fun x => isBlank x || isBreak x

def startsWith (c : Cursor) (x : Char) : Bool := c.head? == some x

/-- Whether the character `n` places on is a blank, a break or the end. -/
def gapAt (c : Cursor) (n : Nat) : Bool := (c.rest[n]?).all fun x => isBlank x || isBreak x

/-- A document marker at the start of a line. -/
def atMarker (c : Cursor) (mark : Char) : Bool :=
  c.column == 0 && c.rest.take 3 == [mark, mark, mark] && c.gapAt 3

def atDocumentMarker (c : Cursor) : Bool := c.atMarker '-' || c.atMarker '.'

/-- Passes over the characters of a class, none of which is a line break. -/
def skipWhile (p : Char → Bool) (c : Cursor) : Cursor := c.skip (c.rest.takeWhile p).length

def span (p : Char → Bool) (c : Cursor) : String × Cursor := (String.ofList (c.rest.takeWhile p), c.skipWhile p)

end Cursor

end Parcelgen.Yaml

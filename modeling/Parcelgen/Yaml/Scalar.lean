import Parcelgen.Text.Digit
import Parcelgen.Yaml.Token

/-! The text of scalars: plain, quoted and block style. Lines are folded as the style asks. -/

namespace Parcelgen.Yaml

/-- Blanks and line breaks met since the last character of a scalar. -/
structure Gap where
  /-- Blanks before any break, latest first. -/
  blanks : List Char := []
  firstBreak : Option Char := none
  /-- Breaks after the first one, latest first. -/
  moreBreaks : List Char := []
  /-- Past a line break, also one that an escape took away. -/
  broken : Bool := false
deriving Repr, Inhabited

/-- Adds a blank or a break; blanks at the start of a line do not count. -/
def Gap.push (g : Gap) (c : Char) : Gap :=
  if isBreak c then
    if g.broken then { g with moreBreaks := c :: g.moreBreaks } else { firstBreak := some c, broken := true }
  else if g.broken then g else { g with blanks := c :: g.blanks }

/-- The text that a gap leaves, latest character first: one line feed becomes a space, and is dropped before further breaks. -/
def Gap.folded (g : Gap) : List Char :=
  if !g.broken then g.blanks
  else match g.firstBreak with
    | some '\n' => if g.moreBreaks.isEmpty then [' '] else g.moreBreaks
    | some c => g.moreBreaks ++ [c]
    | none => g.moreBreaks

def isFlowIndicator (c : Char) : Bool :=
  c == ',' || c == '?' || c == '[' || c == ']' || c == '\x7b' || c == '\x7d'

/-- Where a plain scalar ends inside a line. -/
def endsPlain (flow : Bool) (c : Cursor) : Bool :=
  (c.startsWith ':' && c.gapAt 1) || (flow && c.head?.any isFlowIndicator)

/-- A plain scalar: its text, whether a line break follows it, and the place after it and the gap. A line that is indented by less
than `indent` does not belong to it. -/
def plainFrom (flow : Bool) (indent : Int) : Nat → Bool → Gap → List Char → Cursor → Option (String × Bool × Cursor)
  | 0, _, _, _, _ => none
  | fuel + 1, fresh, gap, soFar, c =>
    let stop := some (String.ofList soFar.reverse, gap.broken, c)
    match c.head? with
    | none => stop
    | some x =>
      if isBlank x || isBreak x then
        if x == '\t' && gap.broken && (c.column : Int) < indent then none
        else plainFrom flow indent fuel true (gap.push x) soFar c.next
      else if fresh && (c.atDocumentMarker || x == '#' || (!flow && (c.column : Int) < indent)) then stop
      else if endsPlain flow c then stop
      else plainFrom flow indent fuel false {} (x :: (gap.folded ++ soFar)) c.next

def plain (flow : Bool) (indent : Int) (c : Cursor) : Option (String × Bool × Cursor) :=
  plainFrom flow indent (c.rest.length + 1) false {} [] c

/-- The character of an escape and the number of characters after the backslash that it takes. -/
def escape? : List Char → Option (Char × Nat)
  | [] => none
  | c :: s =>
    match c with
    | '0' => some ('\x00', 1)
    | 'a' => some ('\x07', 1)
    | 'b' => some ('\x08', 1)
    | 't' | '\t' => some ('\t', 1)
    | 'n' => some ('\n', 1)
    | 'v' => some ('\x0b', 1)
    | 'f' => some ('\x0c', 1)
    | 'r' => some ('\r', 1)
    | 'e' => some ('\x1b', 1)
    | ' ' => some (' ', 1)
    | '"' => some ('"', 1)
    | '\'' => some ('\'', 1)
    | '\\' => some ('\\', 1)
    | 'N' => some ('\u0085', 1)
    | '_' => some ('\u00a0', 1)
    | 'L' => some ('\u2028', 1)
    | 'P' => some ('\u2029', 1)
    | 'x' => (Text.codePoint? 2 s).map (·, 3)
    | 'u' => (Text.codePoint? 4 s).map (·, 5)
    | 'U' => (Text.codePoint? 8 s).map (·, 9)
    | _ => none

/-- The rest of a quoted scalar, after its opening quote. -/
def quotedFrom (double : Bool) : Nat → Gap → List Char → Cursor → Option (String × Cursor)
  | 0, _, _, _ => none
  | fuel + 1, gap, soFar, c =>
    match c.rest with
    | [] => none
    | x :: more =>
      let text := gap.folded ++ soFar
      if c.atDocumentMarker then none
      else if isBlank x || isBreak x then quotedFrom double fuel (gap.push x) soFar c.next
      else if !double && x == '\'' then
        if more.head? == some '\'' then quotedFrom double fuel {} ('\'' :: text) (c.skip 2)
        else some (String.ofList text.reverse, c.next)
      else if double && x == '"' then some (String.ofList text.reverse, c.next)
      else if double && x == '\\' then
        if more.head?.any isBreak then quotedFrom double fuel { broken := true } text (c.skip 2)
        else do
          let (e, n) ← escape? more
          quotedFrom double fuel {} (e :: text) (c.skip (n + 1))
      else quotedFrom double fuel {} (x :: text) c.next

def quoted (double : Bool) (c : Cursor) : Option (String × Cursor) :=
  quotedFrom double (c.rest.length + 1) {} [] c.next

/-- What happens to the line breaks at the end of a block scalar. -/
inductive Chomp where
  | strip
  | clip
  | keep
deriving Repr, DecidableEq, Inhabited

def chomp? (c : Cursor) : Option (Chomp × Cursor) :=
  if c.startsWith '+' then some (.keep, c.next) else if c.startsWith '-' then some (.strip, c.next) else none

/-- The indentation indicator: `none` if there is none, an error if it is zero. -/
def increment (c : Cursor) : Option (Option Nat × Cursor) :=
  match c.head? with
  | some x =>
    if x == '0' then none
    else if x.isDigit then some (some (x.toNat - '0'.toNat), c.next)
    else some (none, c)
  | none => some (none, c)

/-- The indicators of a block scalar, in either order. -/
def blockHeader (c : Cursor) : Option (Chomp × Option Nat × Cursor) := do
  match chomp? c with
  | some (chomp, c) =>
    let (n, c) ← increment c
    return (chomp, n, c)
  | none =>
    let (n, c) ← increment c
    match n, chomp? c with
    | some n, some (chomp, c) => return (chomp, some n, c)
    | n, _ => return (.clip, n, c)

/-- Empty lines and indentation in front of the text, with the largest column reached; `indent` is not known at first. -/
def blockBreaks (indent : Option Nat) : Nat → Nat → List Char → Cursor → Option (List Char × Nat × Cursor)
  | 0, _, _, _ => none
  | fuel + 1, widest, breaks, c =>
    let inside := indent.all (c.column < ·)
    if inside && c.startsWith ' ' then blockBreaks indent fuel widest breaks c.next
    else
      let widest := max widest c.column
      if inside && c.startsWith '\t' then none
      else if c.atBreak then blockBreaks indent fuel widest ((c.head?.toList) ++ breaks) c.next
      else some (breaks, widest, c)

/-- The lines of a block scalar. `lineBreak` is the break after the latest line and `breaks` those of the empty lines after it. -/
def blockLines (isLiteral : Bool) (indent : Nat) : Nat → Bool → List Char → List Char → List Char → Cursor →
    Option (List Char × List Char × List Char × Cursor)
  | 0, _, _, _, _, _ => none
  | fuel + 1, leadingBlank, lineBreak, breaks, soFar, c =>
    if c.column == indent && !c.atEnd then do
      let joint :=
        if !isLiteral && !leadingBlank && !c.atBlank && lineBreak == ['\n'] then (if breaks.isEmpty then [' '] else []) else lineBreak
      let line := c.rest.takeWhile fun x => !isBreak x
      let after := c.skip line.length
      let (more, _, next) ← blockBreaks (some indent) (after.rest.length + 2) 0 [] after.next
      blockLines isLiteral indent fuel c.atBlank after.head?.toList more (line.reverse ++ breaks ++ joint ++ soFar) next
    else some (soFar, lineBreak, breaks, c)

/-- A block scalar, from its indicator on, inside a block that is indented by `parent`. -/
def block (isLiteral : Bool) (parent : Int) (c : Cursor) : Option (String × Cursor) := do
  let (chomp, increment, c) ← blockHeader c.next
  let c := c.skipWhile isBlank
  let c := if c.startsWith '#' then c.skipWhile fun x => !isBreak x else c
  if !c.atLineEnd then none
  let c := c.next
  let given := increment.map fun n => if parent ≥ 0 then parent.toNat + n else n
  let (breaks, widest, c) ← blockBreaks given (c.rest.length + 2) 0 [] c
  let indent := given.getD (max (max widest (parent + 1).toNat) 1)
  let (text, lineBreak, breaks, c) ← blockLines isLiteral indent (c.rest.length + 2) false [] breaks [] c
  let tail := match chomp with
    | .strip => []
    | .clip => lineBreak
    | .keep => breaks ++ lineBreak
  return (String.ofList (tail ++ text).reverse, c)

end Parcelgen.Yaml

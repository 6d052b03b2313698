import Parcelgen.Json.Value
import Parcelgen.Text.Digit

/-! Lexical units of JSON text, found in one pass over the characters. -/

namespace Parcelgen.Json

inductive Token where
  | openObject
  | closeObject
  | openArray
  | closeArray
  | colon
  | comma
  | string (s : String)
  | number (text : String)
  | word (b : Option Bool)
deriving Repr, DecidableEq, Inhabited

/-- Strict number grammar: no leading zeros, no bare point, digits after an exponent mark. -/
def isNumber (cs : List Char) : Bool :=
  let cs := if cs.head? == some '-' then cs.tail else cs
  let whole := cs.takeWhile Char.isDigit
  let rest := cs.dropWhile Char.isDigit
  let wholeOk := !whole.isEmpty && (whole.head? != some '0' || whole.length == 1)
  let (fractionOk, rest) :=
    if rest.head? == some '.' then
      (((rest.tail.head?).map Char.isDigit).getD false, rest.tail.dropWhile Char.isDigit)
    else (true, rest)
  let exponentOk :=
    match rest with
    | [] => true
    | c :: digits =>
      let digits := if digits.head? == some '+' || digits.head? == some '-' then digits.tail else digits
      (c == 'e' || c == 'E') && !digits.isEmpty && digits.all Char.isDigit
  wholeOk && fractionOk && exponentOk

def atom? (cs : List Char) : Option Token :=
  let text := String.ofList cs
  if text == "true" then some (.word (some true))
  else if text == "false" then some (.word (some false))
  else if text == "null" then some (.word none)
  else if isNumber cs then some (.number text)
  else none

/-- Joins UTF-16 units to characters; a unit without its partner becomes the replacement character. -/
def joinUnits : List Nat → List Char
  | [] => []
  | high :: low :: rest =>
    if 0xd800 ≤ high && high < 0xdc00 && 0xdc00 ≤ low && low < 0xe000 then
      Char.ofNat (0x10000 + (high - 0xd800) * 0x400 + (low - 0xdc00)) :: joinUnits rest
    else (if 0xd800 ≤ high && high < 0xe000 then Char.ofNat 0xfffd else Char.ofNat high) :: joinUnits (low :: rest)
  | [unit] => [if 0xd800 ≤ unit && unit < 0xe000 then Char.ofNat 0xfffd else Char.ofNat unit]

def escape? : Char → Option Char
  | '"' => some '"'
  | '\\' => some '\\'
  | '/' => some '/'
  | 'b' => some '\x08'
  | 'f' => some '\x0c'
  | 'n' => some '\n'
  | 'r' => some '\r'
  | 't' => some '\t'
  | _ => none

/-- Where the pass stands. Text read so far is kept in reverse. -/
inductive Reading where
  | idle
  | atom (soFar : List Char)
  | string (units : List Nat)
  | escape (units : List Nat)
  | hex (units : List Nat) (left value : Nat)

def punctuation? : Char → Option Token
  | '\x7b' => some .openObject
  | '\x7d' => some .closeObject
  | '[' => some .openArray
  | ']' => some .closeArray
  | ':' => some .colon
  | ',' => some .comma
  | _ => none

def isSpace (c : Char) : Bool := c == ' ' || c == '\t' || c == '\n' || c == '\r'

def isAtomChar (c : Char) : Bool := c.isAlphanum || c == '-' || c == '+' || c == '.'

/-- A character between units. -/
def startToken? (c : Char) : Option (List Token × Reading) :=
  match punctuation? c with
  | some t => some ([t], .idle)
  | none =>
    if isSpace c then some ([], .idle)
    else if c == '"' then some ([], .string [])
    else if isAtomChar c then some ([], .atom [c])
    else none

/-- One character further: the units it completes, and where the pass then stands. -/
def advance? (c : Char) : Reading → Option (List Token × Reading)
  | .idle => startToken? c
  | .atom soFar =>
    if isAtomChar c then some ([], .atom (c :: soFar))
    else do
      let done ← atom? soFar.reverse
      let (more, next) ← startToken? c
      return (done :: more, next)
  | .string units =>
    if c == '"' then some ([.string (String.ofList (joinUnits units.reverse))], .idle)
    else if c == '\\' then some ([], .escape units)
    else if c.toNat < 0x20 then none
    else some ([], .string (c.toNat :: units))
  | .escape units =>
    if c == 'u' then some ([], .hex units 4 0)
    else (escape? c).map fun e => ([], .string (e.toNat :: units))
  | .hex units left value =>
    (Text.hexValue? c).map fun digit =>
      let value := value * 16 + digit
      if left ≤ 1 then ([], .string (value :: units)) else ([], .hex units (left - 1) value)

/-- The units of a text after those in `done`, which are kept in reverse, up to a place where the text is malformed; and whether there
is no such place. -/
def tokens (done : List Token) : Reading → List Char → List Token × Bool
  | .idle, [] => (done.reverse, true)
  | .atom soFar, [] =>
    match atom? soFar.reverse with
    | some t => ((t :: done).reverse, true)
    | none => (done.reverse, false)
  | _, [] => (done.reverse, false)
  | state, c :: cs =>
    match advance? c state with
    | some (more, next) => tokens (more.reverse ++ done) next cs
    | none => (done.reverse, false)

end Parcelgen.Json

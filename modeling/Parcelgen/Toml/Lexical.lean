import Parcelgen.Calendar
import Parcelgen.Text.Digit
import Parcelgen.Toml.Value

/-! Words of TOML: keys, strings, numbers and times. Readers return what they found and the rest of the text. -/

namespace Parcelgen.Toml

abbrev Rest := List Char

def isGap (c : Char) : Bool := c == ' ' || c == '\t'

def skipGap (s : Rest) : Rest := s.dropWhile isGap

/-- Control characters that no text may hold; the tab is allowed. -/
def isControl (c : Char) : Bool := (c.toNat < 0x20 && c != '\t') || c.toNat == 0x7f

/-- The text after a line break at the head. -/
def newline? : Rest → Option Rest
  | '\n' :: s => some s
  | '\r' :: '\n' :: s => some s
  | _ => none

/-- Passes over a comment up to its line break; a control character in it is an error. -/
def comment? : Rest → Option Rest
  | [] => some []
  | '\n' :: s => some ('\n' :: s)
  | '\r' :: '\n' :: s => some ('\r' :: '\n' :: s)
  | c :: s => if isControl c then none else comment? s

/-- What may follow a statement on its line: a gap, a comment, the end of the line. -/
def endOfLine? (s : Rest) : Option Rest :=
  match skipGap s with
  | [] => some []
  | '#' :: s => do
    match ← comment? s with
    | [] => some []
    | s => newline? s
  | s => newline? s

def isBareKeyChar (c : Char) : Bool := c.isAlphanum || c == '_' || c == '-'

/-- A character given by `count` hexadecimal digits. -/
def hexChar? (count : Nat) (s : Rest) : Option (Char × Rest) := (Text.codePoint? count s).map (·, s.drop count)

/-- The character of an escape, after its backslash. -/
def escape? (ed : Edition) : Rest → Option (Char × Rest)
  | 'b' :: s => some ('\x08', s)
  | 't' :: s => some ('\t', s)
  | 'n' :: s => some ('\n', s)
  | 'f' :: s => some ('\x0c', s)
  | 'r' :: s => some ('\r', s)
  | '"' :: s => some ('"', s)
  | '\\' :: s => some ('\\', s)
  | 'u' :: s => hexChar? 4 s
  | 'U' :: s => hexChar? 8 s
  | 'e' :: s => if ed.relaxed then some ('\x1b', s) else none
  | 'x' :: s => if ed.relaxed then hexChar? 2 s else none
  | _ => none

/-- The rest of a string on one line, after its opening quote. -/
def basicString? (ed : Edition) : Nat → Rest → List Char → Option (String × Rest)
  | 0, _, _ => none
  | _, [], _ => none
  | fuel + 1, c :: s, soFar =>
    if c == '"' then some (String.ofList soFar.reverse, s)
    else if c == '\\' then do
      let (e, s) ← escape? ed s
      basicString? ed fuel s (e :: soFar)
    else if isControl c then none
    else basicString? ed fuel s (c :: soFar)

/-- The rest of a literal string on one line, after its opening quote. -/
def literalString? : Rest → List Char → Option (String × Rest)
  | [], _ => none
  | c :: s, soFar =>
    if c == '\'' then some (String.ofList soFar.reverse, s)
    else if isControl c then none
    else literalString? s (c :: soFar)

/-- The number of quotes at the head, five at most. -/
def quotes (quote : Char) (s : Rest) : Nat := ((s.take 5).takeWhile (· == quote)).length

/-- A line break right after the opening quotes does not count. -/
def dropFirstBreak (s : Rest) : Rest := (newline? s).getD s

/-- A backslash at the end of a line takes away the break and all blanks after it. -/
def lineJoint? (s : Rest) : Option Rest :=
  match newline? (skipGap s) with
  | none => none
  | some s => some (s.dropWhile fun c => isGap c || c == '\n' || c == '\r')

/-- The rest of a string of several lines. Up to two quotes in a row belong to the text, also right before the closing ones. -/
def longBasicString? (ed : Edition) : Nat → Rest → List Char → Option (String × Rest)
  | 0, _, _ => none
  | _, [], _ => none
  | fuel + 1, c :: s, soFar =>
    if c == '"' then
      let n := quotes '"' (c :: s)
      if n < 3 then longBasicString? ed fuel ((c :: s).drop n) (List.replicate n '"' ++ soFar)
      else some (String.ofList (List.replicate (n - 3) '"' ++ soFar).reverse, (c :: s).drop n)
    else if c == '\\' then
      match lineJoint? s with
      | some s => longBasicString? ed fuel s soFar
      | none => do
        let (e, s) ← escape? ed s
        longBasicString? ed fuel s (e :: soFar)
    else match newline? (c :: s) with
      | some after => longBasicString? ed fuel after (((c :: s).take ((c :: s).length - after.length)).reverse ++ soFar)
      | none => if isControl c then none else longBasicString? ed fuel s (c :: soFar)

def longLiteralString? : Nat → Rest → List Char → Option (String × Rest)
  | 0, _, _ => none
  | _, [], _ => none
  | fuel + 1, c :: s, soFar =>
    if c == '\'' then
      let n := quotes '\'' (c :: s)
      if n < 3 then longLiteralString? fuel ((c :: s).drop n) (List.replicate n '\'' ++ soFar)
      else some (String.ofList (List.replicate (n - 3) '\'' ++ soFar).reverse, (c :: s).drop n)
    else match newline? (c :: s) with
      | some after => longLiteralString? fuel after (((c :: s).take ((c :: s).length - after.length)).reverse ++ soFar)
      | none => if isControl c then none else longLiteralString? fuel s (c :: soFar)

/-- A string value of any form. -/
def string? (ed : Edition) (s : Rest) : Option (String × Rest) :=
  match s with
  | '"' :: '"' :: '"' :: s => longBasicString? ed (s.length + 1) (dropFirstBreak s) []
  | '"' :: s => basicString? ed (s.length + 1) s []
  | '\'' :: '\'' :: '\'' :: s => longLiteralString? (s.length + 1) (dropFirstBreak s) []
  | '\'' :: s => literalString? s []
  | _ => none

/-- One part of a key. -/
def keyPart? (ed : Edition) (s : Rest) : Option (String × Rest) :=
  match s with
  | '"' :: s => basicString? ed (s.length + 1) s []
  | '\'' :: s => literalString? s []
  | s =>
    let word := s.takeWhile isBareKeyChar
    if word.isEmpty then none else some (String.ofList word, s.dropWhile isBareKeyChar)

/-- A key: parts joined by dots, with gaps around them. -/
def key? (ed : Edition) : Nat → Rest → Option (List String × Rest)
  | 0, _ => none
  | fuel + 1, s => do
    let (part, s) ← keyPart? ed (skipGap s)
    match skipGap s with
    | '.' :: s => do
      let (parts, s) ← key? ed fuel s
      return (part :: parts, s)
    | s => return ([part], s)

/-! Numbers and times are words of their own alphabet, looked at as a whole. -/

/-- Digits with single underscores between them. -/
def digits? (isDigit : Char → Bool) : List Char → Option (List Char)
  | [] => none
  | [c] => if isDigit c then some [c] else none
  | c :: '_' :: d :: s => if isDigit c && isDigit d then (digits? isDigit (d :: s)).map (c :: ·) else none
  | c :: s => if isDigit c then (digits? isDigit s).map (c :: ·) else none

def valueOf (base : Nat) (cs : List Char) : Nat := (Text.digitsValue? base cs).getD 0

def unsigned (s : List Char) : List Char :=
  match s with
  | '+' :: s | '-' :: s => s
  | s => s

/-- Whole numbers have no leading zero. -/
def isWhole (ds : List Char) : Bool := ds.head? != some '0' || ds.length == 1

def inRange (n : Int) : Bool := -(Int.pow 2 63) ≤ n && n < Int.pow 2 63

def integer? (s : List Char) : Option Int := do
  let n ← match s with
    | '0' :: 'x' :: s => (digits? (fun c => (Text.hexValue? c).isSome) s).map fun ds => (valueOf 16 ds : Int)
    | '0' :: 'o' :: s => (digits? (fun c => '0' ≤ c && c ≤ '7') s).map fun ds => (valueOf 8 ds : Int)
    | '0' :: 'b' :: s => (digits? (fun c => c == '0' || c == '1') s).map fun ds => (valueOf 2 ds : Int)
    | s => do
      let ds ← digits? Char.isDigit (unsigned s)
      if isWhole ds then some (if s.head? == some '-' then -(valueOf 10 ds : Int) else valueOf 10 ds) else none
  if inRange n then some n else none

/-- A number with a fraction, an exponent or both; or infinity, or no number. The separators are taken out. -/
def float? (s : List Char) : Option String :=
  let sign := if s.head? == some '-' then "-" else ""
  let body := unsigned s
  if body == ['i', 'n', 'f'] || body == ['n', 'a', 'n'] then some (sign ++ String.ofList body)
  else
    let (mantissa, exponent) := (body.takeWhile fun c => c != 'e' && c != 'E', body.dropWhile fun c => c != 'e' && c != 'E')
    let (whole, fraction) := (mantissa.takeWhile (· != '.'), mantissa.dropWhile (· != '.'))
    do
      let ds ← digits? Char.isDigit whole
      let fs ← match fraction with
        | [] => some []
        | _ :: f => digits? Char.isDigit f
      let es ← match exponent with
        | [] => some []
        | _ :: e => do
          let ds ← digits? Char.isDigit (unsigned e)
          some (if e.head? == some '-' then '-' :: ds else ds)
      if !isWhole ds || (fraction.isEmpty && exponent.isEmpty) then none
      else some (sign ++ String.ofList ds ++ (if fs.isEmpty then "" else "." ++ String.ofList fs) ++
        (if es.isEmpty then "" else "e" ++ String.ofList es))

/-- A number of exactly `count` digits at the head. -/
def fixed? (count : Nat) (s : List Char) : Option (Nat × List Char) :=
  let ds := s.take count
  if ds.length == count && ds.all Char.isDigit then some (valueOf 10 ds, s.drop count) else none

def expect? (c : Char) : List Char → Option (List Char)
  | d :: s => if c == d then some s else none
  | [] => none

def date? (s : List Char) : Option (List Char) := do
  let (y, s) ← fixed? 4 s
  let (m, s) ← fixed? 2 (← expect? '-' s)
  let (d, s) ← fixed? 2 (← expect? '-' s)
  if 1 ≤ m && m ≤ 12 && 1 ≤ d && d ≤ Calendar.daysIn y m then some s else none

def clock? (ed : Edition) (s : List Char) : Option (List Char) := do
  let (h, s) ← fixed? 2 s
  let (m, s) ← fixed? 2 (← expect? ':' s)
  if h ≥ 24 || m ≥ 60 then none
  else match s with
    | ':' :: s => do
      let (sec, s) ← fixed? 2 s
      if sec ≥ 60 then none
      else match s with
        | '.' :: f =>
          let ds := f.takeWhile Char.isDigit
          if ds.isEmpty then none else some (f.dropWhile Char.isDigit)
        | s => some s
    | s => if ed.relaxed then some s else none

def offset? (s : List Char) : Option Unit :=
  match s with
  | [] | ['Z'] | ['z'] => some ()
  | c :: s => do
    if c != '+' && c != '-' then none
    let (h, s) ← fixed? 2 s
    let (m, s) ← fixed? 2 (← expect? ':' s)
    if h < 24 && m < 60 && s.isEmpty then some () else none

/-- A date, a time of day, or both with an optional offset. -/
def time? (ed : Edition) (s : List Char) : Option String :=
  let whole := String.ofList s
  match date? s with
  | some [] => some whole
  | some (c :: after) => do
    if c != 'T' && c != 't' && c != ' ' then none
    let after ← clock? ed after
    offset? after
    some whole
  | none => do
    if (← clock? ed s).isEmpty then some whole else none

def isWordChar (c : Char) : Bool := c.isAlphanum || c == '_' || c == '-' || c == '+' || c == '.' || c == ':'

/-- A word that is no string: a truth value, a number or a time. A date may be followed by one space and a time of day. -/
def word? (ed : Edition) (s : Rest) : Option (Value × Rest) := do
  let word := s.takeWhile isWordChar
  let rest := s.dropWhile isWordChar
  let (word, rest) :=
    match date? word, rest with
    | some [], ' ' :: d :: more =>
      if d.isDigit then (word ++ ' ' :: (d :: more).takeWhile isWordChar, (d :: more).dropWhile isWordChar) else (word, rest)
    | _, _ => (word, rest)
  let value ←
    if word == "true".toList then some (Value.bool true)
    else if word == "false".toList then some (.bool false)
    else (integer? word).map .integer <|> (float? word).map .float <|> (time? ed word).map .time
  return (value, rest)

end Parcelgen.Toml

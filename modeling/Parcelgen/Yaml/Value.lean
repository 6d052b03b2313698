import Parcelgen.Calendar
import Parcelgen.Text.Bytes
import Parcelgen.Yaml.Node

/-! What a scalar means: the tag that is written, or the form of a plain scalar, decides its kind. -/

namespace Parcelgen.Yaml

inductive Meaning where
  | null
  | bool (b : Bool)
  | int (n : Int)
  /-- A number with a fraction or exponent, as written without separators; also infinity and no number. -/
  | float (text : String)
  | time
  | text (s : String)
deriving Repr, DecidableEq, Inhabited

def isNullWord (s : String) : Bool := ["", "~", "null", "Null", "NULL"].contains s

def boolWord? (s : String) : Option Bool :=
  if ["true", "True", "TRUE"].contains s then some true
  else if ["false", "False", "FALSE"].contains s then some false
  else none

def floatWord? (s : String) : Option String :=
  if [".nan", ".NaN", ".NAN"].contains s then some "nan"
  else if [".inf", ".Inf", ".INF", "+.inf", "+.Inf", "+.INF"].contains s then some "inf"
  else if ["-.inf", "-.Inf", "-.INF"].contains s then some "-inf"
  else none

def withoutSign (s : List Char) : List Char :=
  match s with
  | '+' :: s | '-' :: s => s
  | s => s

/-- The value of a whole number without sign: a letter after a zero gives the base, and a zero in front means base eight. -/
def wholeValue? : List Char → Option Nat
  | '0' :: 'x' :: s | '0' :: 'X' :: s => Text.digitsValue? 16 s
  | '0' :: 'b' :: s | '0' :: 'B' :: s => Text.digitsValue? 2 s
  | '0' :: 'o' :: s | '0' :: 'O' :: s => Text.digitsValue? 8 s
  | ['0'] => some 0
  | '0' :: s => Text.digitsValue? 8 s
  | s => Text.digitsValue? 10 s

/-- A whole number that fits into 64 bits, with a sign or without. -/
def wholeNumber? (s : List Char) : Option Int := do
  let n ← wholeValue? (withoutSign s)
  if s.head? == some '-' then (if n ≤ Nat.pow 2 63 then some (-(n : Int)) else none)
  else if s.head? == some '+' then (if n < Nat.pow 2 63 then some (n : Int) else none)
  else if n < Nat.pow 2 64 then some (n : Int) else none

/-- Decimal numbers with an optional fraction and exponent. -/
def isDecimal (s : List Char) : Bool :=
  let body := withoutSign s
  let whole := body.takeWhile Char.isDigit
  let after := body.dropWhile Char.isDigit
  let (hasFraction, fraction, after) := match after with
    | '.' :: f => (true, f.takeWhile Char.isDigit, f.dropWhile Char.isDigit)
    | s => (false, [], s)
  (if hasFraction && whole.isEmpty then !fraction.isEmpty else !whole.isEmpty) &&
    match after with
    | [] => true
    | c :: e =>
      let ds := withoutSign e
      (c == 'e' || c == 'E') && !ds.isEmpty && ds.all Char.isDigit

/-- One or two digits that make a number from `low` to `high`. -/
def shortNumber? (low high : Nat) (s : List Char) : Option (Nat × List Char) := do
  let ds := (s.take 2).takeWhile Char.isDigit
  let n ← Text.digitsValue? 10 ds
  if low ≤ n && n ≤ high then some (n, s.drop ds.length) else none

def after? (c : Char) : List Char → Option (List Char)
  | d :: s => if c == d then some s else none
  | [] => none

def zone? (s : List Char) : Bool :=
  match s with
  | ['Z'] => true
  | [sign, a, b, ':', c, d] =>
    (sign == '+' || sign == '-') && [a, b, c, d].all Char.isDigit &&
      ((Text.digitsValue? 10 [a, b]).any (· ≤ 24) && (Text.digitsValue? 10 [c, d]).any (· < 60))
  | _ => false

/-- A date, alone or with a time of day: after a `T` with a zone, after a space without one. -/
def isTime (s : List Char) : Bool := (read s).isSome
where
  read (s : List Char) : Option Unit := do
    let year := s.take 4
    if year.length != 4 || !year.all Char.isDigit then none
    let y ← Text.digitsValue? 10 year
    let (m, s) ← shortNumber? 1 12 (← after? '-' (s.drop 4))
    let (_, s) ← shortNumber? 1 (Calendar.daysIn y m) (← after? '-' s)
    match s with
    | [] => some ()
    | c :: s => do
      let (_, s) ← shortNumber? 0 23 s
      let (_, s) ← shortNumber? 0 59 (← after? ':' s)
      let (_, s) ← shortNumber? 0 59 (← after? ':' s)
      let s := match s with
        | '.' :: f => if f.head?.any Char.isDigit then f.dropWhile Char.isDigit else '.' :: f
        | s => s
      if c == ' ' && s.isEmpty then some ()
      else if (c == 'T' || c == 't') && zone? s then some ()
      else none

/-- The meaning of an untagged plain scalar; times are only looked for where asked. -/
def plainMeaning (times : Bool) (s : String) : Meaning :=
  if isNullWord s then .null
  else match boolWord? s, floatWord? s with
    | some b, _ => .bool b
    | _, some f => .float f
    | none, none =>
      match s.toList with
      | '.' :: _ => if isDecimal s.toList then .float s else .text s
      | c :: _ =>
        if !(c.isDigit || c == '+' || c == '-') then .text s
        else if times && isTime s.toList then .time
        else
          let digits := s.toList.filter (· != '_')
          match wholeNumber? digits with
          | some n => .int n
          | none => if isDecimal digits then .float (String.ofList digits) else .text s
      | [] => .null

/-- Six bits of a character of base 64. -/
def sextet? (c : Char) : Option Nat :=
  if c.isUpper then some (c.toNat - 'A'.toNat)
  else if c.isLower then some (c.toNat - 'a'.toNat + 26)
  else if c.isDigit then some (c.toNat - '0'.toNat + 52)
  else if c == '+' then some 62
  else if c == '/' then some 63
  else none

/-- The bytes of base 64 with padding. -/
def base64? : List Char → Option Text.Bytes
  | [] => some []
  | [a, b, '=', '='] => do
    let n := (← sextet? a) * 64 + (← sextet? b)
    return [(n / 16).toUInt8]
  | [a, b, c, '='] => do
    let n := ((← sextet? a) * 64 + (← sextet? b)) * 64 + (← sextet? c)
    return [(n / 1024).toUInt8, (n / 4).toUInt8]
  | a :: b :: c :: d :: s => do
    let n := (((← sextet? a) * 64 + (← sextet? b)) * 64 + (← sextet? c)) * 64 + (← sextet? d)
    return (n / 65536).toUInt8 :: (n / 256).toUInt8 :: n.toUInt8 :: (← base64? s)
  | _ => none

/-- The short form of a standard tag. -/
def shortTag (tag : String) : String :=
  let lead := "tag:yaml.org,2002:"
  if tag.startsWith lead then "!!" ++ (tag.drop lead.length).toString else tag

/-- The meaning of a scalar; `none` if its tag does not fit its text. -/
def scalarMeaning? (tag : Option String) (style : Style) (s : String) : Option Meaning :=
  let tag := shortTag ((tag.filter (· != "!")).getD "")
  let plain := plainMeaning (tag == "" || tag == "!!timestamp") s
  match tag with
  | "" => some (if style == .plain then plain else .text s)
  | "!!str" => some (.text s)
  | "!!binary" => do
    let bs ← base64? (s.toList.filter fun c => c != '\n' && c != '\r')
    return .text (← Text.ofBytes? bs)
  | "!!null" => if plain == .null then some plain else none
  | "!!bool" => match plain with
    | .bool _ => some plain
    | _ => none
  | "!!int" => match plain with
    | .int _ => some plain
    | _ => none
  | "!!float" => match plain with
    | .int n => some (.float (toString n))
    | .float _ => some plain
    | _ => none
  | "!!timestamp" => if plain == .time then some plain else none
  | _ => some (.text s)

/-- A key that stands for the entries of other mappings. -/
def Node.isMerge : Node → Bool
  | .scalar tag style s =>
    let tag := shortTag (tag.getD "")
    s == "<<" && (tag == "!!merge" || ((tag == "" || tag == "!") && style == .plain))
  | _ => false

/-- What makes two keys of a mapping the same. -/
def Node.keyIdentity : Node → Nat × String
  | .scalar _ _ s => (0, s)
  | .sequence _ => (1, "")
  | .mapping _ => (2, "")
  | .alias name _ => (3, name)
  | .enclosing name => (3, name)

def hasDuplicate : List (Nat × String) → Bool
  | [] => false
  | k :: ks => ks.contains k || hasDuplicate ks

/-- The text of a scalar, `some none` for a null; numbers and the like are taken as written, and collections have no text. -/
def Node.text? : Node → Option (Option String)
  | .scalar tag style s =>
    match scalarMeaning? tag style s with
    | some .null => some none
    | some (.text s) => some (some s)
    | some _ => some (some s)
    | none => none
  | .alias _ target => target.text?
  | _ => none

mutual

/-- The number of nodes, those that references lead to included. -/
def Node.size : Node → Nat
  | .scalar .. | .enclosing _ => 1
  | .sequence items => 1 + Node.itemsSize items
  | .mapping entries => 1 + Node.entriesSize entries
  | .alias _ target => 1 + target.size

def Node.itemsSize : List Node → Nat
  | [] => 0
  | first :: rest => 1 + first.size + Node.itemsSize rest

def Node.entriesSize : List (Node × Node) → Nat
  | [] => 0
  | (k, v) :: rest => 1 + k.size + v.size + Node.entriesSize rest

end

mutual

/-- The entries of a mapping by their names. Entries of merged mappings come after its own, unless their name is taken. -/
def membersOf? (taken : List String) (merging : Bool) : Nat → List (Node × Node) → Option (List (String × Node))
  | 0, _ => none
  | fuel + 1, entries => do
    if hasDuplicate (entries.map (·.1.keyIdentity)) then none
    let named ← entries.filterMapM fun (k, v) =>
      if k.isMerge then some none else do return (← k.text?).map (·, v)
    let own := if merging then named.filter (fun (k, _) => !taken.contains k) else named
    match entries.find? (·.1.isMerge) with
    | none => return own
    | some (_, source) => return own ++ (← mergedMembers? (own.map (·.1) ++ taken) fuel source)

/-- The entries that a merge key brings: those of a mapping or of several, of which the first wins. -/
def mergedMembers? (taken : List String) : Nat → Node → Option (List (String × Node))
  | 0, _ => none
  | fuel + 1, source =>
    match source with
    | .mapping entries | .alias _ (.mapping entries) => membersOf? taken true fuel entries
    | .sequence items => listedMembers? taken fuel items
    | _ => none

def listedMembers? (taken : List String) : Nat → List Node → Option (List (String × Node))
  | 0, _ => none
  | _, [] => some []
  | fuel + 1, first :: rest => do
    let entries ← match first with
      | .mapping entries | .alias _ (.mapping entries) => some entries
      | _ => none
    let members ← membersOf? taken true fuel entries
    return members ++ (← listedMembers? (members.map (·.1) ++ taken) fuel rest)

end

/-- The named entries of a mapping, with those it merges. -/
def Node.members? : Node → Option (List (String × Node))
  | .mapping entries => membersOf? [] false (2 * Node.entriesSize entries + 2) entries
  | .alias _ target => target.members?
  | _ => none

end Parcelgen.Yaml

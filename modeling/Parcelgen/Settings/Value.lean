import Parcelgen.Json.Read
import Parcelgen.Text.Case
import Parcelgen.Toml.Document
import Parcelgen.Yaml.Value

/-! Values of settings files, whatever their format. A value is taken as a text, a truth value or a list of texts if it can be. -/

namespace Parcelgen

inductive SettingValue where
  | null
  | bool (b : Bool)
  | int (n : Int)
  /-- A number with a fraction or exponent, as written; also infinity and no number. -/
  | float (text : String)
  | text (s : String)
  | time
  | list (items : List SettingValue)
  | table (members : List (String × SettingValue))
deriving Repr, BEq, Inhabited

namespace SettingValue

/-- Puts a member under its key in lower case; of two members with one key the later stands. -/
def putMember (key : String) (v : SettingValue) (members : List (String × SettingValue)) : List (String × SettingValue) :=
  let key := Text.lower key
  members.filter (·.1 != key) ++ [(key, v)]

mutual

def ofToml : Toml.Value → SettingValue
  | .string s => .text s
  | .integer n => .int n
  | .float digits => .float digits
  | .bool b => .bool b
  | .time _ => .time
  | .array items => .list (listOfToml items)
  | .table members => .table (tableOfToml members)

def listOfToml : List Toml.Value → List SettingValue
  | [] => []
  | v :: vs => ofToml v :: listOfToml vs

def tableOfToml : List (String × Toml.Value) → List (String × SettingValue)
  | [] => []
  | (key, v) :: rest => (Text.lower key, ofToml v) :: tableOfToml rest

end

mutual

def ofJson : Json → SettingValue
  | .null => .null
  | .bool b => .bool b
  | .number digits => .float digits
  | .string s => .text s
  | .array items => .list (listOfJson items)
  | .object members => .table (tableOfJson [] members)

def listOfJson : List Json → List SettingValue
  | [] => []
  | v :: vs => ofJson v :: listOfJson vs

def tableOfJson (done : List (String × SettingValue)) : List (String × Json) → List (String × SettingValue)
  | [] => done
  | (key, v) :: rest => tableOfJson (putMember key (ofJson v) done) rest

end

/-- The value of a node; `none` if it cannot be read. -/
def ofYaml? : Nat → Yaml.Node → Option SettingValue
  | 0, _ => none
  | fuel + 1, n =>
    match n with
    | .scalar tag style s =>
      (Yaml.scalarMeaning? tag style s).map fun
        | .null => .null
        | .bool b => .bool b
        | .int n => .int n
        | .float digits => .float digits
        | .time => .time
        | .text s => .text s
    | .sequence items => do return .list (← items.mapM (ofYaml? fuel))
    | .mapping _ => do
      let members ← (← n.members?).mapM fun (key, v) => do return (Text.lower key, ← ofYaml? fuel v)
      return .table members
    | .alias _ target => ofYaml? fuel target
    | .enclosing _ => none

/-- The digits of a number without those zeros at its ends that say nothing. -/
def withoutZeros (whole fraction : List Char) : String :=
  let whole := whole.dropWhile (· == '0')
  let fraction := (fraction.reverse.dropWhile (· == '0')).reverse
  String.ofList (if whole.isEmpty then ['0'] else whole) ++ (if fraction.isEmpty then "" else "." ++ String.ofList fraction)

/-- A decimal number written out without an exponent. -/
def positional (text : String) : String :=
  let cs := text.toList
  let sign := if cs.head? == some '-' then "-" else ""
  let body := Yaml.withoutSign cs
  let mantissa := body.takeWhile fun c => c != 'e' && c != 'E'
  let exponent := (body.dropWhile fun c => c != 'e' && c != 'E').drop 1
  let whole := mantissa.takeWhile (· != '.')
  let fraction := (mantissa.dropWhile (· != '.')).drop 1
  let n := (Text.digitsValue? 10 (Yaml.withoutSign exponent)).getD 0
  let (whole, fraction) :=
    if exponent.head? == some '-' then
      let padded := List.replicate (n - whole.length) '0' ++ whole
      (padded.take (padded.length - n), padded.drop (padded.length - n) ++ fraction)
    else (whole ++ fraction.take n ++ List.replicate (n - fraction.length) '0', fraction.drop n)
  sign ++ withoutZeros whole fraction

def floatText (text : String) : String :=
  match text with
  | "inf" => "+Inf"
  | "-inf" => "-Inf"
  | "nan" | "-nan" => "NaN"
  | text => positional text

/-- Numbers and truth values have a text, too. -/
def asText? : SettingValue → Option String
  | .text s => some s
  | .bool b => some (if b then "1" else "0")
  | .int n => some (toString n)
  | .float digits => some (floatText digits)
  | _ => none

def isZero (text : String) : Bool := ["0", "-0"].contains (floatText text)

/-- Zero is false and other numbers are true; a text must be a word for a truth value, or empty. -/
def asFlag? : SettingValue → Option Bool
  | .bool b => some b
  | .int n => some (n != 0)
  | .float digits => some (!isZero digits)
  | .text s =>
    if s == "" then some false else Text.flagWord? s
  | _ => none

/-- A text is cut at its commas, and another single value makes a list of one. -/
def asTexts? : SettingValue → Option (List String)
  | .text s => some (if s == "" then [] else s.splitOn ",")
  | .list items => items.mapM fun
    | .null => some ""
    | v => v.asText?
  | .table [] => some []
  | v => v.asText?.map ([·])

end SettingValue

end Parcelgen

/-! JSON values. Members keep their order, and numbers their text. -/

namespace Parcelgen

inductive Json where
  | null
  | bool (b : Bool)
  | number (text : String)
  | string (s : String)
  | array (items : List Json)
  | object (members : List (String × Json))
deriving Repr, BEq, Inhabited

namespace Json

/-- The value of the last member with this key. -/
def get? (v : Json) (key : String) : Option Json :=
  match v with
  | .object members => (members.reverse.find? (·.1 == key)).map (·.2)
  | _ => none

def string? : Json → Option String
  | .string s => some s
  | _ => none

def bool? : Json → Option Bool
  | .bool b => some b
  | _ => none

def array? : Json → Option (List Json)
  | .array items => some items
  | _ => none

def object? : Json → Option (List (String × Json))
  | .object members => some members
  | _ => none

/-- The value of a number written without fraction or exponent. -/
def int? : Json → Option Int
  | .number text =>
    match text.toList with
    | '-' :: digits => (digitsValue digits).map fun n => -(n : Int)
    | digits => (digitsValue digits).map fun n => (n : Int)
  | _ => none
where
  digitsValue (digits : List Char) : Option Nat :=
    if !digits.isEmpty && digits.all Char.isDigit then
      some (digits.foldl (fun n c => n * 10 + (c.toNat - '0'.toNat)) 0)
    else none

end Json

end Parcelgen

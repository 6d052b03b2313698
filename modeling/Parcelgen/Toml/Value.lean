/-! TOML values. Tables keep the order of their keys. -/

namespace Parcelgen.Toml

inductive Value where
  | string (s : String)
  | integer (n : Int)
  /-- A number with a fraction or exponent, or one that is no number, as written and without separators. -/
  | float (text : String)
  | bool (b : Bool)
  | time (text : String)
  | array (items : List Value)
  | table (members : List (String × Value))
deriving Repr, BEq, Inhabited

/-- How strictly a text is read. -/
structure Edition where
  /-- Allows line breaks and a trailing comma in inline tables, the escapes `\e` and `\x`, times without seconds, and dotted keys and headers
  that name the same table. -/
  relaxed : Bool
deriving Repr, DecidableEq, Inhabited

end Parcelgen.Toml

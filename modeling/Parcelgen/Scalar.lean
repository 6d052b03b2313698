/-! Fixed-width primitive values: their names in schemas, in C++ and in the buffer's accessors. -/

namespace Parcelgen

inductive Scalar where
  | bool
  | int8
  | uint8
  | int16
  | uint16
  | int32
  | uint32
  | int64
  | uint64
  | float
  | double
  /-- A value outside the closed set; it has no spelling. -/
  | unknown
deriving Repr, DecidableEq, Inhabited

namespace Scalar

/-- The closed set in its numbering. -/
def all : List Scalar :=
  [.bool, .int8, .uint8, .int16, .uint16, .int32, .uint32, .int64, .uint64, .float, .double]

def ofIndex (n : Nat) : Scalar := all.getD n .unknown

/-- Name in schema documents. -/
def name : Scalar → String
  | .bool => "bool"
  | .int8 => "int8"
  | .uint8 => "uint8"
  | .int16 => "int16"
  | .uint16 => "uint16"
  | .int32 => "int32"
  | .uint32 => "uint32"
  | .int64 => "int64"
  | .uint64 => "uint64"
  | .float => "float"
  | .double => "double"
  | .unknown => "unknown"

/-- Spelling in C++. -/
def ctype : Scalar → String
  | .bool => "bool"
  | .int8 => "int8_t"
  | .uint8 => "uint8_t"
  | .int16 => "int16_t"
  | .uint16 => "uint16_t"
  | .int32 => "int32_t"
  | .uint32 => "uint32_t"
  | .int64 => "int64_t"
  | .uint64 => "uint64_t"
  | .float => "float"
  | .double => "double"
  | .unknown => ""

/-- Last part of the names of the buffer's accessors for this scalar. -/
def accessor : Scalar → String
  | .bool => "Bool"
  | .int8 => "Int8"
  | .uint8 => "Uint8"
  | .int16 => "Int16"
  | .uint16 => "Uint16"
  | .int32 => "Int32"
  | .uint32 => "Uint32"
  | .int64 => "Int64"
  | .uint64 => "Uint64"
  | .float => "Float"
  | .double => "Double"
  | .unknown => ""

def isKnown : Scalar → Bool
  | .unknown => false
  | _ => true

/-- Integers can store an enum. -/
def isInteger : Scalar → Bool
  | .int8 | .uint8 | .int16 | .uint16 | .int32 | .uint32 | .int64 | .uint64 => true
  | _ => false

def ofName? (s : String) : Option Scalar := all.find? (·.name == s)

end Scalar

end Parcelgen

import Parcelgen.Scalar
import Parcelgen.Text.Qualified

/-! Wire types: the trees of types whose values travel through a parcel. -/

namespace Parcelgen

/-- Where a declaration stands, which decides its shape. -/
inductive StorageMode where
  /-- A local variable or struct member. -/
  | stack
  /-- An input parameter. -/
  | argument
  /-- A value handed back from a buffer read. -/
  | result
  /-- A value outside the closed set; nothing is declared so. -/
  | unknown
deriving Repr, DecidableEq, Inhabited

namespace StorageMode

/-- The closed set in its numbering. -/
def all : List StorageMode := [.stack, .argument, .result]

def ofIndex (n : Nat) : StorageMode := all.getD n .unknown

def name : StorageMode → String
  | .stack => "stack"
  | .argument => "argument"
  | .result => "result"
  | .unknown => "unknown"

def ofName? (s : String) : Option StorageMode := all.find? (·.name == s)

end StorageMode

inductive TypeKind where
  | scalar
  | string
  | vector
  | array
  | struct
  | enum
  | interface
deriving Repr, DecidableEq, Inhabited

namespace TypeKind

def all : List TypeKind := [.scalar, .string, .vector, .array, .struct, .enum, .interface]

def name : TypeKind → String
  | .scalar => "scalar"
  | .string => "string"
  | .vector => "vector"
  | .array => "array"
  | .struct => "struct"
  | .enum => "enum"
  | .interface => "interface"

/-- Values of the kind refer to a declared name. -/
def isNamed : TypeKind → Bool
  | .struct | .enum | .interface => true
  | _ => false

/-- The kind's name by number, past the closed set `unknown`. -/
def nameAt (n : Nat) : String := (all[n]?.map name).getD "unknown"

def isNamedAt (n : Nat) : Bool := (all[n]?.map isNamed).getD false

end TypeKind

inductive WireType where
  /-- The place of a type that was not given. -/
  | absent
  | scalar (s : Scalar)
  | string
  | vector (elem : WireType)
  /-- The dimension is a constant expression, kept as written. -/
  | array (elem : WireType) (dim : String)
  | struct (name : String) (fields : List (String × WireType))
  /-- Each enumerator with the text of its value, which may be empty. -/
  | enum (name : String) (storage : Scalar) (values : List (String × String))
  | interface (name : String)
deriving Repr, BEq, Inhabited

namespace WireType

def isAbsent : WireType → Bool
  | .absent => true
  | _ => false

def kind? : WireType → Option TypeKind
  | .absent => none
  | .scalar _ => some .scalar
  | .string => some .string
  | .vector _ => some .vector
  | .array _ _ => some .array
  | .struct _ _ => some .struct
  | .enum _ _ _ => some .enum
  | .interface _ => some .interface

/-- The qualified name of a struct, enum or interface. -/
def name : WireType → String
  | .struct n _ | .enum n _ _ | .interface n => n
  | _ => ""

def localName (t : WireType) : String := Text.localName t.name

mutual

/-- A value needs more than a copy of its bytes: the type is, or holds in its elements or members, a string, vector or handle. -/
def isEmbedded : WireType → Bool
  | .string | .vector _ | .interface _ => true
  | .array elem _ => elem.isEmbedded
  | .struct _ fields => anyEmbedded fields
  | .absent | .scalar _ | .enum _ _ _ => false

def anyEmbedded : List (String × WireType) → Bool
  | [] => false
  | (_, t) :: rest => t.isEmbedded || anyEmbedded rest

end

/-- A variable that receives a result of this type is a pointer. -/
def resultNeedsDeref : WireType → Bool
  | .string | .vector _ | .struct _ _ => true
  | _ => false

/-- Schema notation, with the dimensions of the arrays around it. -/
def describe : WireType → String → String
  | .absent, dims => "<nil>" ++ dims
  | .scalar s, dims => s.name ++ dims
  | .string, dims => "string" ++ dims
  | .vector elem, dims => "vec<" ++ elem.describe "" ++ ">" ++ dims
  | .array elem dim, dims => elem.describe (dims ++ "[" ++ dim ++ "]")
  | .struct n _, dims | .enum n _ _, dims | .interface n, dims => n ++ dims

/-- The type in schema notation, for instance `vec<Entry>[kMax]`. -/
def text (t : WireType) : String := t.describe ""

/-- The innermost type that is no array, and the dimensions around it from outside in. -/
def arrayShape : WireType → WireType × List String
  | .array elem dim => (elem.arrayShape.1, dim :: elem.arrayShape.2)
  | t => (t, [])

end WireType

end Parcelgen

import Parcelgen.WireType.Render

/-! Byte offsets inside a block, as C++ expressions: a base and one term for every step from it. -/

namespace Parcelgen

inductive OffsetTerm where
  /-- The element of an array or vector that a loop index selects. -/
  | element (index : String) (size : ByteSize)
  | member (struct field : String)
deriving Repr, DecidableEq, Inhabited

def OffsetTerm.text : OffsetTerm → String
  | .element index size => index ++ " * " ++ size.text
  | .member struct field => "offsetof(" ++ struct ++ ", " ++ field ++ ")"

structure Offset where
  base : String
  terms : List OffsetTerm := []
deriving Repr, DecidableEq, Inhabited

namespace Offset

def text (o : Offset) : String := o.base ++ String.join (o.terms.map fun t => " + " ++ t.text)

def step (o : Offset) (t : OffsetTerm) : Offset := { o with terms := o.terms ++ [t] }

end Offset

end Parcelgen

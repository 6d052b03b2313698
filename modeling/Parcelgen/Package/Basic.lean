import Parcelgen.WireType.Basic

/-! Packages: the types and interfaces that are generated together, in one namespace. -/

namespace Parcelgen

/-- A named argument or result. -/
structure Param where
  name : String
  type : WireType
deriving Repr, BEq, Inhabited

/-- One transaction. A oneway method does not wait for a reply and has no results. -/
structure Method where
  name : String
  args : List Param := []
  results : List Param := []
  oneway : Bool := false
deriving Repr, BEq, Inhabited

structure Interface where
  name : String
  methods : List Method := []
deriving Repr, BEq, Inhabited

def Interface.method? (i : Interface) (name : String) : Option Method := i.methods.find? (·.name == name)

structure Package where
  name : String
  /-- C++ namespace without a leading `::`; may be empty. -/
  space : String := ""
  types : List WireType := []
  interfaces : List Interface := []
deriving Repr, BEq, Inhabited

namespace Package

/-- The fully qualified name of a declaration of the package. -/
def qualify (p : Package) (name : String) : String :=
  if p.space == "" then "::" ++ name else "::" ++ p.space ++ "::" ++ name

/-- The namespaces around the package's declarations, from outside in. -/
def spaces (p : Package) : List String := if p.space == "" then [] else Text.components p.space

/-- The structs that need a walk over embedded content. -/
def embeddedStructs (p : Package) : List WireType :=
  p.types.filter fun t => t.kind? == some .struct && t.isEmbedded

end Package

end Parcelgen

/-! Schema documents: the declarations of one package as they are written down, types as text. -/

namespace Parcelgen.Schema

/-- A struct member or a method parameter. -/
structure FieldDecl where
  name : String := ""
  type : String := ""
deriving Repr, DecidableEq, Inhabited

/-- An enumerator; the value goes into generated code as written. -/
structure ValueDecl where
  name : String := ""
  value : String := ""
deriving Repr, DecidableEq, Inhabited

/-- A struct with fields, an enum with storage and values, or a typedef with a type. -/
structure TypeDecl where
  name : String := ""
  kind : String := ""
  fields : List FieldDecl := []
  storage : String := ""
  values : List ValueDecl := []
  type : String := ""
deriving Repr, DecidableEq, Inhabited

structure MethodDecl where
  name : String := ""
  args : List FieldDecl := []
  results : List FieldDecl := []
  oneway : Bool := false
deriving Repr, DecidableEq, Inhabited

structure InterfaceDecl where
  name : String := ""
  methods : List MethodDecl := []
deriving Repr, DecidableEq, Inhabited

structure Document where
  package : String := ""
  space : String := ""
  types : List TypeDecl := []
  interfaces : List InterfaceDecl := []
deriving Repr, DecidableEq, Inhabited

end Parcelgen.Schema

/-!
Resolved component interfaces: numbered type definitions that refer to each other, and the packages they came from. A slot of the numbering
may be empty, and a reference may lead to a definition that has no slot.
-/

namespace Parcelgen.Wit

inductive Primitive where
  | bool
  | s8
  | u8
  | s16
  | u16
  | s32
  | u32
  | s64
  | u64
  | f32
  | f64
  | char
  | string
  | errorContext
deriving Repr, DecidableEq, Inhabited

def Primitive.ofName? : String → Option Primitive
  | "bool" => some .bool
  | "s8" => some .s8
  | "u8" => some .u8
  | "s16" => some .s16
  | "u16" => some .u16
  | "s32" => some .s32
  | "u32" => some .u32
  | "s64" => some .s64
  | "u64" => some .u64
  | "f32" | "float32" => some .f32
  | "f64" | "float64" => some .f64
  | "char" => some .char
  | "string" => some .string
  | "error-context" => some .errorContext
  | _ => none

/-- A use of a type. Definitions are referred to by identity. -/
inductive TypeRef where
  | absent
  | primitive (p : Primitive)
  | defined (id : Nat)
deriving Repr, DecidableEq, Inhabited

inductive Kind where
  | record (fields : List (String × TypeRef))
  | enum (cases : List String)
  | flags (names : List String)
  | tuple (types : List TypeRef)
  | list (elem : TypeRef)
  | resource
  /-- An owned or borrowed handle. -/
  | handle (resource : TypeRef)
  | option
  | result
  | variant
  | future
  | stream
  | alias (type : TypeRef)
deriving Repr, DecidableEq, Inhabited

structure TypeDef where
  name : Option String := none
  kind : Option Kind := none
deriving Repr, DecidableEq, Inhabited

structure Resolve where
  /-- Definitions by identity. -/
  defs : List TypeDef := []
  /-- The numbering: the identity of the definition in each slot. -/
  slots : List (Option Nat) := []
  /-- Package names without namespace and version. -/
  packages : List String := []
deriving Repr, DecidableEq, Inhabited

def Resolve.def? (r : Resolve) (id : Nat) : Option TypeDef := r.defs[id]?

end Parcelgen.Wit

import Parcelgen.Marshal.Stmt
import Parcelgen.NameScope

/-! Where marshalling statements stand: the buffer, the direction, the way to unwind, and the names already given. -/

namespace Parcelgen

structure Site where
  dialect : Dialect := {}
  buffer : Buffer
  reader : Bool := false
  mode : Unwind
deriving Repr, DecidableEq, Inhabited

/-- Computations that take names. Without a scope names are given as asked for. -/
abbrev Naming := StateM (Option NameScope)

/-- A name for a generated variable that belongs to the expression `expr`. -/
def Site.nameFor (site : Site) (expr tail : String) : Naming String := do
  let name := site.dialect.ident expr tail
  match ← get with
  | none => return name
  | some scope =>
    let (taken, scope) := scope.take name
    set (some scope)
    return taken

/-- An expression for a value, or for a pointer to it. -/
structure Place where
  text : String
  isPointer : Bool := false
deriving Repr, DecidableEq, Inhabited

namespace Place

/-- The value. -/
def value (p : Place) : String := (if p.isPointer then "*" else "") ++ p.text

/-- In front of the name of a member. -/
def select (p : Place) : String := p.text ++ (if p.isPointer then "->" else ".")

def member (p : Place) (field : String) : Place := { text := p.select ++ field }

/-- The vector itself, ready to be indexed. -/
def vector (p : Place) : String := if p.isPointer then "(*" ++ p.text ++ ")" else p.text

/-- An array and a pointer to its first element are indexed alike. -/
def element (text index : String) : Place := { text := text ++ "[" ++ index ++ "]" }

end Place

end Parcelgen

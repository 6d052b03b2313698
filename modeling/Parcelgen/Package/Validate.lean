import Parcelgen.Dialect
import Parcelgen.Package.Basic

/-! The shape a package must have before anything is generated from it: names that are there and distinct. -/

namespace Parcelgen

namespace Package

/-- Types are structs and enums under distinct local names; the result is all names seen. -/
def validateTypes (pkg : String) (seen : List String) : List WireType → Except Fault (List String)
  | [] => .ok seen
  | t :: ts =>
    match t with
    | .absent => .error (.invalidInput .generate [pkg] "nil type")
    | .struct _ _ | .enum _ _ _ =>
      if seen.contains t.localName then .error (.duplicate .generate [pkg] "type" t.localName)
      else validateTypes pkg (t.localName :: seen) ts
    | t => .error (.unsupported .generate t.text "only structs and enums can be declared")

/-- Parameters have names and types, distinct names, and stay clear of the names that generated code uses. -/
def validateParams (path : List String) (lead : String) (seen : List String) : List Param → Except Fault Unit
  | [] => .ok ()
  | p :: ps =>
    if p.name == "" || p.type.isAbsent then .error (.invalidInput .generate path "parameter needs a name and a type")
    else if lead != "" && lead.toList.isPrefixOf p.name.toList then
      .error (.invalidInput .generate (path ++ [p.name]) "parameter names must not use the reserved prefix")
    else if seen.contains p.name then .error (.duplicate .generate path "parameter" p.name)
    else validateParams path lead (p.name :: seen) ps

def validateMethods (path : List String) (lead : String) (seen : List String) : List Method → Except Fault Unit
  | [] => .ok ()
  | m :: ms =>
    if m.name == "" then .error (.invalidInput .generate path "method name is empty")
    else if seen.contains m.name then .error (.duplicate .generate path "method" m.name)
    else if m.oneway && !m.results.isEmpty then
      .error (.invalidInput .generate (path ++ [m.name]) "oneway method cannot have results")
    else do
      validateParams (path ++ [m.name]) lead [] (m.args ++ m.results)
      validateMethods path lead (m.name :: seen) ms

def validateInterfaces (pkg lead : String) (seen : List String) : List Interface → Except Fault Unit
  | [] => .ok ()
  | i :: is => do
    if i.name == "" then throw (.invalidInput .generate [pkg] "interface name is empty")
    validateMethods [pkg, i.name] lead [] i.methods
    if seen.contains i.name then throw (.duplicate .generate [pkg] "interface" i.name)
    validateInterfaces pkg lead (i.name :: seen) is

/-- The first thing wrong with the package's shape. Type trees are looked at only when they are emitted. -/
def validate (d : Dialect) (p : Package) : Except Fault Unit := do
  if p.name == "" then throw (.invalidInput .generate [] "package name is empty")
  let seen ← validateTypes p.name [] p.types
  validateInterfaces p.name d.lead seen p.interfaces

end Package

end Parcelgen

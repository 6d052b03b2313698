import Parcelgen.Marshal.TopLevel

/-! C++ definitions of structs and enums. -/

namespace Parcelgen

namespace WireType

/-- One line for every member, up to the first that has no spelling. -/
def memberLines (d : Dialect) (name : String) : List (String × WireType) → List Layout
  | [] => []
  | (field, t) :: rest =>
    match t.declarator d .stack field with
    | .ok decl => .text (decl ++ ";\n") :: memberLines d name rest
    | .error f => [.fail (f.within [name, field])]

def enumeratorLine : String × String → Layout
  | (name, value) => .text (if value == "" then name ++ ",\n" else name ++ " = " ++ value ++ ",\n")

/-- The definition of a struct or enum under its local name. -/
def declaration (d : Dialect) (t : WireType) : List Layout :=
  match t with
  | .struct name fields =>
    match t.missing? with
    | some f => [.fail f]
    | none => [.scope ("struct " ++ t.localName ++ " final \x7b") "\x7d;" (memberLines d name fields) "\n"]
  | .enum name storage values =>
    if storage.isInteger then
      [.scope ("enum class " ++ t.localName ++ " : " ++ storage.ctype ++ " \x7b") "\x7d;" (values.map enumeratorLine) "\n"]
    else [.fail (Site.badStorage .declare name storage)]
  | _ => [.fail (Fault.unsupported .declare t.text "only structs and enums have declarations")]

end WireType

end Parcelgen

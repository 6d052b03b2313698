import Parcelgen.Marshal.TopLevel
import Parcelgen.Package.Validate

/-! Generators: checked options, and the spellings that header and source share. -/

namespace Parcelgen

structure Options where
  /-- Without a dialect the standard one is used. -/
  dialect : Option Dialect := none
  proxyMode : Unwind := .goto
  stubMode : Unwind := .goto
  /-- Adds functions that read and write the embedded content of each struct. -/
  typeHelpers : Bool := true
  includes : List String := [
    "<hidl/HidlSupport.h>", "<hidl/HidlTransportSupport.h>", "<hwbinder/IBinder.h>", "<hwbinder/Parcel.h>", "<functional>"]
deriving Repr, DecidableEq, Inhabited

structure Generator where
  dialect : Dialect
  proxyMode : Unwind
  stubMode : Unwind
  typeHelpers : Bool
  includes : List String
deriving Repr, DecidableEq, Inhabited

/-- The generated text of one package. -/
structure Output where
  package : String
  headerName : String
  sourceName : String
  header : String
  source : String
deriving Repr, DecidableEq, Inhabited

namespace Generator

/-- Both modes must have a statement, and neither may leave a loop or a case: proxies have none around them, and in a stub an element loop
would stand between the failure and the case. -/
def ofOptions (o : Options) : Except Fault Generator := do
  let d := o.dialect.getD {}
  let _ ← o.proxyMode.statement d.vocabulary
  let _ ← o.stubMode.statement d.vocabulary
  if o.proxyMode == .exit then
    throw (.invalidInput .config [] "proxy error mode cannot be break: proxies have no enclosing loop or switch")
  if o.stubMode == .exit then
    throw (.invalidInput .config []
      "stub error mode cannot be break: a break inside an element loop does not leave the dispatch case")
  return {
    dialect := d, proxyMode := o.proxyMode, stubMode := o.stubMode, typeHelpers := o.typeHelpers, includes := o.includes }

def dataVar (g : Generator) : String := g.dialect.lead ++ "data"

def replyVar (g : Generator) : String := g.dialect.lead ++ "reply"

def callbackVar (g : Generator) : String := g.dialect.lead ++ "cb"

/-- The variable of a proxy that a result is read into. -/
def outVar (g : Generator) (p : Param) : String := g.dialect.lead ++ "out_" ++ p.name

/-- A strong pointer to a binder object. -/
def binderPointer (g : Generator) : String := g.dialect.strongPointerTo g.dialect.binderType

/-- The declarators of parameters; a fault is placed at the parameter's name. -/
def declarators (g : Generator) (mode : StorageMode) : List Param → Except Fault (List String)
  | [] => .ok []
  | p :: ps =>
    match p.type.declarator g.dialect mode p.name with
    | .error f => .error (f.within [p.name])
    | .ok decl => do return decl :: (← g.declarators mode ps)

/-- `name(args…, name_cb callback)`, with the callback only when there are results. -/
def methodSignature (g : Generator) (m : Method) : Except Fault String := do
  let params ← g.declarators .argument m.args
  let params := if m.results.isEmpty then params else params ++ [m.name ++ "_cb " ++ g.callbackVar]
  return m.name ++ "(" ++ ", ".intercalate params ++ ")"

def transactParams (g : Generator) (i : Interface) : List String :=
  let d := g.dialect
  [i.name ++ "* " ++ d.lead ++ "this", "uint32_t " ++ d.lead ++ "code", "const " ++ d.parcelType ++ "& " ++ g.dataVar,
    d.parcelType ++ "* " ++ g.replyVar]

/-- A declaration whose parameters stand on lines of their own. -/
def hangingSignature (head : String) (params : List String) (tail : String) : List Layout :=
  .text (head ++ "(\n") :: Layout.hanging (",\n".intercalate params ++ ")" ++ tail) ++
    (if tail == "" then [] else [.text "\n"])

/-- The function that reads or writes the embedded content of a struct. -/
def helperSignature (g : Generator) (t : WireType) (reader : Bool) : List Layout :=
  let d := g.dialect
  let (name, parcel) :=
    if reader then (d.readEmbedded, "const " ++ d.parcelType ++ " &parcel") else (d.writeEmbedded, d.parcelType ++ " *parcel")
  hangingSignature (d.statusType ++ " " ++ name)
    ["const " ++ t.localName ++ " &obj", parcel, "size_t parentHandle", "size_t parentOffset"] ""

/-- Drops the letter that marks an interface: `IFoo` gives `Foo`. -/
def baseName (name : String) : String :=
  match name.toList with
  | 'I' :: c :: rest => if c.isUpper then String.ofList (c :: rest) else name
  | _ => name

def proxyName (i : Interface) : String := "Bp" ++ baseName i.name

def stubName (i : Interface) : String := "Bn" ++ baseName i.name

/-- A failure, or what follows a success. -/
def orFail {α : Type} (r : Except Fault α) (k : α → List Layout) : List Layout :=
  match r with
  | .ok a => k a
  | .error f => [.fail f]

/-- The body inside one namespace block for each part. -/
def inNamespace (parts : List String) (body : List Layout) : List Layout :=
  let gap : List Layout := if parts.isEmpty then [] else [.text "\n"]
  parts.map (fun part => .text ("namespace " ++ part ++ " \x7b\n")) ++ gap ++ body ++
    parts.reverse.map (fun part => .text ("\x7d  // namespace " ++ part ++ "\n")) ++ gap ++ [.settle]

def debug (message : String) (fields : List (String × EventValue)) : Event := { level := "debug", message, fields }

end Generator

end Parcelgen

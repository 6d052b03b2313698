import Parcelgen.Declaration
import Parcelgen.Generator.Basic

/-!
Headers: the declarations of a package. Interfaces are named first, because members of types may hold handles to them; then come the types,
the helper functions and, for each interface, the interface itself, its proxy and its dispatch stub.
-/

namespace Parcelgen

/-- A declaration at namespace level. -/
inductive Decl where
  | forward (name : String)
  | gap
  | type (t : WireType)
  | helpers (t : WireType)
  | interface (i : Interface)
  | proxy (i : Interface)
  | stub (i : Interface)

namespace Decl

/-- The struct or enum that the declaration defines. -/
def defines? : Decl → Option String
  | .type t => some t.localName
  | .interface i => some i.name
  | .proxy i => some (Generator.proxyName i)
  | .stub i => some (Generator.stubName i)
  | .forward _ | .gap | .helpers _ => none

end Decl

namespace Package

/-- The declarations of a package in the order of its header. -/
def declarations (p : Package) (typeHelpers : Bool) : List Decl :=
  p.interfaces.map (.forward ·.name) ++ (if p.interfaces.isEmpty then [] else [.gap]) ++ p.types.map .type ++
    (if typeHelpers then p.embeddedStructs.map .helpers else []) ++
    p.interfaces.flatMap fun i => [.interface i, .proxy i, .stub i]

/-- The macro that guards the header against being read twice. -/
def includeGuard (p : Package) : String :=
  let name := ("_".intercalate (Text.components p.space) ++ "_" ++ p.name).toList
  let name := if name.head? == some '_' then name.tail else name
  let word (c : Char) : Char := let u := Text.toUpper c; if u.isUpper || u.isDigit then u else '_'
  "MARSHALGEN_" ++ String.ofList (name.map word) ++ "_H"

end Package

namespace Generator

def operationLines : Nat → List Method → List Layout
  | _, [] => []
  | n, m :: ms => .text ("kOp_" ++ m.name ++ " = " ++ toString n ++ ",\n") :: operationLines (n + 1) ms

/-- The abstract method, and the type of its callback when it has results. -/
def methodDecl (g : Generator) (i : Interface) (m : Method) : List Layout :=
  let callback :=
    if m.results.isEmpty then []
    else orFail (g.declarators .argument m.results) fun params =>
      [.text ("using " ++ m.name ++ "_cb = std::function<void(" ++ ", ".intercalate params ++ ")>;\n")]
  let method := orFail (g.methodSignature m) fun sig => [.text ("virtual " ++ g.dialect.statusType ++ " " ++ sig ++ " = 0;\n\n")]
  [.note (debug "declare method" [("interface", .text i.name), ("method", .text m.name)]), .within [m.name] (callback ++ method)]

def interfaceDecl (g : Generator) (i : Interface) : List Layout :=
  let d := g.dialect
  let operations : List Layout :=
    if i.methods.isEmpty then []
    else [.scope "enum : uint32_t \x7b" "\x7d;" (operationLines 1 i.methods) "", .text "\n"]
  [.scope ("struct " ++ i.name ++ " \x7b") "\x7d;"
    ([.text "static const char* descriptor;\n\n"] ++ operations ++ i.methods.flatMap (g.methodDecl i) ++ [
      .text ("virtual ~" ++ i.name ++ "() \x7b\x7d\n\n"),
      .text ("static " ++ d.strongPointerTo i.name ++ " asInterface(const " ++ g.binderPointer ++ "& binder);\n"),
      .text ("static " ++ g.binderPointer ++ " asBinder(const " ++ d.strongPointerTo i.name ++ "& iface);\n")]) "",
    .text "\n"]

def proxyDecl (g : Generator) (i : Interface) : List Layout :=
  let methods := i.methods.flatMap fun m => [
    Layout.within [m.name] (orFail (g.methodSignature m) fun sig => [.text (g.dialect.statusType ++ " " ++ sig ++ " override;\n")])]
  [.scope ("struct " ++ proxyName i ++ " final : public " ++ i.name ++ " \x7b") "\x7d;"
    ([.text ("explicit " ++ proxyName i ++ "(const " ++ g.binderPointer ++ "& remote);\n\n")] ++ methods ++
      (if i.methods.isEmpty then [] else [.text "\n"]) ++ Layout.outdented "private:\n" ++
      [.text (g.binderPointer ++ " mRemote;\n")]) "",
    .text "\n"]

def stubDecl (g : Generator) (i : Interface) : List Layout :=
  [.scope ("struct " ++ stubName i ++ " \x7b") "\x7d;"
    (hangingSignature ("static " ++ g.dialect.statusType ++ " onTransact") (g.transactParams i) ";") "\n"]

def declLayout (g : Generator) : Decl → List Layout
  | .forward name => [.text ("struct " ++ name ++ ";\n")]
  | .gap => [.text "\n"]
  | .type t => .note (debug "declare type" [("type", .text t.name)]) :: t.declaration g.dialect
  | .helpers t =>
    g.helperSignature t true ++ [.text ";\n\n"] ++ g.helperSignature t false ++ [.text ";\n\n"]
  | .interface i => [.within [i.name] (g.interfaceDecl i)]
  | .proxy i => [.within [i.name] (g.proxyDecl i)]
  | .stub i => [.within [i.name] (g.stubDecl i)]

/-- The header of a package. -/
def header (g : Generator) (p : Package) : List Layout :=
  let guard := p.includeGuard
  [.text ("#ifndef " ++ guard ++ "\n#define " ++ guard ++ "\n\n")] ++
    g.includes.map (fun inc => .text ("#include " ++ inc ++ "\n")) ++
    (if g.includes.isEmpty then [] else [.text "\n"]) ++
    inNamespace p.spaces ((p.declarations g.typeHelpers).flatMap g.declLayout) ++
    [.text ("#endif  // " ++ guard ++ "\n"), .settle]

end Generator

end Parcelgen

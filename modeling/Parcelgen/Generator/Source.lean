import Parcelgen.Generator.Basic

/-!
Sources: the definitions that belong to a package's header. Helpers resolve the embedded content of a struct inside the caller's block;
proxies marshal arguments, transact and unmarshal results; stubs do the same from the other side, one switch case for each method.
-/

namespace Parcelgen

/-- A function definition: the text in front of its body, the body, and the text behind it, printed whether or not the body fails. -/
structure FunctionDef where
  opening : List Layout
  body : List Stmt
  after : String := ""

def FunctionDef.layout (d : Dialect) (f : FunctionDef) : List Layout :=
  f.opening ++ [.scope "\x7b" "\x7d" (Stmt.layoutAll d f.body) f.after]

namespace Generator

/-- Runs a naming computation for a new function in which `reserved` names are taken. -/
def inFunction {α : Type} (reserved : List String) (names : Naming α) : α :=
  (names.run (some (NameScope.reserve {} reserved))).1

/-- A variable declared in result mode; a fault is placed at the name of the parameter. -/
def resultDecl (g : Generator) (p : Param) (name : String) : Stmt :=
  match p.type.spell g.dialect .result with
  | .ok s => .declare s.name name s.suffix
  | .error f => .fail (f.within [p.name])

/-- A result variable as an argument. -/
def passed (p : Param) (name : String) : String := if p.type.resultNeedsDeref then "*" ++ name else name

/-- Moves each parameter, under the variable that `name` gives it. -/
def transferAll (site : Site) (name : Param → String) : List Param → Naming (List Stmt)
  | [] => return []
  | p :: ps => do
    let here ← site.topLevel p.type (name p)
    return .within [p.name] here :: (← transferAll site name ps)

def helper (g : Generator) (t : WireType) (reader : Bool) : FunctionDef :=
  let d := g.dialect
  let site : Site := { dialect := d, buffer := { name := "parcel", isPointer := !reader }, reader, mode := .return }
  { opening := g.helperSignature t reader ++ [.text " "]
    body :=
      [.declare d.statusType d.errVar (" = " ++ d.ok), .blank] ++
        inFunction [] (site.embedded t { text := "obj" } "parentHandle" "parentOffset") ++ [.leave] }

def helpers (g : Generator) (t : WireType) : List Layout :=
  [true, false].flatMap fun reader =>
    [.note (debug "emit helper" [("type", .text t.name), ("reader", .flag reader)])] ++ (g.helper t reader).layout g.dialect ++
      [.text "\n"]

/-- The body of a proxy. All results are declared before the first jump, so no jump crosses an initialisation. -/
def proxyBody (g : Generator) (i : Interface) (m : Method) : List Stmt :=
  let d := g.dialect
  let writer : Site := { dialect := d, buffer := { name := g.dataVar }, mode := g.proxyMode }
  let reader : Site := { dialect := d, buffer := { name := g.replyVar }, reader := true, mode := g.proxyMode }
  let operation := d.errVar ++ " = mRemote->" ++ d.transact ++ "(" ++ i.name ++ "::kOp_" ++ m.name ++ ", " ++ g.dataVar
  let transact := if m.oneway then operation ++ ", nullptr, " ++ d.onewayFlag ++ ");\n" else operation ++ ", &" ++ g.replyVar ++ ");\n"
  let (args, results) := inFunction (m.results.map g.outVar) do
    let args ← transferAll writer (·.name) m.args
    let results ← transferAll reader g.outVar m.results
    return (args, results)
  [.declare d.parcelType g.dataVar ""] ++ (if m.oneway then [] else [.declare d.parcelType g.replyVar ""]) ++
    [.declare d.statusType d.errVar ""] ++ m.results.map (fun r => g.resultDecl r (g.outVar r)) ++ [.blank] ++
    [.code (d.errVar ++ " = " ++ g.dataVar ++ "." ++ d.writeToken ++ "(" ++ i.name ++ "::descriptor);\n"), .check g.proxyMode] ++
    args ++ [.code transact, .check g.proxyMode] ++
    (if m.results.isEmpty then []
      else results ++ [
        .code (g.callbackVar ++ "(" ++ ", ".intercalate (m.results.map fun r => passed r (g.outVar r)) ++ ");\n\n")]) ++
    (if g.proxyMode == .goto then [.label] else []) ++ [.leave]

def proxy (g : Generator) (i : Interface) (m : Method) : List Layout :=
  orFail (g.methodSignature m) fun sig =>
    FunctionDef.layout g.dialect {
      opening := [.text (g.dialect.statusType ++ " " ++ proxyName i ++ "::" ++ sig ++ " ")]
      body := g.proxyBody i m
      after := "\n" }

/-- The case of a method. Results are written inside the callback, which returns nothing, so a failed write only leaves its status. -/
def stubCase (g : Generator) (i : Interface) (m : Method) : List Stmt :=
  let d := g.dialect
  let reader : Site := { dialect := d, buffer := { name := g.dataVar }, reader := true, mode := g.stubMode }
  let writer : Site := { dialect := d, buffer := { name := g.replyVar, isPointer := true }, mode := .ignore }
  let (args, results) := inFunction [] do
    let args ← m.args.mapM fun a => do
      let moved ← reader.topLevel a.type a.name
      return [g.resultDecl a a.name, .blank, .within [a.name] moved]
    let results ← transferAll writer (·.name) m.results
    return (args.flatten, results)
  let call := m.args.map fun a => passed a a.name
  let head := d.errVar ++ " = " ++ d.lead ++ "this->" ++ m.name ++ "("
  let finish : List Stmt :=
    if m.results.isEmpty then [.code (head ++ ", ".intercalate call ++ ");\n"), .leaveCase]
    else match g.declarators .argument m.results with
      | .error f => [.fail f]
      | .ok params =>
        let lambda := "[&](" ++ ", ".intercalate params ++ ") \x7b"
        [.callback (head ++ ", ".intercalate (call ++ [lambda])) results, .blank, .leaveCase]
  [.block ("if (!" ++ g.dataVar ++ "." ++ d.enforceToken ++ "(" ++ i.name ++ "::descriptor)) ")
    [.code (d.errVar ++ " = " ++ d.badType ++ ";\n"), .unwind g.stubMode] "", .blank] ++ args ++ finish

def stubBody (g : Generator) (i : Interface) : List Stmt :=
  let d := g.dialect
  let cases := i.methods.flatMap fun m => [
    Stmt.note (debug "emit stub" [("interface", .text i.name), ("method", .text m.name)]),
    .code ("case " ++ i.name ++ "::kOp_" ++ m.name ++ ":\n"),
    .within [m.name] [.block "" (g.stubCase i m) ""],
    .blank]
  let otherwise := [
    Stmt.code "default:\n", .block "" [.code (d.errVar ++ " = " ++ d.unknownTransaction ++ ";\n"), .leaveCase] ""]
  [.declare d.statusType d.errVar (" = " ++ d.ok), .blank, .block ("switch (" ++ d.lead ++ "code) ") (cases ++ otherwise) "", .blank] ++
    (if g.stubMode == .goto && !i.methods.isEmpty then [.label] else []) ++ [.leave]

def stub (g : Generator) (i : Interface) : FunctionDef :=
  { opening := hangingSignature (g.dialect.statusType ++ " " ++ stubName i ++ "::onTransact") (g.transactParams i) "" ++ [.text " "]
    body := g.stubBody i
    after := "\n" }

/-- The text that names an interface at run time. -/
def descriptor (p : Package) (i : Interface) : String :=
  Text.quote (String.ofList ((p.qualify i.name).toList.drop 2))

def interfaceSource (g : Generator) (p : Package) (i : Interface) : List Layout :=
  let proxies := i.methods.flatMap fun m => [
    Layout.note (debug "emit proxy" [("interface", .text i.name), ("method", .text m.name)]), .within [m.name] (g.proxy i m)]
  [.text ("const char* " ++ i.name ++ "::descriptor = " ++ descriptor p i ++ ";\n\n"),
    .text (proxyName i ++ "::" ++ proxyName i ++ "(const " ++ g.binderPointer ++ "& remote)\n")] ++
    Layout.hanging ": mRemote(remote) \x7b\x7d\n\n" ++ proxies ++ (g.stub i).layout g.dialect

/-- The source of a package. -/
def source (g : Generator) (p : Package) : List Layout :=
  .text ("#include \"" ++ p.name ++ ".h\"\n\n") ::
    inNamespace p.spaces
      ((if g.typeHelpers then p.embeddedStructs.map fun t => .within [t.name] (g.helpers t) else []) ++
        p.interfaces.map fun i => .within [i.name] (g.interfaceSource p i))

end Generator

end Parcelgen

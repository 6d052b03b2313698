import Parcelgen.Generator.Output
import Parcelgen.Proofs.Marshal.Declarable

/-!
When generation succeeds. A package is generated exactly when it is valid and nothing in its header and source fails
(`generated_eq_ok_iff`); what can fail in them is said part by part, down to the spelling of parameters and the transfers of a method.
-/

namespace Parcelgen

open Naming

namespace Generator

/-- The writing site of a proxy. -/
def proxyWriter (g : Generator) : Site := { dialect := g.dialect, buffer := { name := g.dataVar }, mode := g.proxyMode }

def proxyReader (g : Generator) : Site := { dialect := g.dialect, buffer := { name := g.replyVar }, reader := true, mode := g.proxyMode }

def stubReader (g : Generator) : Site := { dialect := g.dialect, buffer := { name := g.dataVar }, reader := true, mode := g.stubMode }

/-- The writing site of a stub, inside the callback. -/
def stubWriter (g : Generator) : Site := { dialect := g.dialect, buffer := { name := g.replyVar, isPointer := true }, mode := .ignore }

def proxyScope (g : Generator) (m : Method) : Option NameScope := some (NameScope.reserve {} (m.results.map g.outVar))

/-- The statements of a proxy that move the arguments. -/
def proxyArgs (g : Generator) (m : Method) : List Stmt := out (transferAll g.proxyWriter (·.name) m.args) (g.proxyScope m)

def proxyResults (g : Generator) (m : Method) : List Stmt :=
  out (transferAll g.proxyReader g.outVar m.results) (scopeAfter (transferAll g.proxyWriter (·.name) m.args) (g.proxyScope m))

/-- A stub declares each argument in front of the statements that read it. -/
def stubArg (g : Generator) (a : Param) : Naming (List Stmt) := do
  let moved ← g.stubReader.topLevel a.type a.name
  return [g.resultDecl a a.name, .blank, .within [a.name] moved]

def stubScope : Option NameScope := some (NameScope.reserve {} [])

def stubArgs (g : Generator) (m : Method) : List Stmt := (out (m.args.mapM g.stubArg) stubScope).flatten

def stubResults (g : Generator) (m : Method) : List Stmt :=
  out (transferAll g.stubWriter (·.name) m.results) (scopeAfter (m.args.mapM g.stubArg) stubScope)

theorem proxyBody_eq (g : Generator) (i : Interface) (m : Method) : ∃ token transact callback,
    g.proxyBody i m =
      [Stmt.declare g.dialect.parcelType g.dataVar ""] ++
        (if m.oneway then [] else [Stmt.declare g.dialect.parcelType g.replyVar ""]) ++
        [Stmt.declare g.dialect.statusType g.dialect.errVar ""] ++ m.results.map (fun r => g.resultDecl r (g.outVar r)) ++ [Stmt.blank] ++
        [Stmt.code token, .check g.proxyMode] ++ g.proxyArgs m ++ [Stmt.code transact, .check g.proxyMode] ++
        (if m.results.isEmpty then [] else g.proxyResults m ++ [Stmt.code callback]) ++
        (if g.proxyMode == .goto then [Stmt.label] else []) ++ [Stmt.leave] :=
  ⟨_, _, _, rfl⟩

theorem stubCase_eq (g : Generator) (i : Interface) (m : Method) : ∃ token badToken plainCall, ∃ call : List String → String,
    g.stubCase i m =
      [Stmt.block token [.code badToken, .unwind g.stubMode] "", .blank] ++ g.stubArgs m ++
        (if m.results.isEmpty then [Stmt.code plainCall, .leaveCase]
        else match g.declarators .argument m.results with
          | .error f => [Stmt.fail f]
          | .ok params => [Stmt.callback (call params) (g.stubResults m), .blank, .leaveCase]) :=
  ⟨_, _, _, fun _ => _, rfl⟩

/-- Parameters can be moved, each under the variable that `name` gives it. -/
def Moves (d : Dialect) (mode : Unwind) (name : Param → String) (ps : List Param) : Prop :=
  ∀ p ∈ ps, name p ≠ "" ∧ p.type.transferFault? d mode = none

/-- Parameters can be declared. -/
def Spells (d : Dialect) (mode : StorageMode) (ps : List Param) : Prop := ∀ p ∈ ps, ∃ s, p.type.spell d mode = .ok s

theorem transferAll_failures_eq_none_iff (site : Site) (name : Param → String) (ps : List Param) (s : Option NameScope) :
    Stmt.failures site.dialect (out (transferAll site name ps) s) = none ↔ Moves site.dialect site.mode name ps := by
  induction ps generalizing s with
  | nil => simp [transferAll, Moves]
  | cons p ps ih =>
    simp only [transferAll, out_bind, out_pure, Stmt.failures_cons, Stmt.failures_layout_within, Option.or_eq_none_iff,
      Option.map_eq_none_iff, site.topLevel_failures_eq_none_iff, ih]
    simp [Moves]

theorem failures_resultDecl_eq_none_iff (g : Generator) (p : Param) (name : String) :
    Layout.failures ((g.resultDecl p name).layout g.dialect) = none ↔ ∃ s, p.type.spell g.dialect .result = .ok s := by
  unfold resultDecl
  cases p.type.spell g.dialect .result with
  | error f => simp
  | ok s => simp

theorem stubArgs_failures_eq_none_iff (g : Generator) (args : List Param) (s : Option NameScope) :
    Stmt.failures g.dialect (out (args.mapM g.stubArg) s).flatten = none ↔
      Spells g.dialect .result args ∧ Moves g.dialect g.stubMode (·.name) args := by
  induction args generalizing s with
  | nil => simp [Spells, Moves]
  | cons a args ih =>
    have hmoved := fun s => g.stubReader.topLevel_failures_eq_none_iff a.type a.name s
    simp only [stubReader] at hmoved
    simp only [List.mapM_cons, out_bind, out_pure, List.flatten_cons, Stmt.failures_append, Option.or_eq_none_iff, ih, stubArg,
      Stmt.failures_cons, failures_resultDecl_eq_none_iff, Stmt.failures_layout_within, Option.map_eq_none_iff,
      Stmt.failures_layout_blank, Stmt.failures_nil, stubReader, hmoved]
    simp only [Spells, Moves, List.forall_mem_cons]
    grind

theorem declarators_eq_ok_iff (g : Generator) (mode : StorageMode) (ps : List Param) :
    (∃ decls, g.declarators mode ps = .ok decls) ↔ Spells g.dialect mode ps := by
  induction ps with
  | nil => simp [declarators, Spells]
  | cons p ps ih =>
    simp only [Spells, List.forall_mem_cons] at ih ⊢
    rw [← ih]
    simp only [declarators, WireType.declarator]
    cases p.type.spell g.dialect mode with
    | error f => simp [bind, Except.bind]
    | ok s => cases g.declarators mode ps <;> simp [bind, Except.bind, pure, Except.pure]

theorem methodSignature_eq_ok_iff (g : Generator) (m : Method) :
    (∃ sig, g.methodSignature m = .ok sig) ↔ Spells g.dialect .argument m.args := by
  rw [← declarators_eq_ok_iff]
  unfold methodSignature
  cases g.declarators .argument m.args <;> simp [bind, Except.bind, pure, Except.pure]

theorem resultDecls_failures_eq_none_iff (g : Generator) (name : Param → String) (ps : List Param) :
    Stmt.failures g.dialect (ps.map fun p => g.resultDecl p (name p)) = none ↔ Spells g.dialect .result ps := by
  simp [Stmt.failures_eq_none_iff, failures_resultDecl_eq_none_iff, Spells]

theorem outVar_ne_empty (g : Generator) (p : Param) : g.outVar p ≠ "" := by
  simp [outVar]

theorem proxyBody_failures_eq_none_iff (g : Generator) (i : Interface) (m : Method) :
    Stmt.failures g.dialect (g.proxyBody i m) = none ↔
      Spells g.dialect .result m.results ∧ g.proxyMode.fault? = none ∧ Moves g.dialect g.proxyMode (·.name) m.args ∧
        Moves g.dialect g.proxyMode g.outVar m.results := by
  obtain ⟨token, transact, callback, heq⟩ := g.proxyBody_eq i m
  have hargs : Stmt.failures g.dialect (g.proxyArgs m) = none ↔ Moves g.dialect g.proxyMode (·.name) m.args :=
    transferAll_failures_eq_none_iff g.proxyWriter _ _ _
  have hresults : Stmt.failures g.dialect (g.proxyResults m) = none ↔ Moves g.dialect g.proxyMode g.outVar m.results :=
    transferAll_failures_eq_none_iff g.proxyReader _ _ _
  have hback : Stmt.failures g.dialect (if m.results.isEmpty then [] else g.proxyResults m ++ [.code callback]) = none ↔
      Moves g.dialect g.proxyMode g.outVar m.results := by
    cases hr : m.results with
    | nil => simp [Moves]
    | cons r rs =>
      rw [← hr, ← hresults]
      simp [hr]
  have hreply : Stmt.failures g.dialect (if m.oneway then [] else [.declare g.dialect.parcelType g.replyVar ""]) = none := by
    split <;> simp
  have hlabel : Stmt.failures g.dialect (if g.proxyMode == .goto then [.label] else []) = none := by
    split <;> simp
  rw [heq]
  simp only [Stmt.failures_append, Option.or_eq_none_iff, hreply, hlabel, hback, hargs, resultDecls_failures_eq_none_iff,
    Stmt.failures_cons, Stmt.failures_layout_declare, Stmt.failures_layout_blank, Stmt.failures_layout_code,
    Stmt.failures_layout_check, Stmt.failures_layout_leave, Stmt.failures_nil, true_and, and_true]
  constructor
  · rintro ⟨⟨⟨⟨hspell, hmode⟩, hsend⟩, _⟩, hreceive⟩
    exact ⟨hspell, hmode, hsend, hreceive⟩
  · rintro ⟨hspell, hmode, hsend, hreceive⟩
    exact ⟨⟨⟨⟨hspell, hmode⟩, hsend⟩, hmode⟩, hreceive⟩

theorem stubCase_failures_eq_none_iff (g : Generator) (i : Interface) (m : Method) :
    Stmt.failures g.dialect (g.stubCase i m) = none ↔
      g.stubMode.fault? = none ∧ Spells g.dialect .result m.args ∧ Moves g.dialect g.stubMode (·.name) m.args ∧
        Spells g.dialect .argument m.results ∧ Moves g.dialect .ignore (·.name) m.results := by
  obtain ⟨token, badToken, plainCall, call, heq⟩ := g.stubCase_eq i m
  have hargs : Stmt.failures g.dialect (g.stubArgs m) = none ↔
      Spells g.dialect .result m.args ∧ Moves g.dialect g.stubMode (·.name) m.args := g.stubArgs_failures_eq_none_iff m.args _
  have hresults : Stmt.failures g.dialect (g.stubResults m) = none ↔ Moves g.dialect .ignore (·.name) m.results :=
    transferAll_failures_eq_none_iff g.stubWriter _ _ _
  have hcall : Stmt.failures g.dialect (if m.results.isEmpty then [.code plainCall, .leaveCase]
      else match g.declarators .argument m.results with
        | .error f => [.fail f]
        | .ok params => [.callback (call params) (g.stubResults m), .blank, .leaveCase]) = none ↔
      Spells g.dialect .argument m.results ∧ Moves g.dialect .ignore (·.name) m.results := by
    rw [← hresults, ← declarators_eq_ok_iff]
    cases hr : m.results with
    | nil => simp [declarators, stubResults, transferAll, hr]
    | cons r rs =>
      rw [← hr]
      cases g.declarators .argument m.results <;> simp [hr]
  rw [heq]
  simp only [Stmt.failures_append, Option.or_eq_none_iff, hcall, hargs, Stmt.failures_cons, Stmt.failures_layout_block,
    Stmt.failures_layout_code, Stmt.failures_layout_unwind, Stmt.failures_layout_blank, Stmt.failures_nil, true_and, and_true,
    and_assoc]

end Generator

/-- What is declared: each type, the helpers of structs with embedded content, and three declarations for each interface. -/
theorem Package.mem_declarations (p : Package) (typeHelpers : Bool) (decl : Decl) :
    decl ∈ p.declarations typeHelpers ↔ match decl with
      | .forward name => ∃ i ∈ p.interfaces, i.name = name
      | .gap => p.interfaces ≠ []
      | .type t => t ∈ p.types
      | .helpers t => typeHelpers = true ∧ t ∈ p.embeddedStructs
      | .interface i | .proxy i | .stub i => i ∈ p.interfaces := by
  unfold Package.declarations
  cases hi : p.interfaces <;> cases typeHelpers <;> cases decl <;> simp [eq_comm]

namespace Generator

theorem failures_orFail_eq_none_iff {α : Type} {r : Except Fault α} {k : α → List Layout} :
    Layout.failures (orFail r k) = none ↔ ∃ a, r = .ok a ∧ Layout.failures (k a) = none := by
  cases r <;> simp [orFail, Layout.failures, Layout.failure?]

theorem level_orFail {α : Type} {room : Nat} {r : Except Fault α} {k : α → List Layout} (h : ∀ a, Layout.Level room (k a)) :
    Layout.Level room (orFail r k) := by
  cases r with
  | error f => exact .fail .nil
  | ok a => exact h a

theorem failures_texts {α : Type} (f : α → String) (xs : List α) : Layout.failures (xs.map fun x => .text (f x)) = none := by
  rw [Layout.failures_eq_none_iff]
  simp [Layout.failure?]

theorem level_texts {α : Type} (room : Nat) (f : α → String) (xs : List α) : Layout.Level room (xs.map fun x => .text (f x)) :=
  .map fun _ _ => .text .nil

/-- A line that stands only under some condition. -/
theorem level_optional (room : Nat) (absent : Bool) (s : String) : Layout.Level room (if absent then [] else [.text s]) := by
  cases absent
  · exact .text .nil
  · exact .nil

theorem failures_inNamespace (parts : List String) (body : List Layout) :
    Layout.failures (inNamespace parts body) = Layout.failures body := by
  unfold inNamespace
  simp only [Layout.failures_append, failures_texts]
  cases parts <;> simp [Layout.failures, Layout.failure?]

theorem level_inNamespace (parts : List String) {body : List Layout} (h : Layout.Level 0 body) :
    Layout.Level 0 (inNamespace parts body) :=
  (((((level_texts 0 _ _).append (level_optional 0 _ _)).append h).append (level_texts 0 _ _)).append (level_optional 0 _ _)).append
    (.settle .nil)

theorem failures_hangingSignature (head : String) (params : List String) (tail : String) :
    Layout.failures (hangingSignature head params tail) = none := by
  unfold hangingSignature Layout.hanging
  cases tail == "" <;> rfl

theorem level_hangingSignature (room : Nat) (head : String) (params : List String) (tail : String) :
    Layout.Level room (hangingSignature head params tail) :=
  .text (.hanging (level_optional room _ _))

theorem operationLines_failures (n : Nat) (ms : List Method) : Layout.failures (operationLines n ms) = none := by
  induction ms generalizing n with
  | nil => rfl
  | cons m ms ih => simp [operationLines, Layout.failures, Layout.failure?, ih]

theorem level_operationLines (room n : Nat) (ms : List Method) : Layout.Level room (operationLines n ms) := by
  induction ms generalizing n with
  | nil => exact .nil
  | cons m ms ih => exact .text (ih (n + 1))

theorem failures_single (l : Layout) : Layout.failures [l] = Layout.failure? l := by simp [Layout.failures]

theorem methodDecl_failures_eq_none_iff (g : Generator) (i : Interface) (m : Method) :
    Layout.failures (g.methodDecl i m) = none ↔ Spells g.dialect .argument m.args ∧ Spells g.dialect .argument m.results := by
  have hcallback : Layout.failures (if m.results.isEmpty then []
      else orFail (g.declarators .argument m.results) fun params =>
        [.text ("using " ++ m.name ++ "_cb = std::function<void(" ++ ", ".intercalate params ++ ")>;\n")]) = none ↔
      Spells g.dialect .argument m.results := by
    rw [← declarators_eq_ok_iff]
    cases hr : m.results with
    | nil => simp [declarators, Layout.failures]
    | cons r rs => simp [failures_orFail_eq_none_iff, failures_single, Layout.failure?]
  unfold methodDecl
  simp only [Layout.failures, Layout.failure?, Option.none_or, Option.or_none, Option.map_eq_none_iff, Layout.failures_append,
    Option.or_eq_none_iff, hcallback, failures_orFail_eq_none_iff, and_true, methodSignature_eq_ok_iff]
  exact And.comm

theorem interfaceDecl_failures_eq_none_iff (g : Generator) (i : Interface) :
    Layout.failures (g.interfaceDecl i) = none ↔
      ∀ m ∈ i.methods, Spells g.dialect .argument m.args ∧ Spells g.dialect .argument m.results := by
  have hoperations : Layout.failures (if i.methods.isEmpty then []
      else [.scope "enum : uint32_t \x7b" "\x7d;" (operationLines 1 i.methods) "", .text "\n"]) = none := by
    split <;> simp [Layout.failures, Layout.failure?, operationLines_failures]
  unfold interfaceDecl
  simp only [Layout.failures, Layout.failure?, Option.none_or, Option.or_none, Layout.failures_append, hoperations,
    Layout.failures_flatMap_eq_none_iff, methodDecl_failures_eq_none_iff]

theorem level_interfaceDecl (g : Generator) (i : Interface) (room : Nat) : Layout.Level room (g.interfaceDecl i) := by
  refine .scope (((Layout.Level.text .nil).append ?_ |>.append ?_).append (.text (.text (.text .nil)))) (.text .nil)
  · split
    · exact .nil
    · exact .scope (level_operationLines _ 1 _) (.text .nil)
  · refine .flatMap fun m _ => .note (.within (.append ?_ ?_) .nil)
    · split
      · exact .nil
      · exact level_orFail fun _ => .text .nil
    · exact level_orFail fun _ => .text .nil

theorem proxyDecl_failures_eq_none_iff (g : Generator) (i : Interface) :
    Layout.failures (g.proxyDecl i) = none ↔ ∀ m ∈ i.methods, Spells g.dialect .argument m.args := by
  have hgap : Layout.failures (if i.methods.isEmpty then [] else [.text "\n"]) = none := by split <;> rfl
  unfold proxyDecl Layout.outdented
  simp only [Layout.failures, Layout.failure?, Option.none_or, Option.or_none, Layout.failures_append, hgap,
    Layout.failures_flatMap_eq_none_iff, Option.map_eq_none_iff, failures_orFail_eq_none_iff, and_true, methodSignature_eq_ok_iff]

theorem level_proxyDecl (g : Generator) (i : Interface) (room : Nat) : Layout.Level room (g.proxyDecl i) := by
  refine .scope (((((Layout.Level.text .nil).append ?_).append (level_optional _ _ _)).append (.outdented .nil)).append (.text .nil))
    (.text .nil)
  exact .flatMap fun m _ => .within (level_orFail fun _ => .text .nil) .nil

theorem stubDecl_failures (g : Generator) (i : Interface) : Layout.failures (g.stubDecl i) = none := by
  simp [stubDecl, Layout.failures, Layout.failure?, failures_hangingSignature]

theorem helperSignature_failures (g : Generator) (t : WireType) (reader : Bool) : Layout.failures (g.helperSignature t reader) = none :=
  failures_hangingSignature _ _ _

theorem level_helperSignature (g : Generator) (t : WireType) (reader : Bool) (room : Nat) :
    Layout.Level room (g.helperSignature t reader) :=
  level_hangingSignature room _ _ _

theorem header_failures_eq_none_iff (g : Generator) (p : Package) :
    Layout.failures (g.header p) = none ↔
      (∀ t ∈ p.types, Layout.failures (t.declaration g.dialect) = none) ∧
        ∀ i ∈ p.interfaces, ∀ m ∈ i.methods, Spells g.dialect .argument m.args ∧ Spells g.dialect .argument m.results := by
  have hgap : Layout.failures (if g.includes.isEmpty then [] else [.text "\n"]) = none := by split <;> rfl
  unfold header
  simp only [Layout.failures_append, failures_inNamespace, failures_texts, hgap, Layout.failures, Layout.failure?, Option.none_or,
    Option.or_none, Layout.failures_flatMap_eq_none_iff, p.mem_declarations]
  constructor
  · intro h
    refine ⟨fun t ht => ?_, fun i hi => ?_⟩
    · simpa [declLayout, Layout.failures, Layout.failure?] using h (.type t) ht
    · simpa [declLayout, failures_single, Layout.failure?, interfaceDecl_failures_eq_none_iff] using h (.interface i) hi
  · rintro ⟨ht, hi⟩ decl hd
    cases decl with
    | forward name => rfl
    | gap => rfl
    | helpers t => simp [declLayout, Layout.failures, Layout.failure?, helperSignature_failures]
    | type t => simpa [declLayout, Layout.failures, Layout.failure?] using ht t hd
    | interface i => simpa [declLayout, failures_single, Layout.failure?, interfaceDecl_failures_eq_none_iff] using hi i hd
    | proxy i =>
      simpa [declLayout, failures_single, Layout.failure?, proxyDecl_failures_eq_none_iff] using fun m hm => (hi i hd m hm).1
    | stub i => simp [declLayout, Layout.failures, Layout.failure?, stubDecl_failures]

theorem level_memberLines (d : Dialect) (name : String) (fields : List (String × WireType)) (room : Nat) :
    Layout.Level room (WireType.memberLines d name fields) := by
  induction fields with
  | nil => exact .nil
  | cons f rest ih =>
    obtain ⟨field, t⟩ := f
    unfold WireType.memberLines
    cases t.declarator d .stack field with
    | ok decl => exact .text ih
    | error e => exact .fail .nil

theorem level_declaration (d : Dialect) (t : WireType) (room : Nat) : Layout.Level room (t.declaration d) := by
  unfold WireType.declaration
  split
  · split
    · exact .fail .nil
    · exact .scope (level_memberLines d _ _ _) .nil
  · split
    · exact .scope (.map fun v _ => .text .nil) .nil
    · exact .fail .nil
  · exact .fail .nil

theorem level_header (g : Generator) (p : Package) : Layout.Level 0 (g.header p) := by
  have hdecls : Layout.Level 0 ((p.declarations g.typeHelpers).flatMap g.declLayout) := by
    refine .flatMap fun decl _ => ?_
    cases decl with
    | forward name => exact .text .nil
    | gap => exact .text .nil
    | type t => exact .note (level_declaration g.dialect t 0)
    | helpers t =>
      exact (((g.level_helperSignature t true 0).append (.text .nil)).append (g.level_helperSignature t false 0)).append (.text .nil)
    | interface i => exact .within (g.level_interfaceDecl i 0) .nil
    | proxy i => exact .within (g.level_proxyDecl i 0) .nil
    | stub i => exact .within (.scope (level_hangingSignature 1 _ _ _) .nil) .nil
  exact ((((Layout.Level.text .nil).append (level_texts 0 _ _)).append (level_optional 0 _ _)).append
    (level_inNamespace p.spaces hdecls)).append (.text (.settle .nil))

theorem functionDef_failures (d : Dialect) (f : FunctionDef) :
    Layout.failures (f.layout d) = (Layout.failures f.opening).or (Stmt.failures d f.body) := by
  simp [FunctionDef.layout, Layout.failures, Layout.failure?, Stmt.failures]

/-- The braces of a function make room for a label. -/
theorem level_functionDef (d : Dialect) {f : FunctionDef} {room : Nat} (h : Layout.Level room f.opening) :
    Layout.Level room (f.layout d) :=
  h.append (.scope (Stmt.layoutAll_level d f.body (room + 1) fun _ => room.succ_pos) .nil)

theorem helper_failures (g : Generator) (t : WireType) (reader : Bool) :
    Layout.failures ((g.helper t reader).layout g.dialect) = (t.missing?.map Error.fault).or (t.walkFault? g.dialect .return) := by
  have hbody := Site.embedded_failures
    { dialect := g.dialect, buffer := { name := "parcel", isPointer := !reader }, reader, mode := .return }
    t { text := "obj" } "parentHandle" "parentOffset" (some (NameScope.reserve {} []))
  simp only [functionDef_failures, helper, Layout.failures_append, helperSignature_failures, failures_single, Layout.failure?,
    Option.none_or, Stmt.failures_append, Stmt.failures_cons, Stmt.failures_layout_declare, Stmt.failures_layout_blank,
    Stmt.failures_layout_leave, Stmt.failures_nil, Option.or_none]
  exact hbody

theorem helpers_failures_eq_none_iff (g : Generator) (t : WireType) :
    Layout.failures (g.helpers t) = none ↔ t.missing? = none ∧ t.walkFault? g.dialect .return = none := by
  unfold helpers
  simp only [Layout.failures_flatMap_eq_none_iff, Layout.failures_append, helper_failures, failures_single, Layout.failure?,
    Option.none_or, Option.or_none, Option.or_eq_none_iff, Option.map_eq_none_iff]
  simp

theorem level_helpers (g : Generator) (t : WireType) : Layout.Level 0 (g.helpers t) :=
  .flatMap fun reader _ => ((Layout.Level.note .nil).append
    (level_functionDef g.dialect ((g.level_helperSignature t reader 0).append (.text .nil)))).append (.text .nil)

theorem proxy_failures_eq_none_iff (g : Generator) (i : Interface) (m : Method) :
    Layout.failures (g.proxy i m) = none ↔
      Spells g.dialect .argument m.args ∧ Stmt.failures g.dialect (g.proxyBody i m) = none := by
  unfold proxy
  rw [failures_orFail_eq_none_iff, ← methodSignature_eq_ok_iff]
  simp only [functionDef_failures, failures_single, Layout.failure?, Option.none_or]
  exact exists_and_right

theorem stubBody_failures_eq_none_iff (g : Generator) (i : Interface) :
    Stmt.failures g.dialect (g.stubBody i) = none ↔ ∀ m ∈ i.methods, Stmt.failures g.dialect (g.stubCase i m) = none := by
  have hcases : ∀ ms : List Method, Stmt.failures g.dialect (ms.flatMap fun m => [
      .note (debug "emit stub" [("interface", .text i.name), ("method", .text m.name)]),
      .code ("case " ++ i.name ++ "::kOp_" ++ m.name ++ ":\n"), .within [m.name] [.block "" (g.stubCase i m) ""], .blank]) = none ↔
      ∀ m ∈ ms, Stmt.failures g.dialect (g.stubCase i m) = none := by
    intro ms
    induction ms with
    | nil => simp
    | cons m ms ih => simp [ih]
  have hlabel : Stmt.failures g.dialect (if g.stubMode == .goto && !i.methods.isEmpty then [.label] else []) = none := by
    split <;> simp
  unfold stubBody
  simp only [Stmt.failures_append, Stmt.failures_cons, Stmt.failures_layout_declare, Stmt.failures_layout_blank,
    Stmt.failures_layout_block, Stmt.failures_layout_code, Stmt.failures_layout_leaveCase, Stmt.failures_layout_leave, Stmt.failures_nil,
    hlabel, Option.none_or, Option.or_none, hcases]

theorem stub_failures (g : Generator) (i : Interface) :
    Layout.failures ((g.stub i).layout g.dialect) = Stmt.failures g.dialect (g.stubBody i) := by
  simp only [functionDef_failures, stub, Layout.failures_append, failures_hangingSignature, failures_single, Layout.failure?,
    Option.none_or]

theorem interfaceSource_failures_eq_none_iff (g : Generator) (p : Package) (i : Interface) :
    Layout.failures (g.interfaceSource p i) = none ↔ ∀ m ∈ i.methods,
      Spells g.dialect .argument m.args ∧ Stmt.failures g.dialect (g.proxyBody i m) = none ∧
        Stmt.failures g.dialect (g.stubCase i m) = none := by
  unfold interfaceSource Layout.hanging
  simp only [Layout.failures_append, Layout.failures, Layout.failure?, Option.none_or, Option.or_none, Option.or_eq_none_iff,
    Layout.failures_flatMap_eq_none_iff, Option.map_eq_none_iff, proxy_failures_eq_none_iff, stub_failures,
    stubBody_failures_eq_none_iff]
  constructor
  · intro h m hm
    exact ⟨(h.1 m hm).1, (h.1 m hm).2, h.2 m hm⟩
  · intro h
    exact ⟨fun m hm => ⟨(h m hm).1, (h m hm).2.1⟩, fun m hm => (h m hm).2.2⟩

theorem level_interfaceSource (g : Generator) (p : Package) (i : Interface) : Layout.Level 0 (g.interfaceSource p i) :=
  (((Layout.Level.text (.text .nil)).append (.hanging .nil)).append
    (.flatMap fun _ _ => .note (.within (level_orFail fun _ => level_functionDef g.dialect (.text .nil)) .nil))).append
    (level_functionDef g.dialect ((level_hangingSignature 0 _ _ _).append (.text .nil)))

theorem source_failures_eq_none_iff (g : Generator) (p : Package) :
    Layout.failures (g.source p) = none ↔
      (g.typeHelpers = true → ∀ t ∈ p.embeddedStructs, t.missing? = none ∧ t.walkFault? g.dialect .return = none) ∧
        ∀ i ∈ p.interfaces, ∀ m ∈ i.methods, Spells g.dialect .argument m.args ∧
          Stmt.failures g.dialect (g.proxyBody i m) = none ∧ Stmt.failures g.dialect (g.stubCase i m) = none := by
  have hmap : ∀ {α : Type} (path : α → List String) (body : α → List Layout) (xs : List α),
      Layout.failures (xs.map fun x => .within (path x) (body x)) = none ↔ ∀ x ∈ xs, Layout.failures (body x) = none := by
    intro α path body xs
    rw [Layout.failures_eq_none_iff]
    simp [Layout.failure?]
  unfold source
  rw [Layout.failures, Layout.failure?, Option.none_or, failures_inNamespace, Layout.failures_append, Option.or_eq_none_iff, hmap]
  simp only [interfaceSource_failures_eq_none_iff]
  cases g.typeHelpers with
  | false => simp [Layout.failures]
  | true => simp only [if_true, hmap, helpers_failures_eq_none_iff, forall_const]

theorem level_source (g : Generator) (p : Package) : Layout.Level 0 (g.source p) := by
  refine .text (level_inNamespace p.spaces (.append ?_ (.map fun i _ => .within (g.level_interfaceSource p i) .nil)))
  split
  · exact .map fun t _ => .within (g.level_helpers t) .nil
  · exact .nil

/-- What is generated for a method can be spelled and moved on both sides. -/
structure Serves (g : Generator) (m : Method) : Prop where
  takesArgs : Spells g.dialect .argument m.args
  takesResults : Spells g.dialect .argument m.results
  receivesArgs : Spells g.dialect .result m.args
  receivesResults : Spells g.dialect .result m.results
  proxyMode : g.proxyMode.fault? = none
  stubMode : g.stubMode.fault? = none
  proxyArgs : Moves g.dialect g.proxyMode (·.name) m.args
  proxyResults : Moves g.dialect g.proxyMode g.outVar m.results
  stubArgs : Moves g.dialect g.stubMode (·.name) m.args
  stubResults : Moves g.dialect .ignore (·.name) m.results

theorem serves_iff (g : Generator) (i : Interface) (m : Method) :
    g.Serves m ↔ (Spells g.dialect .argument m.args ∧ Spells g.dialect .argument m.results) ∧
      Spells g.dialect .argument m.args ∧ Stmt.failures g.dialect (g.proxyBody i m) = none ∧
        Stmt.failures g.dialect (g.stubCase i m) = none := by
  rw [proxyBody_failures_eq_none_iff, stubCase_failures_eq_none_iff]
  constructor
  · intro h
    exact ⟨⟨h.takesArgs, h.takesResults⟩, h.takesArgs, ⟨h.receivesResults, h.proxyMode, h.proxyArgs, h.proxyResults⟩,
      h.stubMode, h.receivesArgs, h.stubArgs, h.takesResults, h.stubResults⟩
  · rintro ⟨⟨takesArgs, takesResults⟩, -, ⟨receivesResults, proxyMode, proxyArgs, proxyResults⟩,
      stubMode, receivesArgs, stubArgs, -, stubResults⟩
    exact {
      takesArgs, takesResults, receivesArgs, receivesResults, proxyMode, stubMode, proxyArgs, proxyResults, stubArgs, stubResults }

/-- A package is generated exactly when it is valid, its types can be declared and walked, and its methods can be served. -/
theorem generated_eq_ok_iff (g : Generator) (p : Package) :
    (∃ out, g.generated p = .ok out) ↔
      p.validate g.dialect = .ok () ∧ (∀ t ∈ p.types, Layout.failures (t.declaration g.dialect) = none) ∧
        (g.typeHelpers = true → ∀ t ∈ p.embeddedStructs, t.missing? = none ∧ t.walkFault? g.dialect .return = none) ∧
        ∀ i ∈ p.interfaces, ∀ m ∈ i.methods, g.Serves m := by
  have hheader : (Layout.runAll {} (g.header p)).error = Layout.failures (g.header p) :=
    (g.level_header p |>.runs {} Printer.unfailing_new (Nat.zero_le _)).error
  have hsource : (Layout.runAll {} (g.source p)).error = Layout.failures (g.source p) :=
    (g.level_source p |>.runs {} Printer.unfailing_new (Nat.zero_le _)).error
  have hparts : (∃ out, g.generated p = .ok out) ↔
      p.validate g.dialect = .ok () ∧ Layout.failures (g.header p) = none ∧ Layout.failures (g.source p) = none := by
    unfold generated generate
    cases p.validate g.dialect with
    | error f => simp
    | ok u =>
      simp only [hheader, true_and]
      cases Layout.failures (g.header p) with
      | some e => simp
      | none =>
        simp only [hsource, true_and]
        cases Layout.failures (g.source p) <;> simp
  rw [hparts, header_failures_eq_none_iff, source_failures_eq_none_iff]
  constructor
  · rintro ⟨hvalid, ⟨htypes, hdecls⟩, hhelpers, hmethods⟩
    exact ⟨hvalid, htypes, hhelpers, fun i hi m hm => (g.serves_iff i m).mpr ⟨hdecls i hi m hm, hmethods i hi m hm⟩⟩
  · rintro ⟨hvalid, htypes, hhelpers, hserves⟩
    have hboth := fun i hi m hm => (g.serves_iff i m).mp (hserves i hi m hm)
    exact ⟨hvalid, ⟨htypes, fun i hi m hm => (hboth i hi m hm).1⟩, hhelpers, fun i hi m hm => (hboth i hi m hm).2⟩

theorem spells_of_declarable (d : Dialect) {mode : StorageMode} (hmode : mode ≠ .unknown) {ps : List Param}
    (h : ∀ p ∈ ps, p.type.isDeclarable = true) : Spells d mode ps := by
  intro p hp
  obtain ⟨s, hs, -⟩ := WireType.spell_of_declarable d mode hmode (h p hp)
  exact ⟨s, hs⟩

theorem moves_of_declarable (d : Dialect) {mode : Unwind} (hmode : mode.leavesLoops = true) {name : Param → String} {ps : List Param}
    (hname : ∀ p ∈ ps, name p ≠ "") (h : ∀ p ∈ ps, p.type.isDeclarable = true) : Moves d mode name ps :=
  fun p hp => ⟨hname p hp, WireType.transferFault?_of_declarable d hmode (h p hp)⟩

theorem serves_of_declarable (g : Generator) (hproxy : g.proxyMode.leavesLoops = true) (hstub : g.stubMode.leavesLoops = true)
    {m : Method} (hname : ∀ p ∈ m.args ++ m.results, p.name ≠ "") (h : ∀ p ∈ m.args ++ m.results, p.type.isDeclarable = true) :
    g.Serves m := by
  obtain ⟨hnargs, hnresults⟩ := List.forall_mem_append.mp hname
  obtain ⟨hargs, hresults⟩ := List.forall_mem_append.mp h
  exact {
    takesArgs := spells_of_declarable _ (by simp) hargs
    takesResults := spells_of_declarable _ (by simp) hresults
    receivesArgs := spells_of_declarable _ (by simp) hargs
    receivesResults := spells_of_declarable _ (by simp) hresults
    proxyMode := Unwind.fault?_of_leavesLoops hproxy
    stubMode := Unwind.fault?_of_leavesLoops hstub
    proxyArgs := moves_of_declarable _ hproxy hnargs hargs
    proxyResults := moves_of_declarable _ hproxy (fun p _ => g.outVar_ne_empty p) hresults
    stubArgs := moves_of_declarable _ hstub hnargs hargs
    stubResults := moves_of_declarable _ rfl hnresults hresults }

/-- A package of the right shape whose types and parameters are declarable is generated by every generator that can leave loops. -/
theorem generated_of_declarable (g : Generator) (hproxy : g.proxyMode.leavesLoops = true) (hstub : g.stubMode.leavesLoops = true)
    {p : Package} (hfits : p.Fits g.dialect.lead) (htypes : ∀ t ∈ p.types, t.isDeclarable = true)
    (hparams : ∀ i ∈ p.interfaces, ∀ m ∈ i.methods, ∀ q ∈ m.args ++ m.results, q.type.isDeclarable = true) :
    ∃ out, g.generated p = .ok out := by
  refine (g.generated_eq_ok_iff p).mpr ⟨(p.validate_eq_ok_iff g.dialect).mpr hfits, fun t ht => ?_, fun _ t ht => ?_, fun i hi m hm => ?_⟩
  · exact WireType.declaration_failures_of_declarable g.dialect (htypes t ht) (hfits.types t ht)
  · have hd := htypes t (List.mem_filter.mp ht).1
    exact ⟨WireType.missing?_of_declarable hd, WireType.walkFault?_of_declarable g.dialect rfl hd⟩
  · exact g.serves_of_declarable hproxy hstub (fun q hq => (((hfits.interfaces i hi).methods m hm).params q hq).named) (hparams i hi m hm)

end Generator

end Parcelgen

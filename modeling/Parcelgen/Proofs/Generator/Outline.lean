import Mathlib.Data.List.Forall2
import Parcelgen.Proofs.Generator.Outcome

/-!
The outline of generated text: what a script prints outside all scopes. In a header the scopes of the outline are the definitions at
namespace level, one for each declaration that defines something, and in headers and sources alike the only namespaces that are opened are
those of the package.
-/

namespace Parcelgen

/-- The line begins the definition of the struct or enum `name`. -/
inductive Introduces : String → String → Prop
  | struct (name : String) : Introduces ("struct " ++ name ++ " \x7b") name
  | final (name : String) : Introduces ("struct " ++ name ++ " final \x7b") name
  | derived (name base : String) : Introduces ("struct " ++ name ++ " final : public " ++ base ++ " \x7b") name
  | enum (name storage : String) : Introduces ("enum class " ++ name ++ " : " ++ storage ++ " \x7b") name

/-- A type is defined in a scope of its own, or cannot be. -/
theorem WireType.declaration_cases (d : Dialect) (t : WireType) :
    (∃ e, t.declaration d = [.fail e]) ∨
      ∃ opening body, t.declaration d = [.scope opening "\x7d;" body "\n"] ∧ Introduces opening t.localName := by
  unfold declaration
  split
  · split
    · exact .inl ⟨_, rfl⟩
    · exact .inr ⟨_, _, rfl, .final _⟩
  · split
    · exact .inr ⟨_, _, rfl, .enum _ _⟩
    · exact .inl ⟨_, rfl⟩
  · exact .inl ⟨_, rfl⟩

namespace Layout

mutual

/-- What stands outside all scopes, the scopes themselves included. -/
def outer : Layout → List Layout
  | .within _ body => outerAll body
  | l => [l]

def outerAll : List Layout → List Layout
  | [] => []
  | l :: ls => outer l ++ outerAll ls

end

/-- The first line of a scope. -/
def opening? : Layout → Option String
  | .scope opening _ _ _ => some opening
  | _ => none

/-- The namespace that a line opens. -/
def spaceOpenedBy? (line : String) : Option String :=
  ((line.toList.dropPrefix? "namespace ".toList).bind (·.dropSuffix? " \x7b\n".toList)).map String.ofList

def openedSpace? : Layout → Option String
  | .text s => spaceOpenedBy? s
  | _ => none

/-- What `f` finds outside all scopes. -/
def outline {α : Type} (f : Layout → Option α) (ls : List Layout) : List α := (outerAll ls).filterMap f

/-- The first lines of the outermost scopes. -/
abbrev openings : List Layout → List String := outline opening?

/-- The namespaces that are opened outside all scopes. -/
abbrev openedSpaces : List Layout → List String := outline openedSpace?

section Outline

variable {α β : Type} (f : Layout → Option α)

theorem outline_cons (l : Layout) (ls : List Layout) : outline f (l :: ls) = outline f [l] ++ outline f ls := by
  simp only [outline, outerAll, List.append_nil, List.filterMap_append]

@[simp] theorem outline_append (as bs : List Layout) : outline f (as ++ bs) = outline f as ++ outline f bs := by
  induction as with
  | nil => rfl
  | cons a as ih => rw [List.cons_append, outline_cons, ih, outline_cons f a as, List.append_assoc]

theorem outline_flatMap (xs : List β) (g : β → List Layout) : outline f (xs.flatMap g) = xs.flatMap fun x => outline f (g x) := by
  induction xs with
  | nil => rfl
  | cons x xs ih => simp only [List.flatMap_cons, outline_append, ih]

theorem outline_map (xs : List β) (g : β → Layout) : outline f (xs.map g) = xs.flatMap fun x => outline f [g x] := by
  rw [List.map_eq_flatMap, outline_flatMap]

theorem outline_flatMap_eq_nil {xs : List β} {g : β → List Layout} (h : ∀ x ∈ xs, outline f (g x) = []) :
    outline f (xs.flatMap g) = [] := by
  rw [outline_flatMap]
  exact List.flatMap_eq_nil_iff.mpr h

theorem outline_map_eq_nil {xs : List β} {g : β → Layout} (h : ∀ x ∈ xs, outline f [g x] = []) : outline f (xs.map g) = [] := by
  rw [outline_map]
  exact List.flatMap_eq_nil_iff.mpr h

@[simp] theorem outline_within (path : List String) (body : List Layout) : outline f [.within path body] = outline f body := by
  simp only [outline, outerAll, outer, List.append_nil]

theorem outline_text (line : String) : outline f [.text line] = (f (.text line)).toList := by
  cases hline : f (.text line) <;> simp [outline, outerAll, outer, hline]

theorem outline_text_of_none {line : String} (h : f (.text line) = none) : outline f [.text line] = [] := by
  rw [outline_text, h, Option.toList_none]

end Outline

theorem spaceOpenedBy?_eq_some_iff (line space : String) :
    spaceOpenedBy? line = some space ↔ line = "namespace " ++ space ++ " \x7b\n" := by
  simp only [spaceOpenedBy?, Option.map_eq_some_iff, Option.bind_eq_some_iff, List.dropPrefix?_eq_some_iff, List.dropSuffix?_eq_some_iff,
    beq_iff_eq]
  constructor
  · rintro ⟨cs, ⟨rest, ⟨_, hline, rfl⟩, _, rfl, rfl⟩, rfl⟩
    simp [← String.toList_inj, hline]
  · rintro rfl
    exact ⟨space.toList, ⟨space.toList ++ " \x7b\n".toList, ⟨_, by simp, rfl⟩, _, rfl, rfl⟩, by simp⟩

theorem spaceOpenedBy?_of_head {line : String} (h : line.toList.head? ≠ some 'n') : spaceOpenedBy? line = none := by
  rw [Option.eq_none_iff_forall_ne_some]
  intro space hspace
  simp [(spaceOpenedBy?_eq_some_iff line space).mp hspace] at h

theorem spaceOpenedBy?_of_last {line : String} (h : line.toList.reverse.take 2 ≠ ['\n', '\x7b']) : spaceOpenedBy? line = none := by
  rw [Option.eq_none_iff_forall_ne_some]
  intro space hspace
  simp [(spaceOpenedBy?_eq_some_iff line space).mp hspace] at h

end Layout

namespace Generator

open Layout

theorem outline_optional {α : Type} {f : Layout → Option α} {line : String} (absent : Bool) (h : f (.text line) = none) :
    outline f (if absent then [] else [.text line]) = [] := by
  cases absent with
  | true => rfl
  | false => exact outline_text_of_none f h

/-- A namespace adds to the outline of its body what is found in the lines that open it. -/
theorem outline_inNamespace {α : Type} {f : Layout → Option α} (hgap : f (.text "\n") = none) (hsettle : f .settle = none)
    (hclose : ∀ part, f (.text ("\x7d  // namespace " ++ part ++ "\n")) = none) (parts : List String) (body : List Layout) :
    outline f (inNamespace parts body) =
      (parts.flatMap fun part => (f (.text ("namespace " ++ part ++ " \x7b\n"))).toList) ++ outline f body := by
  have hlast : outline f [.settle] = [] := by simp [outline, outerAll, outer, hsettle]
  have hcloses : outline f (parts.reverse.map fun part => .text ("\x7d  // namespace " ++ part ++ "\n")) = [] :=
    outline_map_eq_nil f fun part _ => outline_text_of_none f (hclose part)
  simp only [inNamespace, outline_append, outline_optional _ hgap, hcloses, hlast, outline_map, outline_text, List.append_nil]

theorem outline_inNamespace_of_texts {α : Type} (f : Layout → Option α) (htext : ∀ line, f (.text line) = none)
    (hsettle : f .settle = none) (parts : List String) (body : List Layout) : outline f (inNamespace parts body) = outline f body := by
  have hopen : (parts.flatMap fun part => (f (.text ("namespace " ++ part ++ " \x7b\n"))).toList) = [] :=
    List.flatMap_eq_nil_iff.mpr fun part _ => by rw [htext, Option.toList_none]
  rw [outline_inNamespace (htext _) hsettle fun _ => htext _, hopen, List.nil_append]

theorem openedSpaces_inNamespace (parts : List String) (body : List Layout) :
    openedSpaces (inNamespace parts body) = parts ++ openedSpaces body := by
  have hopen : ∀ part, openedSpace? (.text ("namespace " ++ part ++ " \x7b\n")) = some part :=
    fun part => (spaceOpenedBy?_eq_some_iff _ part).mpr rfl
  rw [openedSpaces, outline_inNamespace (by decide +kernel) rfl fun part => spaceOpenedBy?_of_head (by simp)]
  simp only [hopen, Option.toList_some, List.flatMap_singleton']

theorem openedSpaces_hangingSignature (head : String) (params : List String) : openedSpaces (hangingSignature head params "") = [] := by
  have hhead : spaceOpenedBy? (head ++ "(\n") = none := spaceOpenedBy?_of_last (by simp)
  have hparams : spaceOpenedBy? (",\n".intercalate params ++ ")" ++ "") = none := spaceOpenedBy?_of_last (by simp)
  simp only [outline, hangingSignature, hanging, beq_self_eq_true, if_true, List.append_nil, outerAll, outer, List.singleton_append,
    List.filterMap_cons, openedSpace?, hhead, hparams, List.filterMap_nil]

theorem openedSpaces_declLayout (g : Generator) (decl : Decl) : openedSpaces (g.declLayout decl) = [] := by
  have hgap : spaceOpenedBy? "\n" = none := by decide +kernel
  cases decl with
  | forward name =>
    have hline : spaceOpenedBy? ("struct " ++ name ++ ";\n") = none := spaceOpenedBy?_of_head (by simp)
    exact outline_text_of_none _ hline
  | gap => exact outline_text_of_none _ hgap
  | type t =>
    rcases t.declaration_cases g.dialect with ⟨e, he⟩ | ⟨opening, body, hscope, -⟩
    · rw [declLayout, he]
      rfl
    · rw [declLayout, hscope]
      rfl
  | helpers t =>
    have hend : openedSpaces [.text ";\n\n"] = [] := by decide +kernel
    simp only [declLayout, outline_append, helperSignature, openedSpaces_hangingSignature, hend, List.append_nil]
  | interface i => simp [declLayout, interfaceDecl, outline, outerAll, outer, openedSpace?, hgap]
  | proxy i => simp [declLayout, proxyDecl, outline, outerAll, outer, openedSpace?, hgap]
  | stub i => rfl

theorem openedSpaces_header (g : Generator) (p : Package) : openedSpaces (g.header p) = p.spaces := by
  have hguard : spaceOpenedBy? ("#ifndef " ++ p.includeGuard ++ "\n#define " ++ p.includeGuard ++ "\n\n") = none :=
    spaceOpenedBy?_of_head (by simp)
  have hincludes : openedSpaces (g.includes.map fun inc => .text ("#include " ++ inc ++ "\n")) = [] :=
    outline_map_eq_nil _ fun inc _ => outline_text_of_none _ (spaceOpenedBy?_of_head (by simp))
  have hend : spaceOpenedBy? ("#endif  // " ++ p.includeGuard ++ "\n") = none := spaceOpenedBy?_of_head (by simp)
  have hlast : openedSpaces [.text ("#endif  // " ++ p.includeGuard ++ "\n"), .settle] = [] := by
    simp [outline, outerAll, outer, openedSpace?, hend]
  have hdecls : openedSpaces ((p.declarations g.typeHelpers).flatMap g.declLayout) = [] :=
    outline_flatMap_eq_nil _ fun decl _ => g.openedSpaces_declLayout decl
  have hfirst : openedSpaces [.text ("#ifndef " ++ p.includeGuard ++ "\n#define " ++ p.includeGuard ++ "\n\n")] = [] :=
    outline_text_of_none _ hguard
  have hgap : openedSpaces (if g.includes.isEmpty then [] else [.text "\n"]) = [] := outline_optional _ (by decide +kernel)
  simp only [header, outline_append, hfirst, hincludes, hgap, openedSpaces_inNamespace, hdecls, hlast, List.nil_append, List.append_nil]

/-- The scopes of a declaration: one for what it defines. -/
theorem openings_declLayout (g : Generator) {decl : Decl} (h : failures (g.declLayout decl) = none) :
    List.Forall₂ Introduces (openings (g.declLayout decl)) decl.defines?.toList := by
  cases decl with
  | forward name => exact .nil
  | gap => exact .nil
  | helpers t => exact .nil
  | interface i => exact .cons (.struct i.name) .nil
  | proxy i => exact .cons (.derived (proxyName i) i.name) .nil
  | stub i => exact .cons (.struct (stubName i)) .nil
  | type t =>
    rcases t.declaration_cases g.dialect with ⟨e, he⟩ | ⟨opening, body, hscope, hname⟩
    · rw [declLayout, he] at h
      cases h
    · rw [declLayout, hscope]
      exact .cons hname .nil

/-- The definitions of a header, in the order of its declarations. -/
theorem openings_header (g : Generator) (p : Package) (h : failures (g.header p) = none) :
    List.Forall₂ Introduces (openings (g.header p)) ((p.declarations g.typeHelpers).filterMap Decl.defines?) := by
  have hdecls : failures ((p.declarations g.typeHelpers).flatMap g.declLayout) = none := by
    simp only [header, failures_append, failures_inNamespace, Option.or_eq_none_iff] at h
    exact h.1.2
  have hopenings : openings (g.header p) = (p.declarations g.typeHelpers).flatMap fun decl => openings (g.declLayout decl) := by
    have hincludes : openings (g.includes.map fun inc => .text ("#include " ++ inc ++ "\n")) = [] := outline_map_eq_nil _ fun _ _ => rfl
    have hgap : openings (if g.includes.isEmpty then [] else [.text "\n"]) = [] := outline_optional _ rfl
    simp only [header, outline_append, hincludes, hgap, outline_inNamespace_of_texts opening? (fun _ => rfl) rfl, outline_flatMap]
    exact List.append_nil _
  rw [failures_flatMap_eq_none_iff] at hdecls
  rw [hopenings]
  generalize p.declarations g.typeHelpers = decls at hdecls
  induction decls with
  | nil => exact .nil
  | cons decl decls ih =>
    have hdecl := g.openings_declLayout (hdecls decl List.mem_cons_self)
    have hrest := ih fun d hd => hdecls d (List.mem_cons_of_mem decl hd)
    rw [List.flatMap_cons, List.filterMap_eq_flatMap_toList, List.flatMap_cons, ← List.filterMap_eq_flatMap_toList]
    exact List.rel_append hdecl hrest

theorem openedSpaces_functionDef (d : Dialect) (f : FunctionDef) : openedSpaces (f.layout d) = openedSpaces f.opening := by
  rw [FunctionDef.layout, openedSpaces, outline_append]
  exact List.append_nil _

theorem openedSpaces_helpers (g : Generator) (t : WireType) : openedSpaces (g.helpers t) = [] := by
  have hspace : openedSpaces [.text " "] = [] := by decide +kernel
  have hgap : openedSpaces [.text "\n"] = [] := by decide +kernel
  have hhelper : ∀ reader, openedSpaces (g.helper t reader).opening = [] := by
    intro reader
    simp only [helper, outline_append, helperSignature, openedSpaces_hangingSignature, hspace, List.append_nil]
  refine outline_flatMap_eq_nil _ fun reader _ => ?_
  simp only [outline_append, openedSpaces_functionDef, hhelper, hgap, List.append_nil]
  rfl

theorem openedSpaces_proxy (g : Generator) (i : Interface) (m : Method) : openedSpaces (g.proxy i m) = [] := by
  cases hsig : g.methodSignature m with
  | error f =>
    rw [proxy, hsig]
    rfl
  | ok sig =>
    have hline : spaceOpenedBy? (g.dialect.statusType ++ " " ++ proxyName i ++ "::" ++ sig ++ " ") = none :=
      spaceOpenedBy?_of_last (by simp)
    rw [proxy, hsig, orFail, openedSpaces_functionDef]
    exact outline_text_of_none _ hline

theorem openedSpaces_interfaceSource (g : Generator) (p : Package) (i : Interface) : openedSpaces (g.interfaceSource p i) = [] := by
  have hname : spaceOpenedBy? ("const char* " ++ i.name ++ "::descriptor = " ++ descriptor p i ++ ";\n\n") = none :=
    spaceOpenedBy?_of_head (by simp)
  have hproxy : spaceOpenedBy? (proxyName i ++ "::" ++ proxyName i ++ "(const " ++ g.binderPointer ++ "& remote)\n") = none :=
    spaceOpenedBy?_of_head (by simp [proxyName])
  have hremote : openedSpaces (hanging ": mRemote(remote) \x7b\x7d\n\n") = [] := by decide +kernel
  have hspace : openedSpaces [.text " "] = [] := by decide +kernel
  have hproxies : openedSpaces (i.methods.flatMap fun m => [
      Layout.note (debug "emit proxy" [("interface", .text i.name), ("method", .text m.name)]), .within [m.name] (g.proxy i m)]) = [] := by
    refine outline_flatMap_eq_nil _ fun m _ => ?_
    have hm := g.openedSpaces_proxy i m
    simpa [outline, outerAll, outer, openedSpace?] using hm
  have hstub : openedSpaces (g.stub i).opening = [] := by
    simp only [stub, outline_append, openedSpaces_hangingSignature, hspace, List.append_nil]
  have hlines : openedSpaces [.text ("const char* " ++ i.name ++ "::descriptor = " ++ descriptor p i ++ ";\n\n"),
      .text (proxyName i ++ "::" ++ proxyName i ++ "(const " ++ g.binderPointer ++ "& remote)\n")] = [] := by
    simp [outline, outerAll, outer, openedSpace?, hname, hproxy]
  simp only [interfaceSource, outline_append, hlines, hremote, hproxies, openedSpaces_functionDef, hstub, List.append_nil]

theorem openedSpaces_source (g : Generator) (p : Package) : openedSpaces (g.source p) = p.spaces := by
  have hinclude : spaceOpenedBy? ("#include \"" ++ p.name ++ ".h\"\n\n") = none := spaceOpenedBy?_of_head (by simp)
  have hhelpers : openedSpaces (if g.typeHelpers then p.embeddedStructs.map fun t => .within [t.name] (g.helpers t) else []) = [] := by
    split
    · exact outline_map_eq_nil _ fun t _ => (outline_within ..).trans (g.openedSpaces_helpers t)
    · rfl
  have hinterfaces : openedSpaces (p.interfaces.map fun i => .within [i.name] (g.interfaceSource p i)) = [] :=
    outline_map_eq_nil _ fun i _ => (outline_within ..).trans (g.openedSpaces_interfaceSource p i)
  rw [source, openedSpaces, outline_cons, outline_text_of_none _ hinclude, List.nil_append]
  simp only [openedSpaces_inNamespace, outline_append, hhelpers, hinterfaces, List.append_nil]

end Generator

end Parcelgen

import Mathlib.Data.List.Nodup
import Mathlib.Data.List.Perm.Basic
import Parcelgen.Proofs.Package.Closed
import Parcelgen.Proofs.Schema.Trace

/-!
Packages that come from documents are closed and ordered: whatever occurs in a type of the package stands in front of it, and handles lead to
interfaces of the package. Both follow from the order in which declarations are finished, by induction over the steps.
-/

namespace Parcelgen

namespace Schema

open Resolving

/-- With keys that do not repeat, looking one up finds the only entry that has it. -/
theorem find?_eq_some_iff_of_nodup {α : Type} {key : α → String} {xs : List α} (h : (xs.map key).Nodup) {name : String} {a : α} :
    xs.find? (key · == name) = some a ↔ a ∈ xs ∧ key a = name := by
  constructor
  · exact fun ha => ⟨List.mem_of_find?_eq_some ha, by simpa using List.find?_some ha⟩
  · rintro ⟨hmem, rfl⟩
    obtain ⟨b, hb⟩ : ∃ b, xs.find? (key · == key a) = some b := Option.isSome_iff_exists.mp (List.find?_isSome.mpr ⟨a, hmem, by simp⟩)
    have hkey : key b = key a := by simpa using List.find?_some hb
    rw [hb, List.inj_on_of_nodup_map h (List.mem_of_find?_eq_some hb) hmem hkey]

namespace Scope

theorem decl?_cases {s : Scope} {name : String} {d : TypeDecl} (h : s.decl? name = some d) : d ∈ s.decls ∧ d.name = name :=
  ⟨List.mem_of_find?_eq_some h, by simpa using List.find?_some h⟩

/-- The names of handles to the interfaces of the document. -/
def handles (s : Scope) : List String := s.interfaces.map s.package.qualify

theorem closed_buildable (known : List WireType) (handles : List String) : Buildable (WireType.ClosedOver known handles) :=
  ⟨fun _ dim h => h.array dim, fun _ h _ => h.vector⟩

theorem builtIn?_closed {name : String} {t : WireType} (h : builtIn? name = some t) (known : List WireType) (handles : List String) :
    t.ClosedOver known handles := by
  rcases builtIn?_cases h with ⟨scalar, -, rfl⟩ | rfl
  · exact .of_children (by simp [WireType.isNamedType]) (by simp) fun step u hu => by cases step <;> cases hu
  · exact .of_children (by simp [WireType.isNamedType]) (by simp) fun step u hu => by cases step <;> cases hu

theorem known_closed {s : Scope} {fin : Finished} {known : List WireType} (hfin : ∀ e ∈ fin, e.2.ClosedOver known s.handles)
    (path : List String) (name : String) : Yields (s.known fin path name) (WireType.ClosedOver known s.handles) :=
  known_yields (fun _ _ h => builtIn?_closed h known s.handles) hfin (fun _ h => .interface (List.mem_map_of_mem h)) path name

end Scope

namespace Document

theorem declared_append (doc : Document) (as bs : Finished) : doc.declared (as ++ bs) = doc.declared as ++ doc.declared bs :=
  List.filterMap_append

theorem declared_of_typedef {doc : Document} {name : String} {d : TypeDecl} (hd : doc.scope.decl? name = some d) (hk : d.kind = "typedef")
    (t : WireType) : doc.declared [(name, t)] = [] := by
  simp [declared, hd, hk]

theorem declared_of_not_typedef {doc : Document} {name : String} {d : TypeDecl} (hd : doc.scope.decl? name = some d)
    (hk : d.kind ≠ "typedef") (t : WireType) : doc.declared [(name, t)] = [t] := by
  simp [declared, hd, hk]

end Document

/-- What holds of the finished declarations at every moment. -/
structure Finished.Closed (doc : Document) (fin : Finished) : Prop where
  closed : ∀ e ∈ fin, e.2.ClosedOver (doc.declared fin) doc.scope.handles
  ordered : WireType.Ordered (doc.declared fin)

theorem Finished.Closed.snoc_named {doc : Document} {fin : Finished} (h : Finished.Closed doc fin) {name : String} {t : WireType}
    (hd : doc.declared [(name, t)] = [t])
    (hbelow : ∀ step u, t.child? step = some u → u.ClosedOver (doc.declared fin) doc.scope.handles) (hhandle : ∀ n, t ≠ .interface n) :
    Finished.Closed doc (fin ++ [(name, t)]) := by
  have hsub : doc.declared fin ⊆ doc.declared fin ++ [t] := List.subset_append_left _ _
  constructor
  · rw [doc.declared_append, hd]
    intro e he
    rcases List.mem_append.mp he with he | he
    · exact (h.closed e he).mono hsub (List.Subset.refl _)
    · rw [List.mem_singleton.mp he]
      exact .snoc hbelow hhandle
  · rw [doc.declared_append, hd]
    exact h.ordered.snoc hbelow

/-- A declaration that is finished next keeps the finished ones closed and ordered. -/
theorem Finished.Closed.snoc {doc : Document} {fin : Finished} (h : Finished.Closed doc fin) {name : String} {d : TypeDecl} {t : WireType}
    (hd : doc.scope.decl? name = some d) (ht : doc.scope.DeclOf (WireType.ClosedOver (doc.declared fin) doc.scope.handles) d t) :
    Finished.Closed doc (fin ++ [(name, t)]) := by
  cases ht with
  | struct hk _ hf =>
    refine h.snoc_named (Document.declared_of_not_typedef hd (by simp [hk]) _) (fun step u hu => ?_) (by simp)
    rcases WireType.child?_cases hu with ⟨_, _, i, field, heq, -, hi⟩ | ⟨_, heq, -⟩ | ⟨heq, -⟩
    · cases heq
      exact (hf (field, u) (List.mem_of_getElem? hi)).1
    · cases heq
    · cases heq
  | enum hk _ _ =>
    refine h.snoc_named (Document.declared_of_not_typedef hd (by simp [hk]) _) (fun step u hu => ?_) (by simp)
    cases step <;> cases hu
  | typedef hk hP =>
    -- The typedef is remembered under its name but adds no type.
    have hsame : doc.declared (fin ++ [(name, t)]) = doc.declared fin := by
      rw [doc.declared_append, Document.declared_of_typedef hd hk, List.append_nil]
    rw [← hsame] at hP
    refine ⟨fun e he => ?_, hsame ▸ h.ordered⟩
    rcases List.mem_append.mp he with he | he
    · exact hsame ▸ h.closed e he
    · rw [List.mem_singleton.mp he]
      exact hP

theorem Scope.Steps.closed {doc : Document} {fin : Finished} (h : doc.scope.Steps [] [] fin) : Finished.Closed doc fin := by
  induction h with
  | refl => exact ⟨by simp, fun i t hi => by simp [Document.declared] at hi⟩
  | snoc _ _ _ hd _ ht ih =>
    -- Names in the new declaration only reach what is finished, so its parts are closed over the types in front of it.
    have hknown := fun path name => known_closed (s := doc.scope) ih.closed path name
    exact ih.snoc hd ((doc.scope.declType_yields (closed_buildable _ _) hknown _).of_gives ht)

/-- Whatever is finished is the type of its declaration. -/
theorem Scope.Steps.declOf {s : Scope} {fin : Finished} (h : s.Steps [] [] fin) :
    ∀ e ∈ fin, ∃ d, s.decl? e.1 = some d ∧ s.DeclOf (fun _ => True) d e.2 := by
  refine h.forall_mem (by simp) fun fin name d t _ _ hd ht => ?_
  have hyields : Yields (s.declType (s.known fin) d) (s.DeclOf (fun _ => True) d) :=
    s.declType_yields ⟨fun _ _ _ => trivial, fun _ _ _ => trivial⟩ (fun _ _ _ _ _ _ => trivial) d
  exact ⟨d, hd, hyields.of_gives ht⟩

theorem Scope.DeclOf.name {s : Scope} {P : WireType → Prop} {d : TypeDecl} {t : WireType} (h : s.DeclOf P d t) (hk : d.kind ≠ "typedef") :
    t.name = s.package.qualify d.name := by
  cases h with
  | struct | enum => rfl
  | typedef htypedef => exact absurd htypedef hk

namespace Resolution

variable {doc : Document} {fin : Finished} {p : Package}

theorem types_eq (h : Resolution doc fin p) : p.types = doc.declared fin := by
  rw [h.package]

theorem qualify_eq (h : Resolution doc fin p) : p.qualify = doc.scope.package.qualify := by
  rw [h.package]
  rfl

theorem param_closed (h : Resolution doc fin p) {i : Interface} (hi : i ∈ p.interfaces) {m : Method} (hm : m ∈ i.methods) {x : Param}
    (hx : x ∈ m.args ++ m.results) : x.type.ClosedOver p.types doc.scope.handles := by
  obtain ⟨f, hf⟩ := h.exists_paramOf hi hm hx
  obtain ⟨path, hgives⟩ := hf.type
  have hknown := fun path name => Scope.known_closed (s := doc.scope) h.steps.closed.closed path name
  rw [h.types_eq]
  exact ((Scope.declarableAt_yields (Scope.closed_buildable _ _) hknown path f.type).of_gives hgives).1

theorem type_closed (h : Resolution doc fin p) {t : WireType} (ht : t ∈ p.types) : t.ClosedOver p.types doc.scope.handles := by
  rw [h.types_eq] at ht ⊢
  obtain ⟨name, d, hmem, -, -⟩ := Document.mem_declared.mp ht
  exact h.steps.closed.closed (name, t) hmem

/-- Handles carry the names of interfaces of the package. -/
theorem exists_interface (h : Resolution doc fin p) {n : String} (hn : n ∈ doc.scope.handles) : ∃ i ∈ p.interfaces, n = p.qualify i.name := by
  obtain ⟨name, hname, rfl⟩ := List.mem_map.mp hn
  obtain ⟨decl, hdecl, rfl⟩ := List.mem_map.mp hname
  obtain ⟨i, hi, hof⟩ := exists_of_mem_forall₂ h.interfaces.flip hdecl
  exact ⟨i, hi, by rw [h.qualify_eq, hof.name]⟩

theorem names_checked (h : Resolution doc fin p) :
    (∀ d ∈ doc.types, Text.isIdentifier d.name = true ∧ isBuiltIn d.name = false) ∧ (doc.types.map (·.name)).Nodup := by
  rw [← Package.unseen_nil_iff, ← Document.checkTypes_eq_ok_iff]
  exact (Document.checkNames_eq_ok_iff.mp h.names).2.2.1

theorem decl?_eq_some_iff (h : Resolution doc fin p) {name : String} {d : TypeDecl} :
    doc.scope.decl? name = some d ↔ d ∈ doc.types ∧ d.name = name :=
  find?_eq_some_iff_of_nodup h.names_checked.2

/-- What is finished for a declaration that is no typedef is a type of the package. -/
theorem mem_types (h : Resolution doc fin p) {d : TypeDecl} (hd : d ∈ doc.types) (hk : d.kind ≠ "typedef") {t : WireType}
    (ht : (d.name, t) ∈ fin) : t ∈ p.types ∧ doc.scope.DeclOf (fun _ => True) d t := by
  have hdecl := h.decl?_eq_some_iff.mpr ⟨hd, rfl⟩
  obtain ⟨d', hd', hof⟩ := h.steps.declOf (d.name, t) ht
  obtain rfl : d = d' := Option.some.inj (hdecl.symm.trans hd')
  exact ⟨h.types_eq ▸ Document.mem_declared.mpr ⟨d.name, d, ht, hdecl, hk⟩, hof⟩

/-- A declaration that is no typedef has left its type in the package. -/
theorem exists_type (h : Resolution doc fin p) {d : TypeDecl} (hd : d ∈ doc.types) (hk : d.kind ≠ "typedef") :
    ∃ t ∈ p.types, doc.scope.DeclOf (fun _ => True) d t := by
  have hdecl := h.decl?_eq_some_iff.mpr ⟨hd, rfl⟩
  have hbuiltIn := builtIn?_of_isBuiltIn (h.names_checked.1 d hd).2
  obtain ⟨t, ht⟩ := h.types d hd
  simp only [Scope.meaning?, hbuiltIn, hdecl] at ht
  obtain ⟨⟨name, u⟩, hfind, rfl⟩ := Option.map_eq_some_iff.mp ht
  obtain rfl : name = d.name := by simpa using List.find?_some hfind
  exact ⟨u, h.mem_types hd hk (List.mem_of_find?_eq_some hfind)⟩

/-- A type of the package belongs to a declaration that is no typedef. -/
theorem exists_decl (h : Resolution doc fin p) {t : WireType} (ht : t ∈ p.types) :
    ∃ d ∈ doc.types, d.kind ≠ "typedef" ∧ doc.scope.DeclOf (fun _ => True) d t := by
  rw [h.types_eq] at ht
  obtain ⟨name, d, hmem, hd, hk⟩ := Document.mem_declared.mp ht
  obtain ⟨d', hd', hof⟩ := h.steps.declOf (name, t) hmem
  obtain rfl : d = d' := Option.some.inj (hd.symm.trans hd')
  exact ⟨d, (h.decl?_eq_some_iff.mp hd).1, hk, hof⟩

theorem type_names_nodup (h : Resolution doc fin p) : (p.types.map (·.name)).Nodup := by
  have hlocal : ((p.types.map (·.name)).map Text.localName).Nodup := by
    rw [List.map_map]
    exact ((p.validate_eq_ok_iff {}).mp h.valid).distinct.of_append_left
  exact hlocal.of_map _

/-- A declaration that is no typedef has one place in the package. -/
theorem existsUnique_type (h : Resolution doc fin p) {d : TypeDecl} (hd : d ∈ doc.types) (hk : d.kind ≠ "typedef") :
    ∃! i : Nat, ∃ t : WireType, p.types[i]? = some t ∧ t.name = p.qualify d.name := by
  obtain ⟨t, ht, hof⟩ := h.exists_type hd hk
  have hname : t.name = p.qualify d.name := by rw [hof.name hk, h.qualify_eq]
  rw [← hname]
  exact existsUnique_getElem? h.type_names_nodup ht

/-- The name of a typedef is the name of no type of the package. -/
theorem typedef_name_ne (h : Resolution doc fin p) {d : TypeDecl} (hd : d ∈ doc.types) (hk : d.kind = "typedef") {t : WireType}
    (ht : t ∈ p.types) : t.name ≠ p.qualify d.name := by
  intro hname
  obtain ⟨d', hd', hk', hof⟩ := h.exists_decl ht
  rw [hof.name hk', ← h.qualify_eq] at hname
  obtain rfl : d' = d := List.inj_on_of_nodup_map h.names_checked.2 hd' hd (p.qualify_injective hname)
  exact hk' hk

end Resolution

/-- The structs and enums of a document are the types of its package, each once and behind the types it needs, and the package has every
type and interface that its members and parameters lead to. -/
theorem resolved_package_closed {doc : Document} {p : Package} (h : doc.resolve = .ok p) :
    (∀ d ∈ doc.types, d.kind ≠ "typedef" → ∃! i : Nat, ∃ t : WireType, p.types[i]? = some t ∧ t.name = p.qualify d.name) ∧
    (∀ d ∈ doc.types, d.kind = "typedef" → ∀ t ∈ p.types, t.name ≠ p.qualify d.name) ∧
    (∀ t ∈ p.types, ∃ d ∈ doc.types, d.kind ≠ "typedef" ∧ doc.scope.DeclOf (fun _ => True) d t) ∧
    WireType.Ordered p.types ∧
    (∀ i ∈ p.interfaces, ∀ m ∈ i.methods, ∀ x ∈ m.args ++ m.results, ∀ q u, x.type.at? q = some u → u.isNamedType = true →
      u ∈ p.types) ∧
    ∀ t, (t ∈ p.types ∨ ∃ i ∈ p.interfaces, ∃ m ∈ i.methods, ∃ x ∈ m.args ++ m.results, x.type = t) →
      ∀ q n, t.at? q = some (.interface n) → ∃ i ∈ p.interfaces, n = p.qualify i.name := by
  obtain ⟨fin, hres⟩ := Document.resolution_of_resolve h
  refine ⟨fun d hd hk => hres.existsUnique_type hd hk, fun d hd hk t ht => hres.typedef_name_ne hd hk ht, fun t ht => hres.exists_decl ht,
    ?_, fun i hi m hm x hx q u hu hn => (hres.param_closed hi hm hx q u hu).1 hn, ?_⟩
  · rw [hres.types_eq]
    exact hres.steps.closed.ordered
  · intro t ht q n hn
    have hclosed : t.ClosedOver p.types doc.scope.handles := by
      rcases ht with ht | ⟨i, hi, m, hm, x, hx, rfl⟩
      · exact hres.type_closed ht
      · exact hres.param_closed hi hm hx
    exact hres.exists_interface ((hclosed q _ hn).2 n rfl)

/-- Here every declaration stands in front of what it needs, and a handle is reached through a typedef. -/
theorem resolved_package_closed_store :
    let doc : Document := {
      package := "store"
      space := "::acme::store"
      types := [
        { name := "Bag", kind := "struct", fields := [⟨"rows", "Rows"⟩, ⟨"owners", "Owners"⟩] },
        { name := "Rows", kind := "typedef", type := "vec<Kind>[4]" },
        { name := "Owners", kind := "typedef", type := "vec<IStore>" },
        { name := "Kind", kind := "enum", values := [⟨"A", ""⟩, ⟨"B", "7"⟩] }]
      interfaces := [{
        name := "IStore"
        methods := [{ name := "put", args := [⟨"bag", "Bag"⟩], results := [⟨"kinds", "vec<Kind>"⟩] }] }] }
    ∃ p, doc.resolve = .ok p ∧ (∃! i : Nat, ∃ t : WireType, p.types[i]? = some t ∧ t.name = p.qualify "Bag") ∧
      (∀ t ∈ p.types, t.name ≠ p.qualify "Rows") ∧ WireType.Ordered p.types ∧
      ∀ t ∈ p.types, ∀ q n, t.at? q = some (.interface n) → ∃ i ∈ p.interfaces, n = p.qualify i.name := by
  intro doc
  cases hdoc : doc.resolve with
  | error f =>
    have hok : doc.resolve.toBool = true := by decide +kernel
    simp [hdoc, Except.toBool] at hok
  | ok p =>
    obtain ⟨honce, hnever, -, hordered, -, hhandles⟩ := resolved_package_closed hdoc
    exact ⟨p, rfl, honce _ (.head _) (by simp), hnever _ (.tail _ (.head _)) rfl, hordered, fun t ht => hhandles t (.inl ht)⟩

end Schema

end Parcelgen

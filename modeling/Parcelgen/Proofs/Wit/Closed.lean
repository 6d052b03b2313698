import Mathlib.Data.List.Nodup
import Parcelgen.Proofs.Package.Closed
import Parcelgen.Proofs.Wit.Cycle

/-!
Packages that come from resolves are closed and ordered. A finished definition either joins the types of the package, or brings an interface,
or is put together from what is finished already (`TypeOf.outcome`); each of the three keeps types behind what they are made of and handles
behind their interfaces (`Orderly.finish`).
-/

namespace Parcelgen.Wit

namespace TypeDef

theorem isNamedType_of_members? {d : TypeDef} {name : String} {members : List (String × TypeRef)} (hname : d.name = some name)
    (h : d.members? = some members) : d.isNamedType = true ∧ d.interface? = none := by
  unfold members? at h
  split at h
  · rename_i hk
    simp [isNamedType, interface?, hk, hname]
  · rename_i hk
    simp [isNamedType, interface?, hk, hname]
  · cases h

theorem isNamedType_of_target? {d : TypeDef} {ref : TypeRef} (h : d.target? = some ref) : d.isNamedType = false ∧ d.interface? = none := by
  unfold target? at h
  split at h
  · rename_i hk
    simp [isNamedType, interface?, hk]
  · rename_i hk
    simp [isNamedType, interface?, hk]
  · cases h

theorem isDeclared_of_isNamedType {d : TypeDef} (h : d.isNamedType = true) : Resolve.isDeclared d = true := by
  unfold isNamedType at h
  unfold Resolve.isDeclared
  split at h <;> simp_all

theorem isDeclared_of_interface? {d : TypeDef} {i : Interface} (h : d.interface? = some i) : Resolve.isDeclared d = true := by
  obtain ⟨name, hk, hname, -⟩ := interface?_eq_some_iff.mp h
  simp [Resolve.isDeclared, hk, hname]

end TypeDef

namespace TypeOf

variable {known : TypeRef → WireType → Prop} {qualify : String → String} {d : TypeDef} {t : WireType}

/-- What a finished definition is to the package: a type made of known types, an interface with its handle, or nothing new. -/
theorem outcome (h : TypeOf known qualify d t) :
    (d.isNamedType = true ∧ d.interface? = none ∧ (∀ n, t ≠ .interface n) ∧ ∀ step u, t.child? step = some u → ∃ ref, known ref u) ∨
    (d.isNamedType = false ∧ ∃ i, d.interface? = some i ∧ t = .interface (qualify i.name)) ∨
    (d.isNamedType = false ∧ d.interface? = none ∧
      ((∃ dim, t = .array (.scalar .uint32) dim) ∨ (∃ ref u, known ref u ∧ t = .vector u) ∨ ∃ ref, known ref t)) := by
  cases h with
  | struct hname hmembers _ hfields =>
    obtain ⟨htype, hinterface⟩ := TypeDef.isNamedType_of_members? hname hmembers
    refine .inl ⟨htype, hinterface, by simp, fun step u hu => ?_⟩
    rcases WireType.child?_cases hu with ⟨_, _, i, field, heq, -, hi⟩ | ⟨_, heq, -⟩ | ⟨heq, -⟩
    · cases heq
      exact forall_field (P := fun u => ∃ ref, known ref u) (fun ref t ht => ⟨ref, ht⟩) hfields (field, u) (List.mem_of_getElem? hi)
    · cases heq
    · cases heq
  | enum hname hk =>
    refine .inl ⟨by simp [TypeDef.isNamedType, hk, hname], by simp [TypeDef.interface?, hk], by simp, fun step u hu => ?_⟩
    cases step <;> cases hu
  | flags hname hk _ hle =>
    refine .inl ⟨by simp [TypeDef.isNamedType, hk, hname, hle], by simp [TypeDef.interface?, hk], by simp, fun step u hu => ?_⟩
    cases step <;> cases hu
  | wideFlags hk hlt =>
    exact .inr (.inr ⟨by simp [TypeDef.isNamedType, hk, hlt], by simp [TypeDef.interface?, hk], .inl ⟨_, rfl⟩⟩)
  | list hk helem _ =>
    exact .inr (.inr ⟨by simp [TypeDef.isNamedType, hk], by simp [TypeDef.interface?, hk], .inr (.inl ⟨_, _, helem, rfl⟩)⟩)
  | resource hi =>
    obtain ⟨name, hk, -⟩ := TypeDef.interface?_eq_some_iff.mp hi
    exact .inr (.inl ⟨by simp [TypeDef.isNamedType, hk], _, hi, rfl⟩)
  | same htarget href =>
    obtain ⟨htype, hinterface⟩ := TypeDef.isNamedType_of_target? htarget
    exact .inr (.inr ⟨htype, hinterface, .inr (.inr ⟨_, href⟩)⟩)

end TypeOf

/-- The names of handles to the interfaces of a package. -/
def handles (p : Package) : List String := p.interfaces.map fun i => p.qualify i.name

/-- What holds of the converter at every moment. -/
structure Orderly (c : Converter) : Prop where
  closed : ∀ e ∈ c.finished, e.2.ClosedOver c.package.types (handles c.package)
  ordered : WireType.Ordered c.package.types

theorem Known.closedOver {fin : List (Nat × WireType)} {types : List WireType} {handles : List String}
    (hfin : ∀ e ∈ fin, e.2.ClosedOver types handles) {ref : TypeRef} {t : WireType} (h : Known fin ref t) : t.ClosedOver types handles := by
  cases h with
  | primitive hp =>
    rcases primitiveType_cases hp with ⟨s, -, rfl⟩ | rfl
    · exact .of_children (by simp [WireType.isNamedType]) (by simp) fun step u hu => by cases step <;> cases hu
    · exact .of_children (by simp [WireType.isNamedType]) (by simp) fun step u hu => by cases step <;> cases hu
  | defined hmem => exact hfin _ hmem

/-- A definition that is finished next keeps the finished ones closed and the types ordered. -/
theorem Orderly.finish {c : Converter} (h : Orderly c) {id : Nat} {d : TypeDef} {t : WireType}
    (ht : TypeOf (Known c.finished) c.package.qualify d t) : Orderly (c.finish id d t) := by
  have hknown : ∀ ref u, Known c.finished ref u → u.ClosedOver c.package.types (handles c.package) :=
    fun ref u => Known.closedOver h.closed
  rcases ht.outcome with ⟨htype, hinterface, hhandle, hbelow⟩ | ⟨htype, i, hinterface, rfl⟩ | ⟨htype, hinterface, hmade⟩
  · have hpackage : c.package.adding d t = { c.package with types := c.package.types ++ [t] } := by
      simp [Package.adding, htype, hinterface]
    have hparts : ∀ step u, t.child? step = some u → u.ClosedOver c.package.types (handles c.package) := by
      intro step u hu
      obtain ⟨ref, href⟩ := hbelow step u hu
      exact hknown ref u href
    unfold Converter.finish
    rw [hpackage]
    refine ⟨List.forall_mem_cons.mpr ⟨.snoc hparts hhandle, fun e he => ?_⟩, h.ordered.snoc hparts⟩
    exact (h.closed e he).mono (List.subset_append_left _ _) (List.Subset.refl _)
  · have hpackage : c.package.adding d (.interface (c.package.qualify i.name)) =
        { c.package with interfaces := c.package.interfaces ++ [i] } := by
      simp [Package.adding, htype, hinterface]
    have hhandles : handles { c.package with interfaces := c.package.interfaces ++ [i] } = handles c.package ++ [c.package.qualify i.name] :=
      List.map_append
    unfold Converter.finish
    rw [hpackage]
    refine ⟨?_, h.ordered⟩
    rw [hhandles]
    refine List.forall_mem_cons.mpr ⟨.interface (by simp), fun e he => ?_⟩
    exact (h.closed e he).mono (List.Subset.refl _) (List.subset_append_left _ _)
  · have hpackage : c.package.adding d t = c.package := by simp [Package.adding, htype, hinterface]
    unfold Converter.finish
    rw [hpackage]
    refine ⟨List.forall_mem_cons.mpr ⟨?_, h.closed⟩, h.ordered⟩
    rcases hmade with ⟨dim, rfl⟩ | ⟨ref, u, hu, rfl⟩ | ⟨ref, href⟩
    · refine .array (.of_children (by simp [WireType.isNamedType]) (by simp) fun step u hu => ?_) dim
      cases step <;> cases hu
    · exact (hknown ref u hu).vector
    · exact hknown ref t href

theorem Steps.orderly {r : Resolve} {good : Nat → Prop} {a b : Converter} (h : Steps r good a b) (ha : Orderly a) : Orderly b := by
  induction h with
  | refl => exact ha
  | snoc _ _ _ ht ih => exact ih.finish ht

namespace Resolve

/-- The use stands for the type, as far as that is found within `depth` definitions. -/
def StandsWithin (r : Resolve) (qualify : String → String) : Nat → TypeRef → WireType → Prop
  | _, .absent, _ => False
  | _, .primitive p, t => primitiveType p = pure t
  | 0, .defined _, _ => False
  | depth + 1, .defined id, t => TypeOf (r.StandsWithin qualify depth) qualify (r.definition id) t

/-- The use stands for the type: putting definitions in for identities leads there. -/
def StandsFor (r : Resolve) (qualify : String → String) (ref : TypeRef) (t : WireType) : Prop := ∃ depth, r.StandsWithin qualify depth ref t

theorem StandsWithin.succ {r : Resolve} {qualify : String → String} {depth : Nat} {ref : TypeRef} {t : WireType}
    (h : r.StandsWithin qualify depth ref t) : r.StandsWithin qualify (depth + 1) ref t := by
  induction depth generalizing ref t with
  | zero =>
    cases ref with
    | absent | defined id => exact h.elim
    | primitive p => exact h
  | succ depth ih =>
    cases ref with
    | absent => exact h.elim
    | primitive p => exact h
    | defined id => exact TypeOf.mono (fun _ _ => ih) h

/-- The definition is in the numbering. -/
def Listed (r : Resolve) (id : Nat) : Prop := some id ∈ r.slots

instance (r : Resolve) (id : Nat) : Decidable (r.Listed id) := inferInstanceAs (Decidable (_ ∈ r.slots))

/-- Listed definitions only use listed ones. -/
def IsClosed (r : Resolve) : Prop := ∀ a b, r.Refers a b → r.Listed a → r.Listed b

end Resolve

/-- Finished definitions have the types that their identities stand for. -/
theorem Steps.standsWithin {r : Resolve} {good : Nat → Prop} {a b : Converter} (h : Steps r good a b)
    (ha : ∃ depth, ∀ e ∈ a.finished, r.StandsWithin a.package.qualify depth (.defined e.1) e.2) :
    ∃ depth, ∀ e ∈ b.finished, r.StandsWithin b.package.qualify depth (.defined e.1) e.2 := by
  induction h with
  | refl => exact ha
  | snoc _ _ _ ht ih =>
    obtain ⟨depth, hfin⟩ := ih
    refine ⟨depth + 1, List.forall_mem_cons.mpr ⟨ht.mono fun ref u hu => ?_, fun e he => (hfin e he).succ⟩⟩
    cases hu with
    | primitive hp =>
      cases depth <;> exact hp
    | defined hmem => exact hfin _ hmem

namespace Conversion

variable {r : Resolve} {good : Nat → Prop} {space : String} {fin : List (Nat × WireType)} {p : Package}

theorem standsFor (h : Conversion r good space fin p) : ∀ e ∈ fin, r.StandsFor p.qualify (.defined e.1) e.2 := by
  obtain ⟨name, hsteps⟩ := h.steps
  obtain ⟨depth, hdepth⟩ := hsteps.standsWithin ⟨0, by simp⟩
  exact fun e he => ⟨depth, hdepth e he⟩

theorem orderly (h : Conversion r good space fin p) : Orderly { package := p, finished := fin } := by
  obtain ⟨name, hsteps⟩ := h.steps
  exact hsteps.orderly ⟨by simp, fun i t hi => by simp at hi⟩

theorem good_of_mem (h : Conversion r good space fin p) : ∀ e ∈ fin, good e.1 := by
  obtain ⟨name, hsteps⟩ := h.steps
  exact hsteps.forall_mem (by simp) fun _ _ _ _ _ hgood _ => hgood

/-- The identities of the types of the package, in its order. -/
theorem order (h : Conversion r r.Listed space fin p) : ∃ order : List Nat, order.Nodup ∧
    (∀ id, id ∈ order ↔ r.Listed id ∧ (r.definition id).isNamedType = true) ∧
    List.Forall₂ (fun id t => r.StandsFor p.qualify (.defined id) t) order p.types := by
  refine ⟨(r.named fin).map (·.1), ?_, fun id => ?_, ?_⟩
  · have hsub : ((r.named fin).map (·.1)).Sublist (fin.reverse.map (·.1)) := List.filter_sublist.map _
    refine List.Nodup.sublist hsub ?_
    rw [List.map_reverse, List.nodup_reverse]
    exact h.nodup
  · constructor
    · intro hid
      obtain ⟨e, he, rfl⟩ := List.mem_map.mp hid
      obtain ⟨hfin, hnamed⟩ := Resolve.mem_named.mp he
      exact ⟨h.good_of_mem e hfin, hnamed⟩
    · rintro ⟨hlisted, hnamed⟩
      obtain ⟨t, ht⟩ := h.declared id hlisted (TypeDef.isDeclared_of_isNamedType hnamed)
      exact List.mem_map.mpr ⟨(id, t), Resolve.mem_named.mpr ⟨ht, hnamed⟩, rfl⟩
  · rw [h.types_eq, List.forall₂_map_left_iff, List.forall₂_map_right_iff, List.forall₂_same]
    exact fun e he => h.standsFor e (Resolve.mem_named.mp he).1

/-- Every interface of the package belongs to a resource. -/
theorem mem_interfaces (h : Conversion r good space fin p) {i : Interface} :
    i ∈ p.interfaces ↔ ∃ e ∈ fin, (r.definition e.1).interface? = some i := by
  rw [h.interfaces_eq, List.mem_filterMap]
  simp only [List.mem_reverse]

/-- A resource has one interface. -/
theorem existsUnique_interface (h : Conversion r good space fin p) {id : Nat} (hlisted : r.Listed id) {i : Interface}
    (hi : (r.definition id).interface? = some i) : ∃! k : Nat, ∃ j : Interface, p.interfaces[k]? = some j ∧ j.name = i.name := by
  obtain ⟨t, ht⟩ := h.declared id hlisted (TypeDef.isDeclared_of_interface? hi)
  have hnodup : (p.interfaces.map (·.name)).Nodup := ((p.validate_eq_ok_iff {}).mp h.valid).distinct.of_append_right
  exact existsUnique_getElem? hnodup (h.mem_interfaces.mpr ⟨(id, t), ht, hi⟩)

/-- Handles in the types of the package lead to its interfaces. -/
theorem exists_interface (h : Conversion r good space fin p) {t : WireType} (ht : t ∈ p.types) {q : Path} {n : String}
    (hn : t.at? q = some (.interface n)) : ∃ i ∈ p.interfaces, n = p.qualify i.name := by
  rw [h.types_eq] at ht
  obtain ⟨e, he, rfl⟩ := List.mem_map.mp ht
  have hclosed := h.orderly.closed e (Resolve.mem_named.mp he).1
  obtain ⟨i, hi, heq⟩ := List.mem_map.mp ((hclosed q _ hn).2 n rfl)
  exact ⟨i, hi, heq.symm⟩

end Conversion

/-- Conversion of a resolve ends, whatever its definitions refer to, for no depth past their number matters. When the references stay inside
the numbering and a package comes out, its types are the named records, tuples, enums and narrow flags, each once and behind the types it
needs; its interfaces are those of the resources, one for each and without methods; and handles lead to them. When a definition that the
package would declare leads to a cycle, or to something that has no fixed layout, no package comes out. -/
theorem converted_package_closed (r : Resolve) (space : String) :
    (∀ (stop : List Nat → Nat → Converting WireType) (depth : Nat), r.defs.length < depth → ∀ ref,
      r.convertOr stop depth [] ref = r.convert ref) ∧
    (r.IsClosed → ∀ p, r.toPackage space = .ok p →
      (∃ order : List Nat, order.Nodup ∧ (∀ id, id ∈ order ↔ r.Listed id ∧ (r.definition id).isNamedType = true) ∧
        List.Forall₂ (fun id t => r.StandsFor p.qualify (.defined id) t) order p.types) ∧
      WireType.Ordered p.types ∧
      (∀ id name, r.Listed id → (r.definition id).kind = some .resource → (r.definition id).name = some name →
        ∃! k : Nat, ∃ i : Interface, p.interfaces[k]? = some i ∧ i.name = "I" ++ pascalCase name) ∧
      (∀ i ∈ p.interfaces, i.methods = [] ∧ ∃ id name, r.Listed id ∧ (r.definition id).kind = some .resource ∧
        (r.definition id).name = some name ∧ i.name = "I" ++ pascalCase name) ∧
      ∀ t ∈ p.types, ∀ q n, t.at? q = some (.interface n) → ∃ i ∈ p.interfaces, n = p.qualify i.name) ∧
    ∀ id next, r.Listed id → Resolve.isDeclared (r.definition id) = true → Relation.ReflTransGen r.Refers id next →
      (Relation.TransGen r.Refers next next ∨ ∃ k, (r.definition next).kind = some k ∧ k.isRefused = true) →
      ∃ f, r.toPackage space = .error f := by
  refine ⟨fun stop depth h ref => r.convertOr_eq_convert stop h ref, fun hclosed p hp => ?_, fun id next hlisted hdeclared hreach hbad => ?_⟩
  · obtain ⟨fin, h⟩ := Resolve.conversion_of_toPackage r.Listed hclosed (fun _ hid => hid) hp
    refine ⟨h.order, h.orderly.ordered, fun id name hlisted hk hname => ?_, fun i hi => ?_, fun t ht q n hn => h.exists_interface ht hn⟩
    · exact h.existsUnique_interface hlisted (TypeDef.interface?_eq_some_iff.mpr ⟨name, hk, hname, rfl⟩)
    · obtain ⟨e, he, hinterface⟩ := h.mem_interfaces.mp hi
      obtain ⟨name, hk, hname, rfl⟩ := TypeDef.interface?_eq_some_iff.mp hinterface
      exact ⟨rfl, e.1, name, h.good_of_mem e he, hk, hname, rfl⟩
  · cases hp : r.toPackage space with
    | error f => exact ⟨f, rfl⟩
    | ok p =>
      obtain ⟨fin, h⟩ := Resolve.conversion_of_toPackage (fun _ => True) (fun _ _ _ h => h) (fun _ _ => trivial) hp
      obtain ⟨hacyclic, hkinds⟩ := h.not_cyclic hreach (h.declared id hlisted hdeclared)
      rcases hbad with hcycle | ⟨k, hk, hrefused⟩
      · exact absurd hcycle hacyclic
      · rw [hkinds k hk] at hrefused
        cases hrefused

/-- A record that is finished behind the types of its members, which it reaches through a list, an alias and a handle, and a ring of a record,
a list and an alias. -/
theorem converted_package_closed_shapes :
    let shapes : Resolve := {
      defs := [
        { name := some "canvas", kind := some (.record [("surface", .defined 1), ("points", .defined 3), ("hue", .defined 6)]) },
        { kind := some (.handle (.defined 2)) },
        { name := some "blob", kind := some .resource },
        { kind := some (.list (.defined 4)) },
        { name := some "point", kind := some (.record [("x", .primitive .f64), ("tint", .defined 5)]) },
        { name := some "color", kind := some (.enum ["red", "blue"]) },
        { name := some "hue", kind := some (.alias (.defined 5)) },
        { name := some "perms", kind := some (.flags ["read", "write"]) }]
      slots := [some 0, some 1, some 2, some 3, some 4, some 5, some 6, some 7]
      packages := ["shapes"] }
    let ring : Resolve := {
      defs := [
        { name := some "node", kind := some (.record [("next", .defined 1)]) },
        { kind := some (.list (.defined 2)) },
        { name := some "link", kind := some (.alias (.defined 0)) }]
      slots := [some 0, some 1, some 2]
      packages := ["ring"] }
    shapes.IsClosed ∧
      (∃ p, shapes.toPackage "demo" = .ok p ∧ p.types.map (·.localName) = ["Color", "Point", "Canvas", "Perms"] ∧
        WireType.Ordered p.types ∧ (∃! k : Nat, ∃ i : Interface, p.interfaces[k]? = some i ∧ i.name = "I" ++ pascalCase "blob") ∧
        ∀ t ∈ p.types, ∀ q n, t.at? q = some (.interface n) → ∃ i ∈ p.interfaces, n = p.qualify i.name) ∧
      Relation.TransGen ring.Refers 0 0 ∧ ∃ f, ring.toPackage "demo" = .error f := by
  intro shapes ring
  have hclosed : shapes.IsClosed := by
    intro a b hab ha
    simp only [Resolve.Listed, shapes, List.mem_cons, Option.some.injEq, List.not_mem_nil, or_false] at ha ⊢
    rcases ha with rfl | rfl | rfl | rfl | rfl | rfl | rfl | rfl <;>
      simp [Resolve.Refers, Resolve.definition, Resolve.def?, TypeDef.references, shapes] at hab <;> omega
  have hcycle : Relation.TransGen ring.Refers 0 0 :=
    ((Relation.TransGen.single (b := 1) (by decide +kernel)).tail (c := 2) (by decide +kernel)).tail (by decide +kernel)
  have hlocal : (shapes.toPackage "demo").toOption.map (·.types.map (·.localName)) = some ["Color", "Point", "Canvas", "Perms"] := by
    decide +kernel
  obtain ⟨-, -, hrefused⟩ := converted_package_closed ring "demo"
  refine ⟨hclosed, ?_, hcycle, hrefused 0 0 (by decide +kernel) (by decide +kernel) .refl (.inl hcycle)⟩
  cases hp : shapes.toPackage "demo" with
  | error f => simp [hp, Except.toOption] at hlocal
  | ok p =>
    obtain ⟨-, hpackage, -⟩ := converted_package_closed shapes "demo"
    obtain ⟨-, hordered, hresource, -, hhandles⟩ := hpackage hclosed p hp
    refine ⟨p, rfl, ?_, hordered, hresource 2 "blob" (by decide +kernel) rfl rfl, hhandles⟩
    simpa [hp, Except.toOption] using hlocal

end Parcelgen.Wit

import Mathlib.Data.List.Perm.Subperm
import Mathlib.Logic.Relation
import Parcelgen.Proofs.Wit.Trace

/-!
Definitions that contain themselves. No definition is open twice during a conversion, so conversions end within as many definitions as there
are (`convertOr_eq_convert`). A definition is finished only after those it uses, so none that leads to a cycle is ever finished.
-/

namespace Parcelgen.Wit

/-- Kinds that are refused whatever they hold. -/
def Kind.isRefused : Kind → Bool
  | .option | .result | .variant | .future | .stream => true
  | .record _ | .enum _ | .flags _ | .tuple _ | .list _ | .resource | .handle _ | .alias _ => false

namespace TypeDef

/-- A handle or alias uses what it leads to and nothing else. -/
theorem references_of_target? {d : TypeDef} {ref : TypeRef} (h : d.target? = some ref) : d.references = [ref] := by
  unfold target? at h
  split at h
  · rename_i hk
    cases h
    simp [references, hk]
  · rename_i hk
    cases h
    simp [references, hk]
  · cases h

end TypeDef

namespace TypeOf

variable {known : TypeRef → WireType → Prop} {qualify : String → String} {d : TypeDef} {t : WireType}

/-- A definition has no type while one of the types that it uses is unknown. -/
theorem references (h : TypeOf known qualify d t) : ∀ ref ∈ d.references, ∃ u, known ref u := by
  cases h with
  | struct _ hmembers _ hfields =>
    rw [← TypeDef.members_references hmembers]
    exact ((List.forall₂_and_left _ _).mp (hfields.imp fun ref u hu => ⟨⟨u, hu⟩, hu⟩)).1
  | enum _ hk | flags _ hk | wideFlags hk => simp [TypeDef.references, hk]
  | list hk helem => simpa [TypeDef.references, hk] using ⟨_, helem⟩
  | resource hi =>
    obtain ⟨name, hk, -⟩ := TypeDef.interface?_eq_some_iff.mp hi
    simp [TypeDef.references, hk]
  | same htarget href =>
    rw [TypeDef.references_of_target? htarget]
    simpa using ⟨_, href⟩

theorem not_of_isRefused {k : Kind} (hkind : d.kind = some k) (hk : k.isRefused = true) : ¬ TypeOf known qualify d t := by
  intro h
  cases k <;> simp only [Kind.isRefused, Bool.false_eq_true] at hk
  all_goals cases h <;> simp_all [TypeDef.members?, TypeDef.target?, TypeDef.interface?]

end TypeOf

section

variable {convert other : TypeRef → Converting WireType}

theorem structMembers_congr (owner : String) {fs : List (String × String × TypeRef)} (h : ∀ f ∈ fs, convert f.2.2 = other f.2.2) :
    structMembers convert owner fs = structMembers other owner fs := by
  induction fs with
  | nil => rfl
  | cons f rest ih =>
    obtain ⟨label, member, ref⟩ := f
    obtain ⟨href, hrest⟩ := List.forall_mem_cons.mp h
    simp only [structMembers, href, ih hrest]

theorem recordType_congr (d : TypeDef) {fields : List (String × TypeRef)} (h : ∀ f ∈ fields, convert f.2 = other f.2) :
    recordType convert d fields = recordType other d fields := by
  cases hname : d.name with
  | none => simp only [recordType, hname]
  | some name =>
    simp only [recordType, hname]
    refine congrArg (· >>= _) (structMembers_congr name fun f hf => ?_)
    obtain ⟨field, hfield, rfl⟩ := List.mem_map.mp hf
    exact h field hfield

theorem tupleType_congr (d : TypeDef) {types : List TypeRef} (h : ∀ ref ∈ types, convert ref = other ref) :
    tupleType convert d types = tupleType other d types := by
  cases hname : d.name with
  | none => simp only [tupleType, hname]
  | some name =>
    simp only [tupleType, hname]
    refine congrArg (· >>= _) (structMembers_congr name fun f hf => h f.2.2 ?_)
    rw [← numberedFields_members 0 types]
    exact List.mem_map_of_mem (List.mem_map_of_mem hf)

/-- A definition is converted through the types that it uses and no others. -/
theorem definedType_congr (d : TypeDef) (h : ∀ ref ∈ d.references, convert ref = other ref) :
    definedType convert d = definedType other d := by
  unfold definedType TypeDef.references at *
  split <;> rename_i hk <;> simp only [hk] at h
  case h_2 fields => exact recordType_congr d fun f hf => h f.2 (List.mem_map_of_mem hf)
  case h_5 types => exact tupleType_congr d h
  case h_6 elem => simp only [listType, h elem (by simp)]
  case h_8 ref => exact h ref (by simp)
  case h_14 ref => exact h ref (by simp)
  all_goals rfl

end

namespace Resolve

/-- A conversion that does as `stop` says when it would go more than `depth` definitions deep. -/
def convertOr (r : Resolve) (stop : List Nat → Nat → Converting WireType) : Nat → List Nat → TypeRef → Converting WireType
  | _, _, .absent => throw (.nilElement .intake "<nil>")
  | _, _, .primitive p => primitiveType p
  | depth, pending, .defined id => do
    match (← get).finished.find? (·.1 == id) with
    | some (_, t) => return t
    | none =>
      let d := r.definition id
      if pending.contains id then throw (.cycle .intake [d.label])
      match depth with
      | 0 => stop pending id
      | depth + 1 => do
        let t ← definedType (r.convertOr stop depth (id :: pending)) d
        modify fun c => { c with finished := (id, t) :: c.finished }
        return t

theorem convertWithin_eq_convertOr (r : Resolve) (fuel : Nat) (pending : List Nat) (ref : TypeRef) :
    r.convertWithin fuel pending ref = r.convertOr (fun _ id => throw (.cycle .intake [(r.definition id).label])) fuel pending ref := by
  induction fuel generalizing pending ref with
  | zero =>
    cases ref with
    | absent | primitive p | defined id =>
      unfold convertWithin convertOr
      rfl
  | succ fuel ih =>
    have hconvert : ∀ id, r.convertWithin fuel (id :: pending) =
        r.convertOr (fun _ id => throw (.cycle .intake [(r.definition id).label])) fuel (id :: pending) :=
      fun id => funext fun ref => ih (id :: pending) ref
    cases ref with
    | absent | primitive p =>
      unfold convertWithin convertOr
      rfl
    | defined id =>
      unfold convertWithin convertOr
      dsimp only
      rewrite [hconvert]
      rfl

/-- Definitions that are open have slots, for an empty definition uses nothing. -/
theorem lt_of_references {r : Resolve} {id : Nat} {ref : TypeRef} (h : ref ∈ (r.definition id).references) : id < r.defs.length := by
  by_contra hge
  have hnone : r.def? id = none := List.getElem?_eq_none (by omega)
  simp [definition, hnone, TypeDef.references] at h

theorem length_le_of_nodup {n : Nat} {pending : List Nat} (hnodup : pending.Nodup) (h : ∀ id ∈ pending, id < n) : pending.length ≤ n := by
  have hsub : pending ⊆ List.range n := fun id hid => List.mem_range.mpr (h id hid)
  simpa using (List.subperm_of_subset hnodup hsub).length_le

/-- There is room for every definition that a conversion can meet, so neither the depth nor what happens past it matters. -/
theorem convertOr_congr {r : Resolve} {stop stop' : List Nat → Nat → Converting WireType} {depth depth' : Nat} {pending : List Nat}
    (hnodup : pending.Nodup) (hrange : ∀ id ∈ pending, id < r.defs.length) (hdepth : r.defs.length < depth + pending.length)
    (hdepth' : r.defs.length < depth' + pending.length) (ref : TypeRef) :
    r.convertOr stop depth pending ref = r.convertOr stop' depth' pending ref := by
  cases ref with
  | absent | primitive p =>
    unfold convertOr
    rfl
  | defined id =>
    unfold convertOr
    by_cases hid : id ∈ pending
    · simp only [List.contains_iff_mem, hid, if_true]
      rfl
    · have hlength := length_le_of_nodup hnodup hrange
      obtain ⟨depth, rfl⟩ : ∃ n, depth = n + 1 := ⟨depth - 1, by omega⟩
      obtain ⟨depth', rfl⟩ : ∃ n, depth' = n + 1 := ⟨depth' - 1, by omega⟩
      have hdef : definedType (r.convertOr stop depth (id :: pending)) (r.definition id) =
          definedType (r.convertOr stop' depth' (id :: pending)) (r.definition id) := by
        refine definedType_congr _ fun ref href => ?_
        have hmore : ∀ j ∈ id :: pending, j < r.defs.length := List.forall_mem_cons.mpr ⟨lt_of_references href, hrange⟩
        exact convertOr_congr (List.nodup_cons.mpr ⟨hid, hnodup⟩) hmore (by simp; omega) (by simp; omega) ref
      simp only [List.contains_iff_mem, hid, if_false, hdef]
termination_by depth

/-- Conversions end within as many definitions as there are, and one for an identity that has none: what would be done at a larger depth makes
no difference. -/
theorem convertOr_eq_convert (r : Resolve) (stop : List Nat → Nat → Converting WireType) {depth : Nat} (h : r.defs.length < depth)
    (ref : TypeRef) : r.convertOr stop depth [] ref = r.convert ref := by
  rw [convert, convertWithin_eq_convertOr]
  exact convertOr_congr List.nodup_nil (by simp) (by simpa using h) (by simp) ref

end Resolve

theorem irrefl_of_acc {α : Type} {rel : α → α → Prop} {a : α} (h : Acc rel a) : ¬ rel a a := by
  induction h with
  | intro a _ ih => exact fun ha => ih a ha ha

/-- A definition is finished only if those it uses do not lead back to it. -/
theorem Steps.acc {r : Resolve} {good : Nat → Prop} {a b : Converter} (h : Steps r good a b)
    (ha : ∀ e ∈ a.finished, Acc (fun b a => r.Refers a b) e.1) : ∀ e ∈ b.finished, Acc (fun b a => r.Refers a b) e.1 := by
  refine h.forall_mem ha fun c id t hfin _ _ ht => ⟨id, fun next hnext => ?_⟩
  obtain ⟨u, hu⟩ := ht.references _ hnext
  cases hu with
  | defined hmem => exact hfin _ hmem

namespace Conversion

variable {r : Resolve} {good : Nat → Prop} {space : String} {fin : List (Nat × WireType)} {p : Package}

theorem typeOf (h : Conversion r good space fin p) : ∀ e ∈ fin, TypeOf (Known fin) p.qualify (r.definition e.1) e.2 := by
  obtain ⟨name, hsteps⟩ := h.steps
  exact hsteps.typeOf (by simp)

/-- What a finished definition leads to is finished. -/
theorem finished_of_reaches (h : Conversion r good space fin p) {id next : Nat} (hreach : Relation.ReflTransGen r.Refers id next)
    (hid : ∃ t, (id, t) ∈ fin) : ∃ t, (next, t) ∈ fin := by
  induction hreach with
  | refl => exact hid
  | tail _ hnext ih =>
    obtain ⟨t, ht⟩ := ih
    obtain ⟨u, hu⟩ := (h.typeOf _ ht).references _ hnext
    cases hu with
    | defined hmem => exact ⟨u, hmem⟩

/-- No definition that was finished leads to a cycle, or to a kind that is refused. -/
theorem not_cyclic (h : Conversion r good space fin p) {id next : Nat} (hreach : Relation.ReflTransGen r.Refers id next)
    (hid : ∃ t, (id, t) ∈ fin) :
    ¬ Relation.TransGen r.Refers next next ∧ ∀ k, (r.definition next).kind = some k → k.isRefused = false := by
  obtain ⟨t, ht⟩ := h.finished_of_reaches hreach hid
  obtain ⟨name, hsteps⟩ := h.steps
  refine ⟨fun hcycle => ?_, fun k hk => ?_⟩
  · have hacc : Acc (Relation.TransGen fun b a => r.Refers a b) next := (hsteps.acc (by simp) _ ht).transGen
    have hback : Relation.TransGen (fun b a => r.Refers a b) next next := Relation.transGen_swap.mpr hcycle
    exact irrefl_of_acc hacc hback
  · cases hrefused : k.isRefused with
    | false => rfl
    | true => exact absurd (h.typeOf _ ht) (TypeOf.not_of_isRefused hk hrefused)

end Conversion

end Parcelgen.Wit

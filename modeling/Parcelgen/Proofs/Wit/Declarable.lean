import Parcelgen.Proofs.Marshal.Declarable
import Parcelgen.Proofs.Wit.Trace

/-! Converted types can be declared: a definition that uses declarable types becomes one, so all that is finished is declarable. -/

namespace Parcelgen.Wit

theorem caseStorage_isInteger (n : Nat) : (caseStorage n).isInteger = true := by
  unfold caseStorage
  repeat' split
  all_goals rfl

theorem flagStorage_isInteger (n : Nat) : (flagStorage n).isInteger = true := by
  unfold flagStorage
  repeat' split
  all_goals rfl

theorem TypeOf.isDeclarable {known : TypeRef → WireType → Prop} {qualify : String → String} {d : TypeDef} {t : WireType}
    (hknown : ∀ ref t, known ref t → t.isDeclarable = true) (h : TypeOf known qualify d t) : t.isDeclarable = true := by
  cases h with
  | struct _ _ _ hfields =>
    exact WireType.allDeclarable_iff.mpr (forall_field hknown hfields)
  | enum => exact caseStorage_isInteger _
  | flags => exact flagStorage_isInteger _
  | wideFlags => rfl
  | list _ helem harray => exact WireType.declarable_vector.mpr ⟨hknown _ _ helem, WireType.isArray_eq_false_iff.mpr harray⟩
  | resource => rfl
  | same _ href => exact hknown _ _ href

theorem Known.isDeclarable {fin : List (Nat × WireType)} (hfin : ∀ e ∈ fin, e.2.isDeclarable = true) {ref : TypeRef} {t : WireType}
    (h : Known fin ref t) : t.isDeclarable = true := by
  cases h with
  | primitive hp =>
    rcases primitiveType_cases hp with ⟨s, hs, rfl⟩ | rfl
    · simpa [WireType.isDeclarable] using hs
    · rfl
  | defined hmem => exact hfin _ hmem

theorem Steps.isDeclarable {r : Resolve} {good : Nat → Prop} {a b : Converter} (h : Steps r good a b)
    (ha : ∀ e ∈ a.finished, e.2.isDeclarable = true) : ∀ e ∈ b.finished, e.2.isDeclarable = true :=
  h.forall_mem ha fun _ _ _ hfin _ _ ht => ht.isDeclarable fun _ _ => Known.isDeclarable hfin

/-- The package of a resolve has declarable types only, and no methods. -/
theorem Resolve.toPackage_sound {r : Resolve} {space : String} {p : Package} (h : r.toPackage space = .ok p) :
    p.validate {} = .ok () ∧ (∀ t ∈ p.types, t.isDeclarable = true) ∧ ∀ i ∈ p.interfaces, i.methods = [] := by
  obtain ⟨fin, hconv⟩ := conversion_of_toPackage (fun _ => True) (fun _ _ _ => id) (fun _ _ => trivial) h
  obtain ⟨name, hsteps⟩ := hconv.steps
  refine ⟨hconv.valid, fun t ht => ?_, fun i hi => ?_⟩
  · rw [hconv.types_eq] at ht
    obtain ⟨e, he, rfl⟩ := List.mem_map.mp ht
    exact hsteps.isDeclarable (by simp) e (mem_named.mp he).1
  · rw [hconv.interfaces_eq] at hi
    obtain ⟨e, -, he⟩ := List.mem_filterMap.mp hi
    obtain ⟨name, -, -, rfl⟩ := TypeDef.interface?_eq_some_iff.mp he
    rfl

end Parcelgen.Wit

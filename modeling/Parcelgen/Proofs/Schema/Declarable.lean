import Parcelgen.Proofs.Marshal.Declarable
import Parcelgen.Proofs.Schema.Trace

/-!
Resolved types can be declared. A typedef may stand for an array of arrays, so what every resolved type has is weaker: it is an array, in
any number of dimensions, of a declarable type. Members and parameters have one dimension at most and are declarable themselves.
-/

namespace Parcelgen

/-- The type is declarable apart from the number of its dimensions. -/
def WireType.isSound (t : WireType) : Bool := t.arrayShape.1.isDeclarable

namespace WireType

theorem isSound_array (elem : WireType) (dim : String) : (WireType.array elem dim).isSound = elem.isSound := by
  simp [isSound, arrayShape]

theorem isSound_of_not_array {t : WireType} (h : t.isArray = false) : t.isSound = t.isDeclarable := by
  rw [isSound, arrayShape_of_not_array h]

theorem isDeclarable_of_isSound {t : WireType} (h : t.isSound = true) (hflat : Schema.Scope.IsFlat t) : t.isDeclarable = true := by
  cases ht : t.isArray with
  | false => rwa [isSound_of_not_array ht] at h
  | true =>
    cases t with
    | array elem dim =>
      have he : elem.isArray = false := by
        cases elem with
        | array inner dim' => exact absurd rfl (hflat inner dim dim')
        | absent | scalar _ | string | vector _ | struct _ _ | enum _ _ _ | interface _ => rfl
      rw [isSound_array, isSound_of_not_array he] at h
      exact declarable_array.mpr ⟨h, he⟩
    | absent | scalar _ | string | vector _ | struct _ _ | enum _ _ _ | interface _ => cases ht

end WireType

theorem Scalar.isKnown_of_ofName? {name : String} {s : Scalar} (h : Scalar.ofName? name = some s) : s.isKnown = true := by
  have hmem : s ∈ Scalar.all := List.mem_of_find?_eq_some h
  cases s with
  | unknown => simp [Scalar.all] at hmem
  | bool | int8 | uint8 | int16 | uint16 | int32 | uint32 | int64 | uint64 | float | double => rfl

namespace Schema

open Resolving

namespace Scope

theorem sound_buildable : Buildable fun t => t.isSound = true where
  array t dim h := by rwa [WireType.isSound_array]
  vector t h hk := by
    have ha := WireType.isArray_eq_false_iff.mpr hk
    rw [WireType.isSound_of_not_array ha] at h
    rw [WireType.isSound_of_not_array rfl]
    exact WireType.declarable_vector.mpr ⟨h, ha⟩

theorem builtIn?_isSound {name : String} {t : WireType} (h : builtIn? name = some t) : t.isSound = true := by
  rcases builtIn?_cases h with ⟨scalar, hs, rfl⟩ | rfl
  · exact Scalar.isKnown_of_ofName? hs
  · rfl

theorem known_isSound {s : Scope} {fin : Finished} (hfin : ∀ e ∈ fin, e.2.isSound = true) (path : List String) (name : String) :
    Yields (s.known fin path name) fun t => t.isSound = true :=
  known_yields (fun _ _ h => builtIn?_isSound h) hfin (fun _ _ => rfl) path name

theorem DeclOf.isSound {s : Scope} {d : TypeDecl} {t : WireType} (h : s.DeclOf (fun t => t.isSound = true) d t) : t.isSound = true := by
  cases h with
  | struct _ _ hf =>
    rw [WireType.isSound_of_not_array rfl, WireType.isDeclarable, WireType.allDeclarable_iff]
    exact fun f hmem => WireType.isDeclarable_of_isSound (hf f hmem).1 (hf f hmem).2
  | enum _ hs _ => exact hs
  | typedef _ ht => exact ht

/-- Every finished declaration is sound, because those before it are. -/
theorem Steps.isSound {s : Scope} {avoid : List String} {fin : Finished} (h : Steps s avoid [] fin) : ∀ e ∈ fin, e.2.isSound = true := by
  refine h.forall_mem (by simp) fun fin name d t hfin _ _ ht => ?_
  have hdecl := (s.declType_yields sound_buildable (fun path name => known_isSound hfin path name) d).of_gives ht
  exact hdecl.isSound

theorem ParamOf.isDeclarable {s : Scope} {fin : Finished} (hfin : ∀ e ∈ fin, e.2.isSound = true) {f : FieldDecl} {p : Param}
    (h : s.ParamOf fin f p) : p.type.isDeclarable = true := by
  obtain ⟨path, hp⟩ := h.type
  have hflat := (declarableAt_yields sound_buildable (fun path name => known_isSound hfin path name) path f.type).of_gives hp
  exact WireType.isDeclarable_of_isSound hflat.1 hflat.2

end Scope

namespace Resolution

variable {doc : Document} {fin : Finished} {p : Package}

theorem types_declarable (h : Resolution doc fin p) : ∀ t ∈ p.types, t.isDeclarable = true := by
  intro t ht
  have hnamed := ((p.validate_eq_ok_iff {}).mp h.valid).types t ht
  rw [h.package] at ht
  obtain ⟨name, d, hmem, -, -⟩ := Document.mem_declared.mp ht
  have hsound := h.steps.isSound (name, t) hmem
  cases t <;> simp_all [WireType.isNamedType, WireType.isSound, WireType.arrayShape]

theorem params_declarable (h : Resolution doc fin p) :
    ∀ i ∈ p.interfaces, ∀ m ∈ i.methods, ∀ q ∈ m.args ++ m.results, q.type.isDeclarable = true := by
  intro i hi m hm q hq
  obtain ⟨f, hf⟩ := h.exists_paramOf hi hm hq
  exact hf.isDeclarable h.steps.isSound

end Resolution

end Schema

end Parcelgen

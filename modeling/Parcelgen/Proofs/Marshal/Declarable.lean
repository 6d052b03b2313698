import Parcelgen.Declaration
import Parcelgen.Proofs.Package.Validate
import Parcelgen.Proofs.Marshal.Transfer

/-!
Types that everything can be generated for: no part is missing, scalars are known, enums have integer storage, and no array stands
directly inside an array or a vector. Such a type has a spelling, a size, a definition and a transfer that does not fail.
-/

namespace Parcelgen

/-- Generated code can leave a loop this way. -/
def Unwind.leavesLoops : Unwind → Bool
  | .ignore | .goto | .return => true
  | .exit | .unknown => false

theorem Unwind.fault?_of_leavesLoops {mode : Unwind} (h : mode.leavesLoops = true) : mode.fault? = none := by
  cases mode <;> simp_all [leavesLoops, fault?]

namespace WireType

def isArray : WireType → Bool
  | .array _ _ => true
  | _ => false

theorem isArray_eq_false_iff {t : WireType} : t.isArray = false ↔ t.kind? ≠ some .array := by
  cases t <;> simp [isArray, kind?]

mutual

def isDeclarable : WireType → Bool
  | .absent => false
  | .scalar s => s.isKnown
  | .string | .interface _ => true
  | .vector elem | .array elem _ => elem.isDeclarable && !elem.isArray
  | .struct _ fields => allDeclarable fields
  | .enum _ storage _ => storage.isInteger

def allDeclarable : List (String × WireType) → Bool
  | [] => true
  | (_, t) :: rest => t.isDeclarable && allDeclarable rest

end

theorem allDeclarable_iff {fields : List (String × WireType)} :
    allDeclarable fields = true ↔ ∀ f ∈ fields, f.2.isDeclarable = true := by
  induction fields with
  | nil => simp [allDeclarable]
  | cons f rest ih => simp [allDeclarable, ih]

theorem declarable_vector {elem : WireType} :
    (WireType.vector elem).isDeclarable = true ↔ elem.isDeclarable = true ∧ elem.isArray = false := by simp [isDeclarable]

theorem declarable_array {elem : WireType} {dim : String} :
    (WireType.array elem dim).isDeclarable = true ↔ elem.isDeclarable = true ∧ elem.isArray = false := by simp [isDeclarable]

theorem isAbsent_of_declarable {t : WireType} (h : t.isDeclarable = true) : t.isAbsent = false := by
  cases t <;> simp_all [isDeclarable, isAbsent]

/-- A declarable type has a spelling in every mode, with a suffix for arrays only. -/
theorem spell_of_declarable (d : Dialect) (mode : StorageMode) (hmode : mode ≠ .unknown) :
    ∀ {t : WireType}, t.isDeclarable = true → ∃ s, t.spell d mode = .ok s ∧ (t.isArray = false → s.suffix = "")
  | .absent, h => by simp [isDeclarable] at h
  | .scalar k, h => by
    have hk : k.isKnown = true := by simpa [isDeclarable] using h
    cases mode <;> simp_all [spell, byValue]
  | .enum _ _ _, _ => by cases mode <;> simp_all [spell, byValue]
  | .string, _ | .struct _ _, _ => by cases mode <;> simp_all [spell, byReference]
  | .interface _, _ => by cases mode <;> simp_all [spell, byHandle]
  | .vector elem, h => by
    obtain ⟨he, ha⟩ := declarable_vector.mp h
    obtain ⟨s, hs, hsuffix⟩ := spell_of_declarable d .stack (by simp) he
    simp only [spell, isAbsent_of_declarable he, hs, hsuffix ha, bind, Except.bind, Bool.false_eq_true, if_false, bne_self_eq_false]
    cases mode <;> simp_all [byReference]
  | .array elem dim, h => by
    obtain ⟨he, ha⟩ := declarable_array.mp h
    obtain ⟨s, hs, hsuffix⟩ := spell_of_declarable d .stack (by simp) he
    simp only [spell, isAbsent_of_declarable he, hs, hsuffix ha, bind, Except.bind, Bool.false_eq_true, if_false, bne_self_eq_false,
      isArray, Bool.true_eq_false, false_implies, and_true]
    cases mode <;> simp_all [byElement]

mutual

theorem missing?_of_declarable : ∀ {t : WireType}, t.isDeclarable = true → t.missing? = none
  | .vector elem, h => by
    obtain ⟨he, -⟩ := declarable_vector.mp h
    simp [missing?, isAbsent_of_declarable he, missing?_of_declarable he]
  | .array elem _, h => by
    obtain ⟨he, -⟩ := declarable_array.mp h
    simp [missing?, isAbsent_of_declarable he, missing?_of_declarable he]
  | .struct name fields, h => by
    simp only [missing?]
    exact missingMember?_of_declarable name (by simpa [isDeclarable] using h)
  | .absent, _ | .scalar _, _ | .string, _ | .enum _ _ _, _ | .interface _, _ => by simp [missing?]

theorem missingMember?_of_declarable (name : String) : ∀ {fields : List (String × WireType)}, allDeclarable fields = true →
    missingMember? name fields = none
  | [], _ => rfl
  | (field, t) :: rest, h => by
    obtain ⟨ht, hrest⟩ : t.isDeclarable = true ∧ allDeclarable rest = true := by simpa [allDeclarable] using h
    simp [missingMember?, isAbsent_of_declarable ht, missing?_of_declarable ht, missingMember?_of_declarable name hrest]

end

theorem arrayShape_of_not_array {t : WireType} (h : t.isArray = false) : t.arrayShape = (t, []) := by
  cases t <;> simp_all [isArray, arrayShape]

theorem byteSize_of_declarable (d : Dialect) {t : WireType} (h : t.isDeclarable = true) : ∃ size, t.byteSize d = .ok size := by
  have hbase : t.arrayShape.1.isDeclarable = true := by
    cases ha : t.isArray with
    | false => rwa [arrayShape_of_not_array ha]
    | true =>
      cases t <;> simp_all [isArray]
      rename_i elem dim
      obtain ⟨he, hn⟩ := declarable_vector.mp h
      simpa [arrayShape, arrayShape_of_not_array hn] using he
  obtain ⟨s, hs, -⟩ := spell_of_declarable d .stack (by simp) hbase
  simp [byteSize, isAbsent_of_declarable hbase, hs, bind, Except.bind, pure, Except.pure]

theorem elementFault?_of_declarable {d : Dialect} {mode : Unwind} (hm : mode.leavesLoops = true) {whole elem : WireType}
    (h : elem.isDeclarable = true) (body : Option Error) : elementFault? d mode whole elem body = body := by
  obtain ⟨size, hs⟩ := byteSize_of_declarable d h
  have hexit : mode ≠ .exit := by
    rintro rfl
    cases hm
  simp [elementFault?, hs, hexit]

mutual

theorem walkFault?_of_declarable (d : Dialect) {mode : Unwind} (hm : mode.leavesLoops = true) : ∀ {t : WireType},
    t.isDeclarable = true → t.walkFault? d mode = none
  | .string, _ | .interface _, _ => by simp [walkFault?, Unwind.fault?_of_leavesLoops hm]
  | .struct name fields, h => by
    simp only [walkFault?]
    exact memberFault?_of_declarable d hm name (by simpa [isDeclarable] using h)
  | .array elem dim, h => by
    obtain ⟨he, -⟩ := declarable_array.mp h
    simp [walkFault?, elementFault?_of_declarable hm he, walkFault?_of_declarable d hm he]
  | .vector elem, h => by
    obtain ⟨he, -⟩ := declarable_vector.mp h
    obtain ⟨s, hs, -⟩ := spell_of_declarable d .stack (by simp) h
    simp [walkFault?, hs, Unwind.fault?_of_leavesLoops hm, elementFault?_of_declarable hm he, walkFault?_of_declarable d hm he]
  | .absent, _ | .scalar _, _ | .enum _ _ _, _ => by simp [walkFault?]

theorem memberFault?_of_declarable (d : Dialect) {mode : Unwind} (hm : mode.leavesLoops = true) (name : String) :
    ∀ {fields : List (String × WireType)}, allDeclarable fields = true → memberFault? d mode name fields = none
  | [], _ => rfl
  | (field, t) :: rest, h => by
    obtain ⟨ht, hrest⟩ : t.isDeclarable = true ∧ allDeclarable rest = true := by simpa [allDeclarable] using h
    simp [memberFault?, walkFault?_of_declarable d hm ht, memberFault?_of_declarable d hm name hrest]

end

theorem isKnown_of_isInteger {s : Scalar} (h : s.isInteger = true) : s.isKnown = true := by
  cases s <;> simp_all [Scalar.isInteger, Scalar.isKnown]

theorem transferFault?_of_declarable (d : Dialect) {mode : Unwind} (hm : mode.leavesLoops = true) {t : WireType}
    (h : t.isDeclarable = true) : t.transferFault? d mode = none := by
  have hwalk := walkFault?_of_declarable d hm h
  have hfault := Unwind.fault?_of_leavesLoops hm
  obtain ⟨s, hs, -⟩ := spell_of_declarable d .stack (by simp) h
  unfold transferFault?
  rw [missing?_of_declarable h]
  cases t with
  | absent => simp [isDeclarable] at h
  | scalar k => simpa [isDeclarable, scalarFault?, hfault] using h
  | enum name storage values =>
    have hi : storage.isInteger = true := by simpa [isDeclarable] using h
    simp [hi, scalarFault?, isKnown_of_isInteger hi, hfault]
  | interface name => simpa using hfault
  | string => simp [hs, hfault, hwalk]
  | vector elem => simp [hs, hfault, hwalk]
  | struct name fields => simp [hs, hfault, hwalk]
  | array elem dim =>
    obtain ⟨he, hn⟩ := declarable_array.mp h
    obtain ⟨e, hes, hsuffix⟩ := spell_of_declarable d .stack (by simp) he
    simp [hes, hsuffix hn, hfault, hwalk]

theorem memberLines_failures_of_declarable (d : Dialect) (name : String) {fields : List (String × WireType)}
    (h : ∀ f ∈ fields, f.2.isDeclarable = true) : Layout.failures (memberLines d name fields) = none := by
  induction fields with
  | nil => rfl
  | cons f rest ih =>
    obtain ⟨ht, hrest⟩ := List.forall_mem_cons.mp h
    obtain ⟨s, hs, -⟩ := spell_of_declarable d .stack (by simp) ht
    simp [memberLines, declarator, hs, bind, Except.bind, pure, Except.pure, Layout.failures, Layout.failure?, ih hrest]

theorem declaration_failures_of_declarable (d : Dialect) {t : WireType} (h : t.isDeclarable = true) (hn : t.isNamedType = true) :
    Layout.failures (t.declaration d) = none := by
  cases t with
  | struct name fields =>
    have hfields : ∀ f ∈ fields, f.2.isDeclarable = true := allDeclarable_iff.mp (by simpa [isDeclarable] using h)
    simp [declaration, missing?_of_declarable h, Layout.failures, Layout.failure?, memberLines_failures_of_declarable d name hfields]
  | enum name storage values =>
    have hi : storage.isInteger = true := by simpa [isDeclarable] using h
    have hlines : Layout.failures (values.map enumeratorLine) = none := by
      rw [Layout.failures_eq_none_iff]
      intro l hl
      obtain ⟨v, -, rfl⟩ := List.mem_map.mp hl
      rfl
    simp [declaration, hi, Layout.failures, Layout.failure?, hlines]
  | absent | scalar _ | string | vector _ | array _ _ | interface _ => simp [isNamedType] at hn

end WireType

end Parcelgen

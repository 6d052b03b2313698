import Parcelgen.Package.Validate

/-!
The shape of a valid package, in words of its own: `validate` accepts exactly the packages that have it (`validate_eq_ok_iff`). The dialect
matters for the names of parameters only.
-/

namespace Parcelgen

/-- The name starts with the lead, which is not empty. -/
def Dialect.reserves (lead name : String) : Prop := lead ≠ "" ∧ lead.toList <+: name.toList

/-- What a parameter needs on its own. -/
structure Param.Fits (lead : String) (p : Param) : Prop where
  named : p.name ≠ ""
  typed : p.type.isAbsent = false
  free : ¬ Dialect.reserves lead p.name

structure Method.Fits (lead : String) (m : Method) : Prop where
  named : m.name ≠ ""
  oneway : m.oneway = true → m.results = []
  params : ∀ p ∈ m.args ++ m.results, p.Fits lead
  distinct : ((m.args ++ m.results).map (·.name)).Nodup

structure Interface.Fits (lead : String) (i : Interface) : Prop where
  named : i.name ≠ ""
  methods : ∀ m ∈ i.methods, m.Fits lead
  distinct : (i.methods.map (·.name)).Nodup

/-- A type that can stand in the list of a package. -/
def WireType.isNamedType : WireType → Bool
  | .struct _ _ | .enum _ _ _ => true
  | _ => false

structure Package.Fits (lead : String) (p : Package) : Prop where
  named : p.name ≠ ""
  types : ∀ t ∈ p.types, t.isNamedType = true
  interfaces : ∀ i ∈ p.interfaces, i.Fits lead
  distinct : (p.types.map (·.localName) ++ p.interfaces.map (·.name)).Nodup

namespace Package

/-- The names are different from each other and from those seen before. -/
def Unseen (seen names : List String) : Prop := names.Nodup ∧ ∀ n ∈ names, n ∉ seen

theorem unseen_nil (seen : List String) : Unseen seen [] := ⟨List.nodup_nil, by simp⟩

theorem unseen_cons {seen names : List String} {n : String} :
    Unseen seen (n :: names) ↔ n ∉ seen ∧ Unseen (n :: seen) names := by
  unfold Unseen
  rw [List.nodup_cons, List.forall_mem_cons]
  constructor
  · rintro ⟨⟨hn, hnodup⟩, hseen, hnames⟩
    refine ⟨hseen, hnodup, fun m hm hmem => ?_⟩
    rcases List.mem_cons.mp hmem with rfl | hmem
    · exact hn hm
    · exact hnames m hm hmem
  · rintro ⟨hseen, hnodup, hnames⟩
    exact ⟨⟨fun hn => hnames n hn List.mem_cons_self, hnodup⟩, hseen, fun m hm hmem => hnames m hm (List.mem_cons_of_mem n hmem)⟩

theorem unseen_append {seen names more : List String} :
    Unseen seen (names ++ more) ↔ Unseen seen names ∧ Unseen (names.reverse ++ seen) more := by
  induction names generalizing seen with
  | nil => simp [unseen_nil]
  | cons n names ih => simp [unseen_cons, ih, and_assoc]

theorem unseen_nil_iff {names : List String} : Unseen [] names ↔ names.Nodup := by simp [Unseen]

theorem validateTypes_eq_ok_iff (pkg : String) (seen : List String) (ts : List WireType) (all : List String) :
    validateTypes pkg seen ts = .ok all ↔
      (∀ t ∈ ts, t.isNamedType = true) ∧ Unseen seen (ts.map (·.localName)) ∧ all = (ts.map (·.localName)).reverse ++ seen := by
  induction ts generalizing seen with
  | nil =>
    simp only [validateTypes, List.map_nil, List.reverse_nil, List.nil_append, unseen_nil, Except.ok.injEq, true_and, List.not_mem_nil,
      false_implies, implies_true]
    exact eq_comm
  | cons t ts ih =>
    rw [List.map_cons, unseen_cons, List.forall_mem_cons]
    cases hn : t.isNamedType with
    | false =>
      have hstep : ∃ f, validateTypes pkg seen (t :: ts) = .error f := by
        cases t <;> simp_all [WireType.isNamedType, validateTypes]
      obtain ⟨f, hf⟩ := hstep
      simp [hf]
    | true =>
      have hstep : validateTypes pkg seen (t :: ts) =
          if seen.contains t.localName then .error (.duplicate .generate [pkg] "type" t.localName)
          else validateTypes pkg (t.localName :: seen) ts := by
        cases t <;> simp_all [WireType.isNamedType, validateTypes]
      rw [hstep]
      by_cases hs : t.localName ∈ seen
      · simp [hs]
      · simp [hs, ih]

theorem param_fits_iff (lead : String) (p : Param) :
    p.Fits lead ↔ p.name ≠ "" ∧ p.type.isAbsent = false ∧ (lead ≠ "" → ¬ lead.toList <+: p.name.toList) :=
  ⟨fun h => ⟨h.named, h.typed, fun hlead hstart => h.free ⟨hlead, hstart⟩⟩, fun h => ⟨h.1, h.2.1, fun hfree => h.2.2 hfree.1 hfree.2⟩⟩

theorem validateParams_eq_ok_iff (path : List String) (lead : String) (seen : List String) (ps : List Param) :
    validateParams path lead seen ps = .ok () ↔ (∀ p ∈ ps, p.Fits lead) ∧ Unseen seen (ps.map (·.name)) := by
  induction ps generalizing seen with
  | nil => simp [validateParams, unseen_nil]
  | cons p ps ih =>
    have hfits : p.Fits lead ↔ ¬ (p.name = "" ∨ p.type.isAbsent = true) ∧ ¬ (lead ≠ "" ∧ lead.toList <+: p.name.toList) := by
      rw [param_fits_iff, not_or, Bool.not_eq_true, not_and, and_assoc]
    rw [List.map_cons, unseen_cons, List.forall_mem_cons, hfits]
    unfold validateParams
    simp only [Bool.or_eq_true, beq_iff_eq, Bool.and_eq_true, bne_iff_ne, List.isPrefixOf_iff_prefix, List.contains_iff_mem]
    split
    · rename_i h
      simp [h]
    · rename_i hnt
      split
      · rename_i hr
        simp [hr]
      · rename_i hr
        by_cases hs : p.name ∈ seen
        · simp [hs]
        · simp only [hs, if_false, ih, not_false_eq_true, hnt, hr, true_and]

theorem method_fits_iff (path : List String) (lead : String) (m : Method) :
    m.Fits lead ↔ m.name ≠ "" ∧ (m.oneway = true → m.results = []) ∧ validateParams path lead [] (m.args ++ m.results) = .ok () := by
  rw [validateParams_eq_ok_iff, unseen_nil_iff]
  exact ⟨fun h => ⟨h.named, h.oneway, h.params, h.distinct⟩, fun h => ⟨h.1, h.2.1, h.2.2.1, h.2.2.2⟩⟩

theorem validateMethods_eq_ok_iff (path : List String) (lead : String) (seen : List String) (ms : List Method) :
    validateMethods path lead seen ms = .ok () ↔ (∀ m ∈ ms, m.Fits lead) ∧ Unseen seen (ms.map (·.name)) := by
  induction ms generalizing seen with
  | nil => simp [validateMethods, unseen_nil]
  | cons m ms ih =>
    rw [List.map_cons, unseen_cons, List.forall_mem_cons, method_fits_iff (path ++ [m.name])]
    unfold validateMethods
    simp only [beq_iff_eq, List.contains_iff_mem, Bool.and_eq_true, Bool.not_eq_true', List.isEmpty_eq_false_iff]
    by_cases hn : m.name = ""
    · simp [hn]
    by_cases hs : m.name ∈ seen
    · simp [hn, hs]
    by_cases ho : m.oneway = true ∧ m.results ≠ []
    · simp [hn, hs, ho]
    have honeway : m.oneway = true → m.results = [] := fun h => Classical.byContradiction fun hr => ho ⟨h, hr⟩
    simp only [hn, hs, ho, if_false, ne_eq, not_false_eq_true, true_and]
    cases hp : validateParams (path ++ [m.name]) lead [] (m.args ++ m.results) with
    | error f => simp [bind, Except.bind]
    | ok u =>
      simp only [bind, Except.bind, ih, and_true, and_assoc]
      exact (and_iff_right honeway).symm

theorem interface_fits_iff (path : List String) (lead : String) (i : Interface) :
    i.Fits lead ↔ i.name ≠ "" ∧ validateMethods path lead [] i.methods = .ok () := by
  rw [validateMethods_eq_ok_iff, unseen_nil_iff]
  exact ⟨fun h => ⟨h.named, h.methods, h.distinct⟩, fun h => ⟨h.1, h.2.1, h.2.2⟩⟩

theorem validateInterfaces_eq_ok_iff (pkg lead : String) (seen : List String) (is : List Interface) :
    validateInterfaces pkg lead seen is = .ok () ↔ (∀ i ∈ is, i.Fits lead) ∧ Unseen seen (is.map (·.name)) := by
  induction is generalizing seen with
  | nil => simp [validateInterfaces, unseen_nil]
  | cons i is ih =>
    rw [List.map_cons, unseen_cons, List.forall_mem_cons, interface_fits_iff [pkg, i.name]]
    unfold validateInterfaces
    simp only [beq_iff_eq, List.contains_iff_mem]
    by_cases hn : i.name = ""
    · simp [hn, throw, throwThe, MonadExceptOf.throw, bind, Except.bind]
    cases hm : validateMethods [pkg, i.name] lead [] i.methods with
    | error f => simp [hn, bind, Except.bind]
    | ok u =>
      by_cases hs : i.name ∈ seen
      · simp [hn, hs, throw, throwThe, MonadExceptOf.throw, bind, Except.bind]
      · simp [hn, hs, ih, bind, Except.bind]

/-- Validation accepts exactly the packages of the right shape. -/
theorem validate_eq_ok_iff (d : Dialect) (p : Package) : p.validate d = .ok () ↔ p.Fits d.lead := by
  have hfits : p.Fits d.lead ↔ p.name ≠ "" ∧ (∀ t ∈ p.types, t.isNamedType = true) ∧ Unseen [] (p.types.map (·.localName)) ∧
      (∀ i ∈ p.interfaces, i.Fits d.lead) ∧ Unseen (p.types.map (·.localName)).reverse (p.interfaces.map (·.name)) := by
    have hdistinct := @unseen_append [] (p.types.map (·.localName)) (p.interfaces.map (·.name))
    rw [unseen_nil_iff, List.append_nil] at hdistinct
    constructor
    · rintro ⟨hn, ht, hi, hd⟩
      exact ⟨hn, ht, (hdistinct.mp hd).1, hi, (hdistinct.mp hd).2⟩
    · rintro ⟨hn, ht, hl, hi, hm⟩
      exact ⟨hn, ht, hi, hdistinct.mpr ⟨hl, hm⟩⟩
  rw [hfits]
  unfold validate
  simp only [beq_iff_eq]
  by_cases hn : p.name = ""
  · simp [hn, throw, throwThe, MonadExceptOf.throw, bind, Except.bind]
  have htypes := validateTypes_eq_ok_iff p.name [] p.types
  cases hv : validateTypes p.name [] p.types with
  | error f =>
    have hnone : ¬ ((∀ t ∈ p.types, t.isNamedType = true) ∧ Unseen [] (p.types.map (·.localName))) := by
      intro h
      have hok := (htypes _).mpr ⟨h.1, h.2, rfl⟩
      rw [hv] at hok
      cases hok
    simp only [hn, if_false, bind, Except.bind, reduceCtorEq, false_iff]
    exact fun h => hnone ⟨h.2.1, h.2.2.1⟩
  | ok seen =>
    obtain ⟨ht, hl, rfl⟩ := (htypes seen).mp hv
    simp only [hn, if_false, bind, Except.bind, validateInterfaces_eq_ok_iff, List.append_nil]
    exact ⟨fun h => ⟨hn, ht, hl, h⟩, fun h => h.2.2.2⟩

/-- A package that has the right shape but for its name is refused over the name. -/
theorem validate_eq_error_of_unnamed {d : Dialect} {p : Package} (hfits : p.name ≠ "" → p.Fits d.lead) {f : Fault}
    (h : p.validate d = .error f) : f = .invalidInput .generate [] "package name is empty" := by
  by_cases hn : p.name = ""
  · have hthrow : p.validate d = .error (.invalidInput .generate [] "package name is empty") := by
      unfold validate
      rw [hn]
      rfl
    rw [hthrow] at h
    cases h
    rfl
  · rw [(validate_eq_ok_iff d p).mpr (hfits hn)] at h
    cases h

theorem isNamedType_iff (t : WireType) :
    t.isNamedType = true ↔ t.isAbsent = false ∧ (t.kind? = some .struct ∨ t.kind? = some .enum) := by
  cases t <;> simp [WireType.isNamedType, WireType.isAbsent, WireType.kind?]

/-- A package is accepted exactly when it has a name, its types are structs and enums, the names of types and interfaces are distinct, and every
interface and method has a name, distinct methods, no results where nobody waits for them, and parameters that are named, typed, distinct across
arguments and results and clear of the lead. -/
theorem validate_accepts_exactly (d : Dialect) (p : Package) :
    p.validate d = .ok () ↔
      p.name ≠ "" ∧
      (∀ t ∈ p.types, t.isAbsent = false ∧ (t.kind? = some .struct ∨ t.kind? = some .enum)) ∧
      (p.types.map (·.localName) ++ p.interfaces.map (·.name)).Nodup ∧
      ∀ i ∈ p.interfaces, i.name ≠ "" ∧ (i.methods.map (·.name)).Nodup ∧
        ∀ m ∈ i.methods, m.name ≠ "" ∧ (m.oneway = true → m.results = []) ∧
          ((m.args ++ m.results).map (·.name)).Nodup ∧
          ∀ q ∈ m.args ++ m.results, q.name ≠ "" ∧ q.type.isAbsent = false ∧ (d.lead ≠ "" → ¬ d.lead.toList <+: q.name.toList) := by
  rw [validate_eq_ok_iff]
  simp only [← isNamedType_iff, ← param_fits_iff]
  constructor
  · intro h
    refine ⟨h.named, h.types, h.distinct, fun i hi => ⟨(h.interfaces i hi).named, (h.interfaces i hi).distinct, fun m hm => ?_⟩⟩
    have hm := (h.interfaces i hi).methods m hm
    exact ⟨hm.named, hm.oneway, hm.distinct, hm.params⟩
  · rintro ⟨hnamed, htypes, hdistinct, hinterfaces⟩
    refine ⟨hnamed, htypes, fun i hi => ?_, hdistinct⟩
    obtain ⟨hi, hmethods, hfits⟩ := hinterfaces i hi
    refine ⟨hi, fun m hm => ?_, hmethods⟩
    obtain ⟨hm, honeway, hparams, hfree⟩ := hfits m hm
    exact ⟨hm, honeway, hfree, hparams⟩

end Package

end Parcelgen

import Mathlib.Data.Set.Function
import Parcelgen.Proofs.Generator.Namespace
import Parcelgen.Proofs.Wit.Closed
import Parcelgen.Proofs.Wit.Label

/-!
Names of types. In Pascal case a label in small letters can be read back: each capital starts a word (`pascalCase_injective`). So types whose
definitions have different names of this kind do not clash in the package. Conversion itself has no fault for a clash (`convertAll_clashless`);
only the check of the finished package has.
-/

namespace Parcelgen.Wit

/-! Pascal case -/

theorem words_single {c : Char} (hc : isJoint c = false) : words [c] = [[c]] := by simp [words, hc]

theorem words_border {c j : Char} {cs : List Char} (hc : isJoint c = false) (hj : isJoint j = true) :
    words (c :: j :: cs) = [c] :: words (j :: cs) := by
  rw [words.eq_def]
  cases hwords : words (j :: cs) <;> simp [hc, hj, hwords]

theorem words_grow {c d : Char} {cs word : List Char} {more : List (List Char)} (hc : isJoint c = false) (hd : isJoint d = false)
    (h : words (d :: cs) = word :: more) : words (c :: d :: cs) = (c :: word) :: more := by
  rw [words.eq_def]
  simp [hc, hd, h]

/-- A word ends at the next joint. -/
theorem words_append {w rest : List Char} (hne : w ≠ []) (hw : ∀ c ∈ w, isJoint c = false) (hrest : ∀ c ∈ rest.head?, isJoint c = true) :
    words (w ++ rest) = w :: words rest := by
  induction w with
  | nil => exact absurd rfl hne
  | cons c w ih =>
    obtain ⟨hc, hw⟩ := List.forall_mem_cons.mp hw
    cases w with
    | nil =>
      cases rest with
      | nil => exact words_single hc
      | cons j rest => exact words_border hc (hrest j rfl)
    | cons d w => exact words_grow hc (hw d List.mem_cons_self) (ih (List.cons_ne_nil d w) hw)

theorem isJoint_of_isAlphanum {c : Char} (h : c.isAlphanum = true) : isJoint c = false := by
  rw [isJoint, Bool.or_eq_false_iff, beq_eq_false_iff_ne, beq_eq_false_iff_ne]
  constructor <;> rintro rfl <;> cases h

/-- What a character of a word in small letters is and is not. -/
theorem isAlphanum_of_mem {w : List Char} (h : isWordOf Char.isLower w = true) : ∀ c ∈ w, c.isAlphanum = true ∧ c.isUpper = false := by
  intro c hc
  have hcases := mem_of_isWordOf h c hc
  have halnum : c.isAlphanum = true := by
    refine Bool.or_eq_true_iff.mpr ((Bool.or_eq_true_iff.mp hcases).imp_left fun hlower => ?_)
    exact Bool.or_eq_true_iff.mpr (.inr hlower)
  exact ⟨halnum, (ascii_classes (Bool.or_eq_true_iff.mpr (.inl halnum))).1 hcases⟩

theorem toUpper_of_isLower {c : Char} (h : c.isLower = true) : (Text.toUpper c).isUpper = true ∧ Text.toLower (Text.toUpper c) = c := by
  have hlabel : inLabel c = true := Bool.or_eq_true_iff.mpr (.inl (Bool.or_eq_true_iff.mpr (.inl (Bool.or_eq_true_iff.mpr (.inr h)))))
  refine forall_ascii (P := fun c => c.isLower = true → (Text.toUpper c).isUpper = true ∧ Text.toLower (Text.toUpper c) = c) ?_
    (ascii_of_inLabel hlabel) h
  decide +kernel

/-- Small letters and digits in front of a capital or the end are found again. -/
theorem takeWhile_append_capital {cs rest : List Char} (hcs : ∀ c ∈ cs, c.isUpper = false) (hrest : ∀ c ∈ rest.head?, c.isUpper = true) :
    (cs ++ rest).takeWhile (!·.isUpper) = cs ∧ (cs ++ rest).dropWhile (!·.isUpper) = rest := by
  have hpos : ∀ c ∈ cs, (!c.isUpper) = true := fun c hc => by simp [hcs c hc]
  rw [List.takeWhile_append_of_pos hpos, List.dropWhile_append_of_pos hpos]
  cases rest with
  | nil => simp
  | cons c rest => simp [hrest c rfl]

theorem head_capitalised {ws : List (List Char)} (h : ∀ w ∈ ws, isWordOf Char.isLower w = true) :
    ∀ c ∈ (ws.flatMap capitalised).head?, c.isUpper = true := by
  cases ws with
  | nil => simp
  | cons w ws =>
    obtain ⟨c, cs, rfl, hc⟩ := exists_of_isWordOf (h w List.mem_cons_self)
    simpa [capitalised] using (toUpper_of_isLower hc).1

/-- Capitals tell where the words of small letters start. -/
theorem flatMap_capitalised_inj {ws vs : List (List Char)} (hws : ∀ w ∈ ws, isWordOf Char.isLower w = true)
    (hvs : ∀ v ∈ vs, isWordOf Char.isLower v = true) (h : ws.flatMap capitalised = vs.flatMap capitalised) : ws = vs := by
  induction ws generalizing vs with
  | nil =>
    cases vs with
    | nil => rfl
    | cons v vs =>
      obtain ⟨d, ds, rfl, -⟩ := exists_of_isWordOf (hvs v List.mem_cons_self)
      simp [capitalised] at h
  | cons w ws ih =>
    obtain ⟨hw, hwords⟩ := List.forall_mem_cons.mp hws
    obtain ⟨c, cs, rfl, hc⟩ := exists_of_isWordOf hw
    cases vs with
    | nil => simp [capitalised] at h
    | cons v vs =>
      obtain ⟨hv, hothers⟩ := List.forall_mem_cons.mp hvs
      obtain ⟨d, ds, rfl, hd⟩ := exists_of_isWordOf hv
      simp only [List.flatMap_cons, capitalised, List.cons_append, List.cons.injEq] at h
      obtain ⟨hhead, htail⟩ := h
      have hcd : c = d := by rw [← (toUpper_of_isLower hc).2, hhead, (toUpper_of_isLower hd).2]
      have hcs := takeWhile_append_capital (fun b hb => (isAlphanum_of_mem hw b (List.mem_cons_of_mem c hb)).2) (head_capitalised hwords)
      have hds := takeWhile_append_capital (fun b hb => (isAlphanum_of_mem hv b (List.mem_cons_of_mem d hb)).2) (head_capitalised hothers)
      rw [htail] at hcs
      rw [hcd, ← hcs.1, hds.1, ih hwords hothers (hcs.2.symm.trans hds.2)]

/-- A label in small letters is its words with dashes between them. -/
theorem words_of_isLowerLabel {s : String} (h : isLowerLabel s = true) :
    (∀ w ∈ words s.toList, isWordOf Char.isLower w = true) ∧ words s.toList ≠ [] ∧ ['-'].intercalate (words s.toList) = s.toList := by
  have hword : ∀ w rest, isWordOf Char.isLower w = true → (∀ c ∈ rest.head?, isJoint c = true) → words (w ++ rest) = w :: words rest := by
    intro w rest hw hrest
    obtain ⟨c, cs, rfl, -⟩ := exists_of_isWordOf hw
    exact words_append (List.cons_ne_nil c cs) (fun d hd => isJoint_of_isAlphanum (isAlphanum_of_mem hw d hd).1) hrest
  refine label_induction (motive := fun cs => (∀ w ∈ words cs, isWordOf Char.isLower w = true) ∧ words cs ≠ [] ∧
    ['-'].intercalate (words cs) = cs) (fun w hw => ?_) (fun w cs hw hcs => ?_) h
  · have hwords : words w = [w] := by simpa [words] using hword w [] hw (by simp)
    simp [hwords, hw]
  · have hjoint : words ('-' :: cs) = words cs := by simp [words, isJoint]
    have hwords : words (w ++ '-' :: cs) = w :: words cs := by rw [hword w _ hw (by simp [isJoint]), hjoint]
    obtain ⟨hall, hne, hjoin⟩ := hcs
    refine ⟨?_, ?_, ?_⟩
    · rw [hwords]
      exact List.forall_mem_cons.mpr ⟨hw, hall⟩
    · simp [hwords]
    · obtain ⟨v, vs, hvs⟩ := List.exists_cons_of_ne_nil hne
      rw [hwords, hvs, List.intercalate_cons_cons, ← hvs, hjoin]
      simp

theorem pascalCase_injective {a b : String} (ha : isLowerLabel a = true) (hb : isLowerLabel b = true) (h : pascalCase a = pascalCase b) :
    a = b := by
  obtain ⟨hwords, -, hjoin⟩ := words_of_isLowerLabel ha
  obtain ⟨hothers, -, hjoin'⟩ := words_of_isLowerLabel hb
  have hchars : (words a.toList).flatMap capitalised = (words b.toList).flatMap capitalised := by
    simpa [pascalCase] using congrArg String.toList h
  rw [← String.toList_inj, ← hjoin, ← hjoin', flatMap_capitalised_inj hwords hothers hchars]

theorem colon_notMem_pascalCase {s : String} (h : isLowerLabel s = true) : ':' ∉ (pascalCase s).toList := by
  rw [pascalCase, String.toList_ofList]
  intro hmem
  obtain ⟨w, hw, hcolon⟩ := List.mem_flatMap.mp hmem
  have hword := (words_of_isLowerLabel h).1 w hw
  obtain ⟨c, cs, rfl, hc⟩ := exists_of_isWordOf hword
  rcases List.mem_cons.mp hcolon with heq | hcs
  · have hupper := (toUpper_of_isLower hc).1
    rw [← heq] at hupper
    cases hupper
  · cases (isAlphanum_of_mem hword ':' (List.mem_cons_of_mem c hcs)).1

/-! Faults of the conversion -/

/-- No fault of the computation is one for a name that is there twice. -/
def Clashless {α : Type} (x : Converting α) : Prop := ∀ c f last, x.run c = (.error f, last) → f.kind ≠ .duplicate

namespace Clashless

variable {α β : Type}

theorem pure (a : α) : Clashless (Pure.pure a) := by
  intro c f last h
  cases h

theorem throw {f : Fault} (hf : f.kind ≠ .duplicate) : Clashless (MonadExcept.throw f : Converting α) := by
  intro c g last h
  cases h
  exact hf

theorem bind {x : Converting α} {k : α → Converting β} (hx : Clashless x) (hk : ∀ a, Clashless (k a)) : Clashless (x >>= k) := by
  intro c f last h
  rcases hrun : x.run c with ⟨result, mid⟩
  cases result with
  | error g =>
    rw [Converting.run_bind_of_error hrun] at h
    cases h
    exact hx c f last hrun
  | ok a =>
    rw [Converting.run_bind_of_ok hrun] at h
    exact hk a mid f last h

theorem within {x : Converting α} (hx : Clashless x) (path : List String) :
    Clashless (tryCatch x fun f => MonadExcept.throw (f.within path)) := by
  intro c f last h
  rcases hrun : x.run c with ⟨result, mid⟩
  cases result with
  | error g =>
    rw [Converting.run_rethrow_of_error hrun] at h
    cases h
    exact hx c g last hrun
  | ok a =>
    rw [Converting.run_rethrow_of_ok hrun] at h
    cases h

/-- A check in front of a computation. -/
theorem guard {p : Prop} [Decidable p] {f : Fault} {k : PUnit → Converting α} (hf : f.kind ≠ .duplicate) (hk : Clashless (k ())) :
    Clashless (if p then MonadExcept.throw f >>= k else k ()) := by
  split
  · exact .bind (.throw hf) fun _ => hk
  · exact hk

theorem modify (change : Converter → Converter) : Clashless (modify change : Converting PUnit) := by
  intro c f last h
  cases h

theorem get : Clashless (MonadState.get : Converting Converter) := by
  intro c f last h
  cases h

end Clashless

theorem unsupportedDef_kind (name what : String) : (unsupportedDef name what).kind ≠ .duplicate := fun h => by cases h

theorem nameless_clashless {α : Type} (detail : String) : Clashless (nameless detail : Converting α) := .throw fun h => by cases h

theorem primitiveType_clashless (p : Primitive) : Clashless (primitiveType p) := by
  cases p with
  | errorContext => exact .throw fun h => by cases h
  | bool | s8 | u8 | s16 | u16 | s32 | u32 | s64 | u64 | f32 | f64 | char | string => exact .pure _

/-- A type is declared under its name whether or not the name is taken. -/
theorem declare_clashless (name : String) (make : String → WireType) :
    Clashless (do declare (make (← qualified name)) : Converting WireType) := by
  intro c f last h
  cases h

section

variable {convert : TypeRef → Converting WireType} (hconvert : ∀ ref, Clashless (convert ref))
include hconvert

theorem structMembers_clashless (owner : String) (fs : List (String × String × TypeRef)) :
    Clashless (structMembers convert owner fs) := by
  induction fs with
  | nil => exact .pure _
  | cons f rest ih => exact .bind (.within (hconvert _) _) fun t => .bind ih fun fields => .pure _

theorem listType_clashless (elem : TypeRef) : Clashless (listType convert elem) :=
  .bind (hconvert elem) fun _ => .guard (unsupportedDef_kind _ _) (.pure _)

theorem definedType_clashless (d : TypeDef) : Clashless (definedType convert d) := by
  unfold definedType
  split
  · exact .throw (unsupportedDef_kind _ _)
  · unfold recordType
    split
    · exact nameless_clashless _
    · exact .bind (structMembers_clashless hconvert _ _) fun fields => declare_clashless _ fun name => .struct name fields
  · unfold enumType
    split
    · exact nameless_clashless _
    · exact declare_clashless _ fun name => .enum name _ _
  · unfold flagsType
    dsimp only
    split
    · exact .throw (unsupportedDef_kind _ _)
    · split
      · exact .pure _
      · split
        · exact nameless_clashless _
        · exact declare_clashless _ fun name => .enum name _ _
  · unfold tupleType
    split
    · exact .throw (unsupportedDef_kind _ _)
    · exact .bind (structMembers_clashless hconvert _ _) fun fields => declare_clashless _ fun name => .struct name fields
  · exact listType_clashless hconvert _
  · unfold resourceType
    split
    · exact nameless_clashless _
    · exact .bind .get fun _ => .bind (.modify _) fun _ => .pure _
  · exact hconvert _
  · exact .throw (unsupportedDef_kind _ _)
  · exact .throw (unsupportedDef_kind _ _)
  · exact .throw (unsupportedDef_kind _ _)
  · exact .throw (unsupportedDef_kind _ _)
  · exact .throw (unsupportedDef_kind _ _)
  · exact hconvert _

end

namespace Resolve

theorem convertWithin_clashless (r : Resolve) (fuel : Nat) (pending : List Nat) (ref : TypeRef) :
    Clashless (r.convertWithin fuel pending ref) := by
  cases ref with
  | absent =>
    unfold convertWithin
    exact .throw fun h => by cases h
  | primitive p =>
    unfold convertWithin
    exact primitiveType_clashless p
  | defined id =>
    unfold convertWithin
    refine .bind .get fun cur => ?_
    split
    · exact .pure _
    · refine .guard (fun h => by cases h) ?_
      cases fuel with
      | zero => exact .throw fun h => by cases h
      | succ fuel =>
        refine .bind (definedType_clashless (fun ref => ?_) _) fun t => .bind (.modify _) fun _ => .pure _
        exact convertWithin_clashless r fuel (id :: pending) ref
termination_by fuel

theorem convertAll_clashless (r : Resolve) (slots : List (Option Nat)) : Clashless (r.convertAll slots) := by
  induction slots with
  | nil => exact .pure _
  | cons slot slots ih =>
    cases slot with
    | none => exact ih
    | some id =>
      unfold convertAll
      split
      · exact .bind (r.convertWithin_clashless _ _ _) fun _ => ih
      · exact ih

end Resolve

/-! Names in the package -/

/-- The name of a record, enum, flags or tuple. -/
def TypeDef.typeName? (d : TypeDef) : Option String :=
  match d.kind with
  | some (.record _) | some (.enum _) | some (.flags _) | some (.tuple _) => d.name
  | _ => none

/-- The names of all records, enums, flags and tuples that have one. -/
def Resolve.typeNames (r : Resolve) : List String := r.defs.filterMap TypeDef.typeName?

theorem TypeDef.typeName?_of_isNamedType {d : TypeDef} (h : d.isNamedType = true) : ∃ name, d.name = some name ∧ d.typeName? = some name := by
  unfold isNamedType at h
  unfold typeName?
  rw [Bool.and_eq_true] at h
  obtain ⟨hsome, hkind⟩ := h
  obtain ⟨name, hname⟩ := Option.isSome_iff_exists.mp hsome
  refine ⟨name, hname, ?_⟩
  split at hkind <;> simp_all

/-- A type of the package is called after its definition. -/
theorem TypeOf.localName_eq {known : TypeRef → WireType → Prop} {p : Package} {d : TypeDef} {t : WireType} (h : TypeOf known p.qualify d t)
    (hnamed : d.isNamedType = true) {name : String} (hname : d.name = some name) (hlower : isLowerLabel name = true) :
    t.isNamedType = true ∧ t.localName = pascalCase name := by
  have hlocal := p.localName_qualify (colon_notMem_pascalCase hlower)
  cases h with
  | struct hname' | enum hname' | flags hname' =>
    rw [hname] at hname'
    cases hname'
    exact ⟨rfl, hlocal⟩
  | wideFlags hk hlt =>
    simp [TypeDef.isNamedType, hk, Nat.not_le.mpr hlt] at hnamed
  | list hk => simp [TypeDef.isNamedType, hk] at hnamed
  | resource hi =>
    obtain ⟨_, hk, -⟩ := TypeDef.interface?_eq_some_iff.mp hi
    simp [TypeDef.isNamedType, hk] at hnamed
  | same htarget =>
    rw [(TypeDef.isNamedType_of_target? htarget).1] at hnamed
    cases hnamed

theorem Resolve.getElem?_of_typeName? {r : Resolve} {id : Nat} {name : String} (h : (r.definition id).typeName? = some name) :
    r.defs[id]? = some (r.definition id) := by
  rcases r.definition_cases id with hd | hd
  · exact hd
  · rw [hd] at h
    cases h

theorem Resolve.id_eq_of_typeName? {r : Resolve} (hapart : r.typeNames.Nodup) {i j : Nat} {name : String}
    (hi : (r.definition i).typeName? = some name) (hj : (r.definition j).typeName? = some name) : i = j := by
  have hpairs := List.pairwise_iff_getElem.mp (List.pairwise_filterMap.mp hapart)
  obtain ⟨hlt, hd⟩ := List.getElem?_eq_some_iff.mp (Resolve.getElem?_of_typeName? hi)
  obtain ⟨hlt', hd'⟩ := List.getElem?_eq_some_iff.mp (Resolve.getElem?_of_typeName? hj)
  rw [← hd] at hi
  rw [← hd'] at hj
  rcases Nat.lt_trichotomy i j with h | h | h
  · exact absurd rfl (hpairs i j hlt hlt' h name hi name hj)
  · exact h
  · exact absurd rfl (hpairs j i hlt' hlt h name hj name hi)

/-- Definitions with different names in small letters give types with different names. -/
theorem Steps.nodup_localNames {r : Resolve} {good : Nat → Prop} {name space : String} {c : Converter}
    (h : Steps r good { package := { name, space } } c) (hlower : ∀ name ∈ r.typeNames, isLowerLabel name = true)
    (hapart : r.typeNames.Nodup) :
    (∀ t ∈ c.package.types, t.isNamedType = true) ∧ (c.package.types.map (·.localName)).Nodup := by
  have hcalled : ∀ e ∈ r.named c.finished, ∃ name, (r.definition e.1).typeName? = some name ∧ isLowerLabel name = true ∧
      e.2.isNamedType = true ∧ e.2.localName = pascalCase name := by
    intro e he
    obtain ⟨hfin, hnamed⟩ := Resolve.mem_named.mp he
    obtain ⟨name, hname, htype⟩ := TypeDef.typeName?_of_isNamedType hnamed
    have hlabel := hlower name (List.mem_filterMap.mpr ⟨_, List.mem_of_getElem? (Resolve.getElem?_of_typeName? htype), htype⟩)
    exact ⟨name, htype, hlabel, (h.typeOf (by simp) e hfin).localName_eq hnamed hname hlabel⟩
  have hids := h.nodup List.nodup_nil
  rw [h.types_of_start, List.map_map]
  constructor
  · intro t ht
    obtain ⟨e, he, rfl⟩ := List.mem_map.mp ht
    obtain ⟨name, -, -, hnamed, -⟩ := hcalled e he
    exact hnamed
  · refine List.Nodup.map_on (fun e he e' he' heq => ?_) ((List.nodup_reverse.mpr hids.of_map).filter _)
    obtain ⟨name, htype, hlabel, -, hlocal⟩ := hcalled e he
    obtain ⟨name', htype', hlabel', -, hlocal'⟩ := hcalled e' he'
    -- The local name gives the name, the name the identity, and an identity is finished once.
    have hpascal : pascalCase name = pascalCase name' := by
      rw [← hlocal, ← hlocal']
      exact heq
    cases pascalCase_injective hlabel hlabel' hpascal
    exact List.inj_on_of_nodup_map hids (Resolve.mem_named.mp he).1 (Resolve.mem_named.mp he').1
      (Resolve.id_eq_of_typeName? hapart htype htype')

theorem Steps.interfaces_eq_nil {r : Resolve} {good : Nat → Prop} {name space : String} {c : Converter}
    (h : Steps r good { package := { name, space } } c) (hresource : ∀ d ∈ r.defs, d.kind ≠ some .resource) : c.package.interfaces = [] := by
  rw [h.interfaces_of_start, List.filterMap_eq_nil_iff]
  intro e _
  cases hi : (r.definition e.1).interface? with
  | none => rfl
  | some i =>
    obtain ⟨name, hk, -⟩ := TypeDef.interface?_eq_some_iff.mp hi
    rcases r.definition_cases e.1 with hd | hd
    · exact absurd hk (hresource _ (List.mem_of_getElem? hd))
    · rw [hd] at hk
      cases hk

/-- Where a conversion can fail: at a resolve without packages, at a definition, or when what came out of it is checked. -/
theorem Resolve.toPackage_eq_error {r : Resolve} {space : String} {f : Fault} (h : r.toPackage space = .error f) :
    f = .invalidInput .intake [] "resolve contains no packages" ∨
    (∃ c last, (r.convertAll r.slots).run c = (.error f, last)) ∨
    ∃ name c g, Steps r (fun _ => True) { package := { name, space } } c ∧ c.package.validate {} = .error g ∧
      f = g.within [c.package.name] := by
  unfold toPackage at h
  split at h
  · cases h
    exact .inl rfl
  · dsimp only at h
    split at h
    · rename_i hrun
      cases h
      exact .inr (.inl ⟨_, _, hrun⟩)
    · rename_i root _ c hrun
      split at h
      · rename_i g hvalid
        cases h
        have hsteps : Steps r (fun _ => True) _ c :=
          (convertAll_reaches (fun _ _ _ => id) r.slots (fun _ _ => trivial) _ () c hrun).1
        exact .inr (.inr ⟨_, c, g, hsteps, hvalid, rfl⟩)
      · cases h

/-- Pascal case keeps labels in small letters apart, whatever words they are made of. So when the records, enums, flags and tuples of a resolve
have different names of this kind, and there is no resource, its conversion may fail but never over a name that is there twice. -/
theorem lower_names_never_clash (r : Resolve) (space : String) :
    Set.InjOn pascalCase {s | isLowerLabel s = true} ∧
    ((∀ name ∈ r.typeNames, isLowerLabel name = true) → r.typeNames.Nodup → (∀ d ∈ r.defs, d.kind ≠ some .resource) →
      ∀ f, r.toPackage space = .error f → f.kind ≠ .duplicate) := by
  refine ⟨fun a ha b hb h => pascalCase_injective ha hb h, fun hlower hapart hresource f hf => ?_⟩
  rcases Resolve.toPackage_eq_error hf with rfl | ⟨c, last, hrun⟩ | ⟨name, c, g, hsteps, hvalid, rfl⟩
  · exact fun h => by cases h
  · exact r.convertAll_clashless r.slots c f last hrun
  · obtain ⟨htypes, hnodup⟩ := hsteps.nodup_localNames hlower hapart
    have hinterfaces := hsteps.interfaces_eq_nil hresource
    have hfits : c.package.name ≠ "" → c.package.Fits (Dialect.lead {}) := fun hn =>
      ⟨hn, htypes, by simp [hinterfaces], by simpa [hinterfaces] using hnodup⟩
    rw [Package.validate_eq_error_of_unnamed hfits hvalid]
    exact fun h => by cases h

/-- Names that differ in a dash only, of a definition of each kind, and a member that has no wire type. -/
theorem lower_names_never_clash_dashes :
    let r : Resolve := {
      defs := [
        { name := some "http-error", kind := some (.enum ["timeout", "refused"]) },
        { name := some "httperror", kind := some (.flags ["retry", "final"]) },
        { name := some "h-ttp-error", kind := some (.tuple [.defined 0, .defined 1]) },
        { name := some "h-ttperror", kind := some (.record [("cause", .defined 4)]) },
        { name := some "http-error", kind := some .option }]
      slots := [some 0, some 1, some 2, some 3, some 4]
      packages := ["errors"] }
    r.typeNames = ["http-error", "httperror", "h-ttp-error", "h-ttperror"] ∧
      ∃ f, r.toPackage "demo" = .error f ∧ f.path = ["h-ttperror", "cause"] ∧ f.kind ≠ .duplicate := by
  intro r
  have hfault : (match r.toPackage "demo" with
      | .error f => f.path == ["h-ttperror", "cause"]
      | .ok _ => false) = true := by decide +kernel
  refine ⟨by decide +kernel, ?_⟩
  cases hr : r.toPackage "demo" with
  | ok p => simp [hr] at hfault
  | error f =>
    have hclash := (lower_names_never_clash r "demo").2 (by decide +kernel) (by decide +kernel) (by decide +kernel) f hr
    exact ⟨f, rfl, by simpa [hr] using hfault, hclash⟩

end Parcelgen.Wit

import Mathlib.Data.List.Forall2
import Parcelgen.Wit.Convert

/-!
What conversion does, as a relation. Definitions are finished one after the other (`Steps`), each with a wire type that follows from its kind
and from the definitions that were finished before it (`TypeOf`). A conversion that succeeds is such a list of steps (`convertWithin_reaches`,
`conversion_of_toPackage`), and what holds of converted packages follows by induction over it.
-/

namespace Parcelgen

namespace Wit

namespace Converting

variable {α β : Type} {c last : Converter}

theorem run_bind_of_ok {x : Converting α} {k : α → Converting β} {a : α} (h : x.run c = (.ok a, last)) :
    (x >>= k).run c = (k a).run last := by
  show (StateT.bind x.run (ExceptT.bindCont k)) c = _
  unfold StateT.bind
  rw [h]
  rfl

theorem run_bind_of_error {x : Converting α} {k : α → Converting β} {f : Fault} (h : x.run c = (.error f, last)) :
    (x >>= k).run c = (.error f, last) := by
  show (StateT.bind x.run (ExceptT.bindCont k)) c = _
  unfold StateT.bind
  rw [h]
  rfl

theorem run_bind_eq_ok_iff {x : Converting α} {k : α → Converting β} {b : β} :
    (x >>= k).run c = (.ok b, last) ↔ ∃ a mid, x.run c = (.ok a, mid) ∧ (k a).run mid = (.ok b, last) := by
  rcases hx : x.run c with ⟨r, mid⟩
  cases r with
  | error f =>
    rw [run_bind_of_error hx]
    constructor
    · intro h
      cases h
    · rintro ⟨a, mid', hr, -⟩
      cases hr
  | ok a =>
    rw [run_bind_of_ok hx]
    constructor
    · exact fun h => ⟨a, mid, rfl, h⟩
    · rintro ⟨a', mid', hr, h⟩
      cases hr
      exact h

theorem run_rethrow_of_ok {x : Converting α} {path : Fault → Fault} {a : α} (h : x.run c = (.ok a, last)) :
    (tryCatch x fun f => throw (path f)).run c = (.ok a, last) := by
  simp only [tryCatch, tryCatchThe, MonadExceptOf.tryCatch, ExceptT.tryCatch, ExceptT.run_mk]
  show (StateT.bind x.run _) c = _
  unfold StateT.bind
  rw [h]
  rfl

/-- A fault that is only thrown again with more of its path. -/
theorem run_rethrow_of_error {x : Converting α} {path : Fault → Fault} {f : Fault} (h : x.run c = (.error f, last)) :
    (tryCatch x fun f => throw (path f)).run c = (.error (path f), last) := by
  simp only [tryCatch, tryCatchThe, MonadExceptOf.tryCatch, ExceptT.tryCatch, ExceptT.run_mk]
  show (StateT.bind x.run _) c = _
  unfold StateT.bind
  rw [h]
  rfl

theorem run_rethrow_eq_ok_iff {x : Converting α} {path : Fault → Fault} {a : α} :
    (tryCatch x fun f => throw (path f)).run c = (.ok a, last) ↔ x.run c = (.ok a, last) := by
  rcases hx : x.run c with ⟨r, mid⟩
  cases r with
  | error f =>
    rw [run_rethrow_of_error hx]
    constructor <;> intro h <;> cases h
  | ok b => rw [run_rethrow_of_ok hx]

end Converting

namespace TypeDef

/-- The members of a record or tuple. -/
def members? (d : TypeDef) : Option (List (String × TypeRef)) :=
  match d.kind with
  | some (.record fields) => some (fields.map fun (label, ref) => (memberName label, ref))
  | some (.tuple types) => some ((numberedFields 0 types).map (·.2))
  | _ => none

/-- The type that a handle or alias is another spelling of. -/
def target? (d : TypeDef) : Option TypeRef :=
  match d.kind with
  | some (.handle ref) | some (.alias ref) => some ref
  | _ => none

/-- The types that a definition uses, as far as conversion goes into them. -/
def references (d : TypeDef) : List TypeRef :=
  match d.kind with
  | some (.record fields) => fields.map (·.2)
  | some (.tuple types) => types
  | some (.list elem) => [elem]
  | some (.handle ref) | some (.alias ref) => [ref]
  | _ => []

/-- Named records, tuples and enums, and named flags that fit in one number: the definitions that become types of a package. -/
def isNamedType (d : TypeDef) : Bool :=
  d.name.isSome &&
    match d.kind with
    | some (.record _) | some (.tuple _) | some (.enum _) => true
    | some (.flags names) => names.length ≤ 64
    | _ => false

/-- The interface for handles to a named resource. -/
def interface? (d : TypeDef) : Option Interface :=
  match d.kind, d.name with
  | some .resource, some name => some { name := "I" ++ pascalCase name }
  | _, _ => none

theorem interface?_eq_some_iff {d : TypeDef} {i : Interface} :
    d.interface? = some i ↔ ∃ name, d.kind = some .resource ∧ d.name = some name ∧ i = { name := "I" ++ pascalCase name } := by
  unfold interface?
  split
  · rename_i name hk hname
    simp [hk, hname, eq_comm]
  · rename_i hno
    constructor
    · intro h
      cases h
    · rintro ⟨name, hk, hname, -⟩
      exact absurd hname (hno name hk)

end TypeDef

/-- The wire type of a definition whose uses of types have the wire types that `known` gives them. -/
inductive TypeOf (known : TypeRef → WireType → Prop) (qualify : String → String) : TypeDef → WireType → Prop
  | struct {d : TypeDef} {name : String} {members : List (String × TypeRef)} {fields : List (String × WireType)} :
      d.name = some name → d.members? = some members → members.map (·.1) = fields.map (·.1) →
      List.Forall₂ known (members.map (·.2)) (fields.map (·.2)) → TypeOf known qualify d (.struct (qualify (pascalCase name)) fields)
  | enum {d : TypeDef} {name : String} {cases : List String} : d.name = some name → d.kind = some (.enum cases) →
      TypeOf known qualify d
        (.enum (qualify (pascalCase name)) (caseStorage cases.length) (cases.map fun c => (upperSnakeCase c, "")))
  | flags {d : TypeDef} {name : String} {names : List String} : d.name = some name → d.kind = some (.flags names) → names ≠ [] →
      names.length ≤ 64 → TypeOf known qualify d (.enum (qualify (pascalCase name)) (flagStorage names.length) (flagValues 0 names))
  | wideFlags {d : TypeDef} {names : List String} : d.kind = some (.flags names) → 64 < names.length →
      TypeOf known qualify d (.array (.scalar .uint32) (toString ((names.length + 31) / 32)))
  | list {d : TypeDef} {elem : TypeRef} {t : WireType} : d.kind = some (.list elem) → known elem t → t.kind? ≠ some .array →
      TypeOf known qualify d (.vector t)
  | resource {d : TypeDef} {i : Interface} : d.interface? = some i → TypeOf known qualify d (.interface (qualify i.name))
  | same {d : TypeDef} {ref : TypeRef} {t : WireType} : d.target? = some ref → known ref t → TypeOf known qualify d t

/-- What a use stands for when exactly the definitions in `fin` are finished. -/
inductive Known (fin : List (Nat × WireType)) : TypeRef → WireType → Prop
  | primitive {p : Primitive} {t : WireType} : primitiveType p = pure t → Known fin (.primitive p) t
  | defined {id : Nat} {t : WireType} : (id, t) ∈ fin → Known fin (.defined id) t

theorem Known.mono {fin later : List (Nat × WireType)} (hsub : fin ⊆ later) {ref : TypeRef} {t : WireType} (h : Known fin ref t) :
    Known later ref t := by
  cases h with
  | primitive hp => exact .primitive hp
  | defined hmem => exact .defined (hsub hmem)

/-- Primitive types are known scalars and strings. -/
theorem primitiveType_cases {p : Primitive} {t : WireType} (h : primitiveType p = pure t) :
    (∃ s, s.isKnown = true ∧ t = .scalar s) ∨ t = .string := by
  have hrun : (primitiveType p).run { package := { name := "" } } = (.ok t, { package := { name := "" } }) := by
    rw [h]
    rfl
  cases p with
  | errorContext => cases hrun
  | string =>
    cases hrun
    exact .inr rfl
  | bool | s8 | u8 | s16 | u16 | s32 | u32 | s64 | u64 | f32 | f64 | char =>
    cases hrun
    exact .inl ⟨_, rfl, rfl⟩

/-- What is known of all types is known of the types of members. -/
theorem forall_field {known : TypeRef → WireType → Prop} {P : WireType → Prop} (hknown : ∀ ref t, known ref t → P t) {refs : List TypeRef}
    {fields : List (String × WireType)} (h : List.Forall₂ known refs (fields.map (·.2))) : ∀ f ∈ fields, P f.2 := by
  have hall := ((List.forall₂_and_left _ _).mp (h.flip.imp fun t ref ht => ⟨hknown ref t ht, ht⟩)).1
  exact fun f hf => hall f.2 (List.mem_map_of_mem hf)

namespace TypeOf

variable {known more : TypeRef → WireType → Prop} {qualify : String → String} {d : TypeDef} {t : WireType}

theorem mono (hsub : ∀ ref t, known ref t → more ref t) (h : TypeOf known qualify d t) : TypeOf more qualify d t := by
  cases h with
  | struct hname hmembers hlabels hfields => exact .struct hname hmembers hlabels (hfields.imp hsub)
  | enum hname hkind => exact .enum hname hkind
  | flags hname hkind hne hle => exact .flags hname hkind hne hle
  | wideFlags hkind hlt => exact .wideFlags hkind hlt
  | list hkind helem harray => exact .list hkind (hsub _ _ helem) harray
  | resource hi => exact .resource hi
  | same htarget href => exact .same htarget (hsub _ _ href)

end TypeOf

end Wit

/-- The package with what a finished definition adds to it: its type if it is a named one, its interface if it is a resource. -/
def Package.adding (p : Package) (d : Wit.TypeDef) (t : WireType) : Package :=
  { p with
    types := p.types ++ if d.isNamedType then [t] else []
    interfaces := p.interfaces ++ d.interface?.toList }

namespace Wit

namespace Resolve

/-- The definition behind an identity; identities without one have an empty definition. -/
def definition (r : Resolve) (id : Nat) : TypeDef := (r.def? id).getD {}

theorem definition_cases (r : Resolve) (id : Nat) : r.defs[id]? = some (r.definition id) ∨ r.definition id = {} := by
  unfold definition def?
  cases r.defs[id]? with
  | none => exact .inr rfl
  | some d => exact .inl rfl

end Resolve

/-- The converter after the definition `id` is finished as `t`. -/
def Converter.finish (c : Converter) (id : Nat) (d : TypeDef) (t : WireType) : Converter :=
  { package := c.package.adding d t, finished := (id, t) :: c.finished }

/-- Definitions with the property `good` are finished one after the other, each new and of the type that the ones before it give. -/
inductive Steps (r : Resolve) (good : Nat → Prop) (start : Converter) : Converter → Prop
  | refl : Steps r good start start
  | snoc {c : Converter} {id : Nat} {t : WireType} : Steps r good start c → good id → (∀ e ∈ c.finished, e.1 ≠ id) →
      TypeOf (Known c.finished) c.package.qualify (r.definition id) t → Steps r good start (c.finish id (r.definition id) t)

namespace Steps

variable {r : Resolve} {good : Nat → Prop} {a b c : Converter}

theorem trans (hab : Steps r good a b) (hbc : Steps r good b c) : Steps r good a c := by
  induction hbc with
  | refl => exact hab
  | snoc _ hgood hnew ht ih => exact .snoc ih hgood hnew ht

theorem subset (h : Steps r good a b) : a.finished ⊆ b.finished := by
  induction h with
  | refl => exact List.Subset.refl _
  | snoc _ _ _ _ ih => exact List.subset_cons_of_subset _ ih

theorem weaken {more : Nat → Prop} (hsub : ∀ id, good id → more id) (h : Steps r good a b) : Steps r more a b := by
  induction h with
  | refl => exact .refl
  | snoc _ hgood hnew ht ih => exact .snoc ih (hsub _ hgood) hnew ht

/-- What every new definition has, because those finished before it have it, all of them have. -/
theorem forall_mem {P : Nat × WireType → Prop} (h : Steps r good a b) (ha : ∀ e ∈ a.finished, P e)
    (hstep : ∀ c id t, (∀ e ∈ c.finished, P e) → Steps r good a c → good id →
      TypeOf (Known c.finished) c.package.qualify (r.definition id) t → P (id, t)) : ∀ e ∈ b.finished, P e := by
  induction h with
  | refl => exact ha
  | @snoc c id t hsteps hgood _ ht ih => exact List.forall_mem_cons.mpr ⟨hstep c id t ih hsteps hgood ht, ih⟩

/-- No definition is finished twice. -/
theorem nodup (h : Steps r good a b) (ha : (a.finished.map (·.1)).Nodup) : (b.finished.map (·.1)).Nodup := by
  induction h with
  | refl => exact ha
  | snoc _ _ hnew _ ih =>
    refine List.nodup_cons.mpr ⟨fun hmem => ?_, ih⟩
    obtain ⟨e, he, heq⟩ := List.mem_map.mp hmem
    exact hnew e he heq

theorem space_eq (h : Steps r good a b) : b.package.space = a.package.space := by
  induction h with
  | refl => rfl
  | snoc _ _ _ _ ih => exact ih

theorem qualify_eq (h : Steps r good a b) : b.package.qualify = a.package.qualify := by
  funext name
  rw [Package.qualify, Package.qualify, h.space_eq]

/-- The types that definitions were finished with agree with everything that was finished later. -/
theorem typeOf (h : Steps r good a b)
    (ha : ∀ e ∈ a.finished, TypeOf (Known a.finished) a.package.qualify (r.definition e.1) e.2) :
    ∀ e ∈ b.finished, TypeOf (Known b.finished) b.package.qualify (r.definition e.1) e.2 := by
  induction h with
  | refl => exact ha
  | @snoc c id t _ _ _ ht ih =>
    have hmono : ∀ ref u, Known c.finished ref u → Known ((id, t) :: c.finished) ref u :=
      fun ref u => Known.mono (List.subset_cons_self _ _)
    exact List.forall_mem_cons.mpr ⟨ht.mono hmono, fun e he => (ih e he).mono hmono⟩

end Steps

/-- Runs of `x` that succeed finish definitions with the property `good`, and from then on the result is as `Q` says, whatever else is
finished later. -/
def Reaches {α : Type} (r : Resolve) (good : Nat → Prop) (x : Converting α) (Q : List (Nat × WireType) → α → Prop) : Prop :=
  ∀ c a last, x.run c = (.ok a, last) → Steps r good c last ∧ ∀ later, last.finished ⊆ later → Q later a

namespace Reaches

variable {α β : Type} {r : Resolve} {good : Nat → Prop} {Q : List (Nat × WireType) → α → Prop} {R : List (Nat × WireType) → β → Prop}

theorem pure {a : α} (h : ∀ fin, Q fin a) : Reaches r good (Pure.pure a) Q := by
  intro c b last hrun
  cases hrun
  exact ⟨.refl, fun later _ => h later⟩

theorem throw (f : Fault) : Reaches r good (MonadExcept.throw f) Q := by
  intro c b last hrun
  cases hrun

theorem bind {x : Converting α} {k : α → Converting β} (hx : Reaches r good x Q)
    (hk : ∀ a, Reaches r good (k a) fun fin b => Q fin a → R fin b) : Reaches r good (x >>= k) R := by
  intro c b last hrun
  obtain ⟨a, mid, hxrun, hkrun⟩ := Converting.run_bind_eq_ok_iff.mp hrun
  obtain ⟨hsteps, hq⟩ := hx c a mid hxrun
  obtain ⟨hsteps', hr⟩ := hk a mid b last hkrun
  exact ⟨hsteps.trans hsteps', fun later hl => hr later hl (hq later (List.Subset.trans hsteps'.subset hl))⟩

theorem rethrow {x : Converting α} (hx : Reaches r good x Q) (path : Fault → Fault) :
    Reaches r good (tryCatch x fun f => MonadExcept.throw (path f)) Q :=
  fun c a last hrun => hx c a last (Converting.run_rethrow_eq_ok_iff.mp hrun)

theorem mono {x : Converting α} {Q' : List (Nat × WireType) → α → Prop} (h : Reaches r good x Q) (hq : ∀ fin a, Q fin a → Q' fin a) :
    Reaches r good x Q' := by
  intro c a last hrun
  obtain ⟨hsteps, hlater⟩ := h c a last hrun
  exact ⟨hsteps, fun later hl => hq later a (hlater later hl)⟩

/-- A check in front of a computation. -/
theorem guard {p : Prop} [Decidable p] {f : Fault} {k : PUnit → Converting α} (hk : ¬ p → Reaches r good (k ()) Q) :
    Reaches r good (if p then MonadExcept.throw f >>= k else k ()) Q := by
  split
  · intro c b last h
    obtain ⟨a, mid, hthrow, -⟩ := Converting.run_bind_eq_ok_iff.mp h
    cases hthrow
  · rename_i hp
    exact hk hp

end Reaches

/-- The results of `x` are what the use stands for. -/
abbrev Tracks (r : Resolve) (good : Nat → Prop) (x : Converting WireType) (ref : TypeRef) : Prop :=
  Reaches r good x fun fin t => Known fin ref t

theorem primitiveType_tracks (r : Resolve) (good : Nat → Prop) (p : Primitive) : Tracks r good (primitiveType p) (.primitive p) := by
  cases p with
  | errorContext => exact .throw _
  | bool | s8 | u8 | s16 | u16 | s32 | u32 | s64 | u64 | f32 | f64 | char | string => exact .pure fun _ => .primitive rfl

section

variable {r : Resolve} {good : Nat → Prop} {convert : TypeRef → Converting WireType}

theorem structMembers_reaches (owner : String) (fs : List (String × String × TypeRef))
    (hconvert : ∀ f ∈ fs, Tracks r good (convert f.2.2) f.2.2) : Reaches r good (structMembers convert owner fs) fun fin fields =>
      (fs.map (·.2)).map (·.1) = fields.map (·.1) ∧ List.Forall₂ (Known fin) ((fs.map (·.2)).map (·.2)) (fields.map (·.2)) := by
  induction fs with
  | nil => exact .pure fun _ => ⟨rfl, .nil⟩
  | cons f rest ih =>
    obtain ⟨label, member, ref⟩ := f
    obtain ⟨href, hrest⟩ := List.forall_mem_cons.mp hconvert
    refine .bind (.rethrow href _) fun t => .bind (ih hrest) fun fields => .pure fun fin hfields ht => ?_
    exact ⟨by simpa using hfields.1, .cons ht hfields.2⟩

/-- The definition gets a type from what is finished along the way, and the package what the definition adds to it. -/
def Builds (r : Resolve) (good : Nat → Prop) (x : Converting WireType) (d : TypeDef) : Prop :=
  ∀ c t last, x.run c = (.ok t, last) → ∃ mid, Steps r good c mid ∧ TypeOf (Known mid.finished) mid.package.qualify d t ∧
    last = { mid with package := mid.package.adding d t }

namespace Builds

variable {d : TypeDef}

theorem throw (f : Fault) : Builds r good (MonadExcept.throw f) d := by
  intro c t last hrun
  cases hrun

/-- A definition that adds nothing to the package. -/
theorem of_reaches {x : Converting WireType} (htype : d.isNamedType = false) (hinterface : d.interface? = none)
    (h : ∀ qualify, Reaches r good x fun fin t => TypeOf (Known fin) qualify d t) : Builds r good x d := by
  intro c t last hrun
  obtain ⟨hsteps, ht⟩ := h last.package.qualify c t last hrun
  exact ⟨last, hsteps, ht _ (List.Subset.refl _), by simp [Package.adding, htype, hinterface]⟩

/-- A named type is declared in the package once the types that it uses are converted. -/
theorem declare {α : Type} {x : Converting α} {Q : List (Nat × WireType) → α → Prop} {name : String} (make : String → α → WireType)
    (htype : d.isNamedType = true) (hinterface : d.interface? = none) (hx : Reaches r good x Q)
    (h : ∀ fin a qualify, Q fin a → TypeOf (Known fin) qualify d (make (qualify (pascalCase name)) a)) :
    Builds r good (do
      let a ← x
      declare (make (← qualified name) a)) d := by
  intro c t last hrun
  obtain ⟨a, mid, hxrun, hrun⟩ := Converting.run_bind_eq_ok_iff.mp hrun
  obtain ⟨hsteps, hq⟩ := hx c a mid hxrun
  cases hrun
  exact ⟨mid, hsteps, h _ a _ (hq _ (List.Subset.refl _)), by simp [Package.adding, htype, hinterface]⟩

end Builds

theorem numberedFields_members (i : Nat) (types : List TypeRef) : ((numberedFields i types).map (·.2)).map (·.2) = types := by
  induction types generalizing i with
  | nil => rfl
  | cons ref types ih => simp only [numberedFields, List.map_cons, ih]

theorem TypeDef.members_references {d : TypeDef} {members : List (String × TypeRef)} (h : d.members? = some members) :
    members.map (·.2) = d.references := by
  unfold TypeDef.members? at h
  unfold TypeDef.references
  split at h
  · rename_i fields hk
    cases h
    simp [hk, Function.comp_def]
  · rename_i types hk
    cases h
    simp only [hk, numberedFields_members]
  · cases h

/-- A struct is declared once its members are converted. -/
theorem declareStruct_builds {d : TypeDef} {name : String} {fs : List (String × String × TypeRef)} (hname : d.name = some name)
    (htype : d.isNamedType = true) (hinterface : d.interface? = none) (hmembers : d.members? = some (fs.map (·.2)))
    (hconvert : ∀ ref ∈ d.references, Tracks r good (convert ref) ref) :
    Builds r good (do
      let fields ← structMembers convert name fs
      declare (.struct (← qualified name) fields)) d := by
  refine .declare .struct htype hinterface (structMembers_reaches name fs fun f hf => hconvert _ ?_) fun fin fields qualify hfields =>
    .struct hname hmembers hfields.1 hfields.2
  rw [← TypeDef.members_references hmembers]
  exact List.mem_map_of_mem (List.mem_map_of_mem hf)

theorem flagsType_builds {d : TypeDef} {names : List String} (hk : d.kind = some (.flags names)) : Builds r good (flagsType d names) d := by
  have hinterface : d.interface? = none := by simp [TypeDef.interface?, hk]
  unfold flagsType
  dsimp only
  split
  · exact .throw _
  · rename_i hne
    split
    · rename_i hlt
      refine .of_reaches (by simp [TypeDef.isNamedType, hk, hlt]) hinterface fun qualify => .pure fun fin => ?_
      exact .wideFlags hk hlt
    · rename_i hle
      split
      · exact .throw _
      · rename_i name hname
        refine .declare (x := pure ()) (Q := fun _ _ => True) (fun q _ => .enum q _ _) ?_ hinterface (.pure fun _ => trivial)
          fun fin _ qualify _ => .flags hname hk ?_ ?_
        · simp [TypeDef.isNamedType, hk, hname]
          omega
        · simpa using hne
        · omega

theorem listType_reaches {elem : TypeRef} (helem : Tracks r good (convert elem) elem) {d : TypeDef} (hk : d.kind = some (.list elem))
    (qualify : String → String) : Reaches r good (listType convert elem) fun fin t => TypeOf (Known fin) qualify d t := by
  unfold listType
  exact .bind helem fun t => .guard fun hne => .pure fun fin ht => .list hk ht (by simpa using hne)

/-- A handle or alias has the type that it leads to. -/
theorem target_builds {ref : TypeRef} (href : Tracks r good (convert ref) ref) {d : TypeDef} (htarget : d.target? = some ref) :
    Builds r good (convert ref) d := by
  refine .of_reaches ?_ ?_ fun qualify => href.mono fun fin t ht => .same htarget ht
  · unfold TypeDef.target? at htarget
    split at htarget <;> simp_all [TypeDef.isNamedType]
  · unfold TypeDef.target? at htarget
    split at htarget <;> simp_all [TypeDef.interface?]

theorem resourceType_builds {d : TypeDef} (hk : d.kind = some .resource) : Builds r good (resourceType d) d := by
  unfold resourceType
  split
  · exact .throw _
  · rename_i name hname
    have hinterface : d.interface? = some { name := "I" ++ pascalCase name } := by simp [TypeDef.interface?, hk, hname]
    have htype : d.isNamedType = false := by simp [TypeDef.isNamedType, hk]
    intro c t last hrun
    cases hrun
    exact ⟨c, .refl, .resource hinterface, by simp [Package.adding, htype, hinterface]⟩

/-- A definition is finished from the types that it uses. -/
theorem definedType_builds (d : TypeDef) (hconvert : ∀ ref ∈ d.references, Tracks r good (convert ref) ref) :
    Builds r good (definedType convert d) d := by
  unfold definedType
  split <;> rename_i hk
  · exact .throw _
  · unfold recordType
    split
    · exact .throw _
    · rename_i name hname
      refine declareStruct_builds hname ?_ ?_ ?_ hconvert
      · simp [TypeDef.isNamedType, hk, hname]
      · simp [TypeDef.interface?, hk]
      · simp [TypeDef.members?, hk, Function.comp_def]
  · unfold enumType
    split
    · exact .throw _
    · rename_i name hname
      refine .declare (x := pure ()) (Q := fun _ _ => True) (fun q _ => .enum q _ _) ?_ ?_ (.pure fun _ => trivial)
        fun fin _ qualify _ => .enum hname hk
      · simp [TypeDef.isNamedType, hk, hname]
      · simp [TypeDef.interface?, hk]
  · exact flagsType_builds hk
  · unfold tupleType
    split
    · exact .throw _
    · rename_i name hname
      refine declareStruct_builds hname ?_ ?_ ?_ hconvert
      · simp [TypeDef.isNamedType, hk, hname]
      · simp [TypeDef.interface?, hk]
      · simp [TypeDef.members?, hk]
  · refine .of_reaches ?_ ?_ fun qualify => listType_reaches (hconvert _ (by simp [TypeDef.references, hk])) hk qualify
    · simp [TypeDef.isNamedType, hk]
    · simp [TypeDef.interface?, hk]
  · exact resourceType_builds hk
  · exact target_builds (hconvert _ (by simp [TypeDef.references, hk])) (by simp [TypeDef.target?, hk])
  · exact .throw _
  · exact .throw _
  · exact .throw _
  · exact .throw _
  · exact .throw _
  · exact target_builds (hconvert _ (by simp [TypeDef.references, hk])) (by simp [TypeDef.target?, hk])

end

namespace Resolve

variable {r : Resolve} {good : Nat → Prop}

/-- The definition `a` uses the definition `b`. -/
def Refers (r : Resolve) (a b : Nat) : Prop := .defined b ∈ (r.definition a).references

instance (r : Resolve) (a b : Nat) : Decidable (r.Refers a b) := inferInstanceAs (Decidable (_ ∈ (r.definition a).references))

/-- Finishing a definition: the definitions it uses are finished first, none of them itself. -/
theorem finish_steps {fuel id : Nat} {pending : List Nat}
    (hconvert : ∀ ref ∈ (r.definition id).references,
      Tracks r (fun j => good j ∧ j ∉ id :: pending) (r.convertWithin fuel (id :: pending) ref) ref)
    (hgood : good id) (hpending : id ∉ pending) {c last : Converter} (hnew : ∀ e ∈ c.finished, e.1 ≠ id) {t : WireType}
    (h : (do
      let t ← definedType (r.convertWithin fuel (id :: pending)) (r.definition id)
      modify fun c => { c with finished := (id, t) :: c.finished }
      return t : Converting WireType).run c = (.ok t, last)) :
    Steps r (fun j => good j ∧ j ∉ pending) c last ∧ (id, t) ∈ last.finished := by
  obtain ⟨u, mid, htype, h⟩ := Converting.run_bind_eq_ok_iff.mp h
  cases h
  obtain ⟨before, hsteps, htypeOf, rfl⟩ := definedType_builds (r.definition id) hconvert c t mid htype
  have hbefore : ∀ e ∈ before.finished, e.1 ≠ id :=
    hsteps.forall_mem hnew fun c j t _ _ hj _ heq => hj.2 (by simp [← heq])
  refine ⟨.snoc (hsteps.weaken fun j hj => ⟨hj.1, fun hmem => hj.2 (List.mem_cons_of_mem id hmem)⟩) ⟨hgood, hpending⟩ hbefore htypeOf, ?_⟩
  exact List.mem_cons_self

/-- Converting a use is the same as finishing what it needs and then reading it among the finished definitions. -/
theorem convertWithin_tracks (hclosed : ∀ a b, r.Refers a b → good a → good b) (fuel : Nat) (pending : List Nat) (ref : TypeRef)
    (href : ∀ id, ref = .defined id → good id) :
    Tracks r (fun id => good id ∧ id ∉ pending) (r.convertWithin fuel pending ref) ref := by
  cases ref with
  | absent =>
    unfold convertWithin
    exact .throw _
  | primitive p =>
    unfold convertWithin
    exact primitiveType_tracks r _ p
  | defined id =>
    unfold convertWithin
    intro c t last hrun
    obtain ⟨cur, mid, hget, hrun⟩ := Converting.run_bind_eq_ok_iff.mp hrun
    cases hget
    split at hrun
    · rename_i n u hfind
      cases hrun
      obtain rfl : n = id := by simpa using List.find?_some hfind
      exact ⟨.refl, fun later hl => .defined (hl (List.mem_of_find?_eq_some hfind))⟩
    · rename_i hfind
      have hnew : ∀ e ∈ c.finished, e.1 ≠ id := by simpa using hfind
      dsimp only at hrun
      by_cases hpending : pending.contains id = true
      · rw [if_pos hpending] at hrun
        obtain ⟨a, mid, hthrow, -⟩ := Converting.run_bind_eq_ok_iff.mp hrun
        cases hthrow
      · rw [if_neg hpending] at hrun
        cases fuel with
        | zero => cases hrun
        | succ fuel =>
          have hconvert : ∀ ref ∈ (r.definition id).references,
              Tracks r (fun j => good j ∧ j ∉ id :: pending) (r.convertWithin fuel (id :: pending) ref) ref := by
            intro ref hmem
            refine convertWithin_tracks hclosed fuel (id :: pending) ref ?_
            rintro j rfl
            exact hclosed id j hmem (href id rfl)
          obtain ⟨hsteps, hmem⟩ := finish_steps hconvert (href id rfl) (by simpa using hpending) hnew hrun
          exact ⟨hsteps, fun later hl => .defined (hl hmem)⟩
termination_by fuel

/-- After the conversion of a list of slots, every definition among them that is declared by itself is finished. -/
theorem convertAll_reaches (hclosed : ∀ a b, r.Refers a b → good a → good b) (slots : List (Option Nat))
    (hslots : ∀ id, some id ∈ slots → good id) :
    Reaches r good (r.convertAll slots) fun fin _ => ∀ id, some id ∈ slots → isDeclared (r.definition id) = true → ∃ t, (id, t) ∈ fin := by
  induction slots with
  | nil => exact .pure fun _ => by simp
  | cons slot slots ih =>
    have hrest := ih fun id hid => hslots id (List.mem_cons_of_mem _ hid)
    cases slot with
    | none => exact hrest.mono fun fin _ h => by simpa using h
    | some id =>
      unfold convertAll
      split
      · have hid : Tracks r good (r.convert (.defined id)) (.defined id) := by
          have htracks := convertWithin_tracks hclosed (r.defs.length + 1) [] (.defined id) fun j hj => by
            cases hj
            exact hslots id List.mem_cons_self
          simpa [convert] using htracks
        refine .bind hid fun t => hrest.mono fun fin _ hrest hknown => ?_
        cases hknown with
        | defined hmem =>
          intro j hj hdeclared
          rcases List.mem_cons.mp hj with hj | hj
          · cases hj
            exact ⟨t, hmem⟩
          · exact hrest j hj hdeclared
      · rename_i hskip
        refine hrest.mono fun fin _ hrest j hj hdeclared => ?_
        rcases List.mem_cons.mp hj with hj | hj
        · cases hj
          exact absurd hdeclared hskip
        · exact hrest j hj hdeclared

end Resolve

/-- How a resolve becomes a package: the finished definitions, and what follows from them. -/
structure Conversion (r : Resolve) (good : Nat → Prop) (space : String) (fin : List (Nat × WireType)) (p : Package) : Prop where
  steps : ∃ name, Steps r good { package := { name, space } } { package := p, finished := fin }
  declared : ∀ id, some id ∈ r.slots → Resolve.isDeclared (r.definition id) = true → ∃ t, (id, t) ∈ fin
  valid : p.validate {} = .ok ()

namespace Resolve

/-- The finished definitions that are types of the package, in its order. -/
def named (r : Resolve) (fin : List (Nat × WireType)) : List (Nat × WireType) :=
  fin.reverse.filter fun e => (r.definition e.1).isNamedType

theorem named_cons (r : Resolve) (e : Nat × WireType) (fin : List (Nat × WireType)) :
    r.named (e :: fin) = r.named fin ++ if (r.definition e.1).isNamedType then [e] else [] := by
  cases he : (r.definition e.1).isNamedType <;> simp [named, he]

theorem mem_named {r : Resolve} {fin : List (Nat × WireType)} {e : Nat × WireType} :
    e ∈ r.named fin ↔ e ∈ fin ∧ (r.definition e.1).isNamedType = true := by
  rw [named, List.mem_filter, List.mem_reverse]

end Resolve

namespace Steps

variable {r : Resolve} {good : Nat → Prop} {name space : String} {c : Converter}

/-- The types of the package are those of the finished definitions that are named types. -/
theorem types_of_start (h : Steps r good { package := { name, space } } c) : c.package.types = (r.named c.finished).map (·.2) := by
  induction h with
  | refl => rfl
  | snoc _ _ _ _ ih =>
    simp only [Converter.finish, Package.adding, Resolve.named_cons, List.map_append, ih]
    split <;> rfl

theorem interfaces_of_start (h : Steps r good { package := { name, space } } c) :
    c.package.interfaces = c.finished.reverse.filterMap fun e => (r.definition e.1).interface? := by
  induction h with
  | refl => rfl
  | @snoc _ id _ _ _ _ _ ih =>
    simp only [Converter.finish, Package.adding, List.reverse_cons, List.filterMap_append, ih]
    cases hi : (r.definition id).interface? <;> simp [hi]

end Steps

namespace Conversion

variable {r : Resolve} {good : Nat → Prop} {space : String} {fin : List (Nat × WireType)} {p : Package}

theorem types_eq (h : Conversion r good space fin p) : p.types = (r.named fin).map (·.2) := by
  obtain ⟨name, hsteps⟩ := h.steps
  exact hsteps.types_of_start

theorem interfaces_eq (h : Conversion r good space fin p) : p.interfaces = fin.reverse.filterMap fun e => (r.definition e.1).interface? := by
  obtain ⟨name, hsteps⟩ := h.steps
  exact hsteps.interfaces_of_start

theorem nodup (h : Conversion r good space fin p) : (fin.map (·.1)).Nodup := by
  obtain ⟨name, hsteps⟩ := h.steps
  exact hsteps.nodup List.nodup_nil

end Conversion

theorem Resolve.conversion_of_toPackage {r : Resolve} (good : Nat → Prop) (hclosed : ∀ a b, r.Refers a b → good a → good b)
    (hslots : ∀ id, some id ∈ r.slots → good id) {space : String} {p : Package} (h : r.toPackage space = .ok p) :
    ∃ fin, Conversion r good space fin p := by
  unfold toPackage at h
  split at h
  · cases h
  · dsimp only at h
    split at h
    · cases h
    · rename_i root _ c hrun
      split at h
      · cases h
      · rename_i hvalid
        cases h
        obtain ⟨hsteps, hdeclared⟩ := convertAll_reaches hclosed r.slots hslots _ () c hrun
        exact ⟨c.finished, ⟨_, hsteps⟩, hdeclared _ (List.Subset.refl _), hvalid⟩

end Wit

end Parcelgen

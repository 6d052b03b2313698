import Parcelgen.Schema.Resolve

/-!
How a declaration uses the types of names. It asks for the names that it refers to and for no others, hands on what it gets and stops at its
first fault, so a relation between two ways to look names up is also one between what they make of a declaration (`declType_lift`), of
parameters and of whole interfaces (`interface_lift`).
-/

namespace Parcelgen

/-- The fault is about the input, and found at a single place of it. -/
structure Fault.IsLocal (f : Fault) : Prop where
  input : f.isContract = false
  acyclic : f.kind ≠ .cycle

namespace Fault.IsLocal

theorem invalidInput (phase : Phase) (path : List String) (detail : String) : (Fault.invalidInput phase path detail).IsLocal := ⟨rfl, nofun⟩

theorem unsupported (phase : Phase) (typeName what : String) : (Fault.unsupported phase typeName what).IsLocal := ⟨rfl, nofun⟩

theorem duplicate (phase : Phase) (path : List String) (what name : String) : (Fault.duplicate phase path what name).IsLocal :=
  ⟨rfl, nofun⟩

theorem notFound (phase : Phase) (path : List String) (what name : String) : (Fault.notFound phase path what name).IsLocal := ⟨rfl, nofun⟩

theorem within {f : Fault} (h : f.IsLocal) (path : List String) : (f.within path).IsLocal := ⟨h.input, h.acyclic⟩

end Fault.IsLocal

/-- The name at the core of an expression. -/
def TypeExpr.base : TypeExpr → String
  | .name ident _ => (Text.ofBytes? ident).getD ""
  | .vector elem _ => elem.base

theorem TypeExpr.isLocal_of_ofText {src : String} {f : Fault} (h : TypeExpr.ofText src = .error f) : f.IsLocal := by
  unfold TypeExpr.ofText at h
  dsimp only at h
  split at h
  · cases h
  · cases h
    exact .invalidInput _ _ _

namespace Schema

/-- The name that a text refers to, if it is an expression. -/
def reference? (src : String) : Option String := (TypeExpr.ofText src).toOption.map TypeExpr.base

namespace TypeDecl

/-- The texts of the types that a declaration is made from. -/
def texts (d : TypeDecl) : List String :=
  match d.kind with
  | "struct" => d.fields.map (·.type)
  | "typedef" => [d.type]
  | _ => []

/-- The names that a declaration refers to, in its members or as a typedef. -/
def references (d : TypeDecl) : List String := d.texts.filterMap reference?

theorem mem_references {d : TypeDecl} {src : String} {e : TypeExpr} (hsrc : src ∈ d.texts) (he : TypeExpr.ofText src = .ok e) :
    e.base ∈ d.references :=
  List.mem_filterMap.mpr ⟨src, hsrc, by simp [reference?, he, Except.toOption]⟩

end TypeDecl

/-- A relation between computations, and families of them, that equal results and local faults have and that steps keep. -/
structure Lifting {ι : Type} (R : ∀ {α : Type}, Resolving α → (ι → Resolving α) → Prop) : Prop where
  pure : ∀ {α : Type} (a : α), R (Pure.pure a) fun _ => Pure.pure a
  throw : ∀ {α : Type} {f : Fault}, f.IsLocal → R (MonadExcept.throw f : Resolving α) fun _ => MonadExcept.throw f
  bind : ∀ {α β : Type} {x : Resolving α} {y : ι → Resolving α} {k : α → Resolving β} {l : ι → α → Resolving β},
    R x y → (∀ a, R (k a) fun i => l i a) → R (x >>= k) fun i => y i >>= l i

namespace Lifting

variable {ι : Type} {R : ∀ {α : Type}, Resolving α → (ι → Resolving α) → Prop}

/-- A check in front of a computation. -/
theorem guard (hR : Lifting R) {α : Type} {c : Prop} [Decidable c] {f : Fault} (hf : f.IsLocal) {k : PUnit → Resolving α}
    {l : ι → PUnit → Resolving α} (hk : R (k ()) fun i => l i ()) :
    R (if c then MonadExcept.throw f >>= k else k ()) fun i => if c then MonadExcept.throw f >>= l i else l i () := by
  by_cases hc : c
  · simp only [if_pos hc]
    exact hR.bind (hR.throw hf) fun _ => hk
  · simp only [if_neg hc]
    exact hk

theorem mapM (hR : Lifting R) {α β : Type} {f : α → Resolving β} {g : ι → α → Resolving β} (hf : ∀ a, R (f a) fun i => g i a)
    (as : List α) : R (as.mapM f) fun i => as.mapM (g i) := by
  induction as with
  | nil => simpa only [List.mapM_nil] using hR.pure []
  | cons a as ih =>
    simp only [List.mapM_cons]
    exact hR.bind (hf a) fun b => hR.bind ih fun bs => hR.pure _

theorem eq : Lifting fun x (y : Unit → _) => x = y () where
  pure _ := rfl
  throw _ := rfl
  bind hx hk := by rw [hx, funext hk]

end Lifting

namespace Scope

variable {ι : Type} {R : ∀ {α : Type}, Resolving α → (ι → Resolving α) → Prop} {look : List String → String → Resolving WireType}
  {l : ι → List String → String → Resolving WireType}

theorem build_lift (hR : Lifting R) (path : List String) :
    ∀ e : TypeExpr, R (look path e.base) (fun i => l i path e.base) → R (build (look path) e) fun i => build (l i path) e
  | .name ident dims, h => by
    simp only [build]
    exact hR.bind h fun t => hR.pure _
  | .vector elem dims, h => by
    simp only [build]
    exact hR.bind (build_lift hR path elem h) fun t => hR.guard (.unsupported _ _ _) (hR.pure _)

theorem typeAt_lift (hR : Lifting R) (path : List String) (src : String)
    (h : ∀ e, TypeExpr.ofText src = .ok e → R (look path e.base) fun i => l i path e.base) :
    R (typeAt look path src) fun i => typeAt (l i) path src := by
  unfold typeAt
  cases he : TypeExpr.ofText src with
  | ok e => exact build_lift hR path e (h e he)
  | error f => exact hR.throw ((TypeExpr.isLocal_of_ofText he).within path)

theorem declarableAt_lift (hR : Lifting R) (path : List String) (src : String)
    (h : ∀ e, TypeExpr.ofText src = .ok e → R (look path e.base) fun i => l i path e.base) :
    R (declarableAt look path src) fun i => declarableAt (l i) path src := by
  unfold declarableAt
  refine hR.bind (typeAt_lift hR path src h) fun t => ?_
  split
  · exact hR.throw (.within (.unsupported _ _ _) path)
  · exact hR.pure _

theorem members_lift (hR : Lifting R) (path seen : List String) (fs : List FieldDecl)
    (h : ∀ f ∈ fs, ∀ path e, TypeExpr.ofText f.type = .ok e → R (look path e.base) fun i => l i path e.base) :
    R (members look path seen fs) fun i => members (l i) path seen fs := by
  induction fs generalizing seen with
  | nil => exact hR.pure _
  | cons f fs ih =>
    obtain ⟨hf, hfs⟩ := List.forall_mem_cons.mp h
    simp only [members, invalid]
    exact hR.guard (.invalidInput _ _ _) (hR.guard (.duplicate _ _ _ _)
      (hR.bind (declarableAt_lift hR _ _ (hf _)) fun u => hR.bind (ih _ hfs) fun rest => hR.pure _))

theorem enumerators_lift (hR : Lifting R) (path seen : List String) (vs : List ValueDecl) :
    R (enumerators path seen vs) fun _ => enumerators path seen vs := by
  induction vs generalizing seen with
  | nil => exact hR.pure _
  | cons v vs ih =>
    simp only [enumerators, invalid]
    exact hR.guard (.invalidInput _ _ _) (hR.guard (.duplicate _ _ _ _) (hR.bind (ih _) fun rest => hR.pure _))

theorem enumType_lift (hR : Lifting R) (s : Scope) (path : List String) (d : TypeDecl) :
    R (s.enumType path d) fun _ => s.enumType path d := by
  dsimp only [enumType]
  cases Option.filter Scalar.isInteger (Scalar.ofName? (if d.storage == "" then "uint32" else d.storage)) with
  | none => exact hR.throw (.invalidInput _ _ _)
  | some storage => exact hR.bind (enumerators_lift hR _ _ _) fun values => hR.pure _

/-- Look-ups that are related at the references of a declaration give it related types. -/
theorem declType_lift (hR : Lifting R) (s : Scope) (d : TypeDecl)
    (h : ∀ name ∈ d.references, ∀ path, R (look path name) fun i => l i path name) :
    R (s.declType look d) fun i => s.declType (l i) d := by
  have htext : ∀ src ∈ d.texts, ∀ path e, TypeExpr.ofText src = .ok e → R (look path e.base) fun i => l i path e.base :=
    fun src hsrc path e he => h e.base (TypeDecl.mem_references hsrc he) path
  unfold declType
  split
  · rename_i hk
    refine hR.bind (members_lift hR _ _ _ fun f hf => htext f.type ?_) fun fields => hR.pure _
    simpa [TypeDecl.texts, hk] using ⟨f, hf, rfl⟩
  · exact enumType_lift hR s _ d
  · rename_i hk
    exact typeAt_lift hR _ _ (htext d.type (by simp [TypeDecl.texts, hk]) _)
  · exact hR.throw (.invalidInput _ _ _)

variable {s : Scope} {t : ι → Scope}

theorem params_lift (hR : Lifting R) (h : ∀ path name, R (s.typeOf path name) fun i => (t i).typeOf path name)
    (path : List String) (ps : List FieldDecl) : R (s.params path ps) fun i => (t i).params path ps := by
  induction ps with
  | nil => exact hR.pure _
  | cons p ps ih =>
    simp only [params, invalid]
    exact hR.guard (.invalidInput _ _ _) (hR.bind (declarableAt_lift hR _ _ fun e _ => h _ _) fun u => hR.bind ih fun rest => hR.pure _)

/-- Look-ups that are related everywhere give related interfaces. -/
theorem interface_lift (hR : Lifting R) (h : ∀ path name, R (s.typeOf path name) fun i => (t i).typeOf path name)
    (decl : InterfaceDecl) : R (s.interface decl) fun i => (t i).interface decl := by
  refine hR.bind (hR.mapM (fun m => ?_) decl.methods) fun methods => hR.pure _
  simp only [method, invalid]
  exact hR.guard (.invalidInput _ _ _) (hR.bind (params_lift hR h _ _) fun args => hR.bind (params_lift hR h _ _) fun results => hR.pure _)

end Scope

end Schema

end Parcelgen

import Mathlib.Data.List.Forall2
import Parcelgen.Proofs.Package.Validate
import Parcelgen.Proofs.Schema.Lift

/-!
What resolution does, as a relation. Declarations are finished one after the other (`Steps`), each from the types of declarations that were
finished before it, so a type can be described by a lookup that only reads the finished ones (`Scope.known`). A successful run of the
resolver is such a list of steps (`lookup_tracks`, `resolution_of_resolve`), and properties of resolved types follow by induction over it.
-/

namespace Parcelgen.Schema

namespace Resolving

variable {α β : Type}

theorem run_bind_eq_ok_iff {x : Resolving α} {k : α → Resolving β} {fin last : Finished} {b : β} :
    (x >>= k).run fin = .ok (b, last) ↔ ∃ a mid, x.run fin = .ok (a, mid) ∧ (k a).run mid = .ok (b, last) := by
  rw [StateT.run_bind]
  cases x.run fin with
  | error f => simp [bind, Except.bind]
  | ok r =>
    constructor
    · exact fun h => ⟨r.1, r.2, rfl, h⟩
    · rintro ⟨a, mid, hr, h⟩
      cases hr
      exact h

/-- The computation has the result `a` and finishes nothing. -/
def Gives (x : Resolving α) (a : α) : Prop := ∀ fin, x.run fin = .ok (a, fin)

theorem Gives.pure (a : α) : Gives (pure a) a := fun _ => rfl

theorem Gives.bind {x : Resolving α} {k : α → Resolving β} {a : α} {b : β} (hx : Gives x a) (hk : Gives (k a) b) :
    Gives (x >>= k) b :=
  fun fin => run_bind_eq_ok_iff.mpr ⟨a, fin, hx fin, hk fin⟩

/-- Whatever the computation starts from, its result satisfies `P`. -/
def Yields (x : Resolving α) (P : α → Prop) : Prop := ∀ fin a last, x.run fin = .ok (a, last) → P a

namespace Yields

variable {x : Resolving α} {k : α → Resolving β} {P : α → Prop} {Q : β → Prop}

theorem pure {a : α} (h : P a) : Yields (Pure.pure a) P := by
  intro fin b last hrun
  cases hrun
  exact h

theorem throw (f : Fault) : Yields (MonadExcept.throw f) P := by
  intro fin b last hrun
  cases hrun

theorem bind (hx : Yields x P) (hk : ∀ a, P a → Yields (k a) Q) : Yields (x >>= k) Q := by
  intro fin b last hrun
  obtain ⟨a, mid, hxrun, hkrun⟩ := run_bind_eq_ok_iff.mp hrun
  exact hk a (hx fin a mid hxrun) mid b last hkrun

theorem guard {c : Prop} [Decidable c] {f : Fault} {k : PUnit → Resolving α} (hk : ¬ c → Yields (k ()) P) :
    Yields (if c then MonadExcept.throw f >>= k else k ()) P := by
  split
  · exact .bind (.throw f) fun _ (h : False) => h.elim
  · rename_i hc
    exact hk hc

theorem of_gives {a : α} (hx : Yields x P) (h : Gives x a) : P a := hx [] a [] (h [])

end Yields

end Resolving

open Resolving

namespace Scope

/-- The type of a name when exactly the declarations in `fin` are finished. -/
def meaning? (s : Scope) (fin : Finished) (name : String) : Option WireType :=
  match builtIn? name with
  | some t => some t
  | none =>
    match s.decl? name with
    | some _ => (fin.find? (·.1 == name)).map (·.2)
    | none => if s.interfaces.contains name then some (.interface (s.package.qualify name)) else none

/-- Looks a name up among finished declarations and resolves nothing. -/
def known (s : Scope) (fin : Finished) (path : List String) (name : String) : Resolving WireType :=
  match s.meaning? fin name with
  | some t => return t
  | none => throw (Fault.notFound .resolve path "type" name)

theorem known_gives {s : Scope} {fin : Finished} {name : String} {t : WireType} (path : List String) (h : s.meaning? fin name = some t) :
    Gives (s.known fin path name) t := by
  unfold known
  rw [h]
  exact .pure t

theorem builtIn?_cases {name : String} {t : WireType} (h : builtIn? name = some t) :
    (∃ scalar, Scalar.ofName? name = some scalar ∧ t = .scalar scalar) ∨ t = .string := by
  unfold builtIn? at h
  split at h
  · rename_i scalar hs
    cases h
    exact .inl ⟨scalar, hs, rfl⟩
  · split at h
    · cases h
      exact .inr rfl
    · cases h

/-- A name stands for a built-in type, a finished declaration or an interface. -/
theorem known_yields {s : Scope} {fin : Finished} {P : WireType → Prop} (hbuiltIn : ∀ name t, builtIn? name = some t → P t)
    (hfin : ∀ e ∈ fin, P e.2) (hinterface : ∀ name ∈ s.interfaces, P (.interface (s.package.qualify name))) (path : List String)
    (name : String) : Yields (s.known fin path name) P := by
  unfold known
  split
  · rename_i t ht
    refine .pure ?_
    unfold meaning? at ht
    split at ht
    · rename_i u hb
      cases ht
      exact hbuiltIn name t hb
    · split at ht
      · obtain ⟨e, he, rfl⟩ := Option.map_eq_some_iff.mp ht
        exact hfin e (List.mem_of_find?_eq_some he)
      · split at ht
        · rename_i hi
          cases ht
          exact hinterface name (by simpa using hi)
        · cases ht
  · exact .throw _

/-- Declarations outside `avoid` are finished one after the other, each new and of the type that the ones before it give. -/
inductive Steps (s : Scope) (avoid : List String) (start : Finished) : Finished → Prop
  | refl : Steps s avoid start start
  | snoc {fin : Finished} {name : String} {d : TypeDecl} {t : WireType} :
      Steps s avoid start fin → name ∉ avoid → builtIn? name = none → s.decl? name = some d → (∀ e ∈ fin, e.1 ≠ name) →
      Gives (s.declType (s.known fin) d) t → Steps s avoid start (fin ++ [(name, t)])

namespace Steps

variable {s : Scope} {avoid : List String} {a b c : Finished}

theorem trans (hab : Steps s avoid a b) (hbc : Steps s avoid b c) : Steps s avoid a c := by
  induction hbc with
  | refl => exact hab
  | snoc _ hn hb hd hnew ht ih => exact .snoc ih hn hb hd hnew ht

theorem isPrefix (h : Steps s avoid a b) : a <+: b := by
  induction h with
  | refl => exact List.prefix_rfl
  | snoc _ _ _ _ _ _ ih => exact ih.trans (List.prefix_append _ _)

theorem weaken {fewer : List String} (hsub : fewer ⊆ avoid) (h : Steps s avoid a b) : Steps s fewer a b := by
  induction h with
  | refl => exact .refl
  | snoc _ hn hb hd hnew ht ih => exact .snoc ih (fun hmem => hn (hsub hmem)) hb hd hnew ht

/-- What every new declaration has, because those finished before it have it, all of them have. -/
theorem forall_mem {P : String × WireType → Prop} (h : Steps s avoid a b) (ha : ∀ e ∈ a, P e)
    (hstep : ∀ fin name d t, (∀ e ∈ fin, P e) → name ∉ avoid → s.decl? name = some d → Gives (s.declType (s.known fin) d) t → P (name, t)) :
    ∀ e ∈ b, P e := by
  induction h with
  | refl => exact ha
  | @snoc fin name d t _ hn _ hd _ ht ih =>
    intro e he
    rcases List.mem_append.mp he with he | he
    · exact ih e he
    · rw [List.mem_singleton.mp he]
      exact hstep fin name d t ih hn hd ht

/-- A name that is avoided is not finished on the way. -/
theorem not_finished {name : String} (hname : name ∈ avoid) (h : Steps s avoid a b) (ha : ∀ e ∈ a, e.1 ≠ name) :
    ∀ e ∈ b, e.1 ≠ name := by
  refine h.forall_mem ha fun fin n d t _ hn _ _ => ?_
  rintro rfl
  exact hn hname

end Steps

/-- Runs of `x` that succeed finish declarations outside `avoid`, and from then on the result is as `Q` says, whatever else is finished
later. -/
def Reaches {α : Type} (s : Scope) (avoid : List String) (x : Resolving α) (Q : Finished → α → Prop) : Prop :=
  ∀ fin a last, x.run fin = .ok (a, last) → Steps s avoid fin last ∧ ∀ later, last <+: later → Q later a

namespace Reaches

variable {α β : Type} {s : Scope} {avoid : List String} {Q : Finished → α → Prop} {R : Finished → β → Prop}

theorem pure {a : α} (h : ∀ fin, Q fin a) : Reaches s avoid (Pure.pure a) Q := by
  intro fin b last hrun
  cases hrun
  exact ⟨.refl, fun later _ => h later⟩

theorem throw (f : Fault) : Reaches s avoid (MonadExcept.throw f) Q := by
  intro fin b last hrun
  cases hrun

theorem bind {x : Resolving α} {k : α → Resolving β} (hx : Reaches s avoid x Q)
    (hk : ∀ a, Reaches s avoid (k a) fun fin b => Q fin a → R fin b) : Reaches s avoid (x >>= k) R := by
  intro fin b last h
  obtain ⟨a, mid, hxrun, hkrun⟩ := run_bind_eq_ok_iff.mp h
  obtain ⟨hsteps, hq⟩ := hx fin a mid hxrun
  obtain ⟨hsteps', hr⟩ := hk a mid b last hkrun
  exact ⟨hsteps.trans hsteps', fun later hl => hr later hl (hq later (hsteps'.isPrefix.trans hl))⟩

theorem mono {x : Resolving α} {Q' : Finished → α → Prop} (h : Reaches s avoid x Q) (hq : ∀ fin a, Q fin a → Q' fin a) :
    Reaches s avoid x Q' := by
  intro fin a last hrun
  obtain ⟨hsteps, hlater⟩ := h fin a last hrun
  exact ⟨hsteps, fun later hl => hq later a (hlater later hl)⟩

/-- A check in front of a computation. -/
theorem guard {c : Prop} [Decidable c] {f : Fault} {k : PUnit → Resolving α} (hk : ¬ c → Reaches s avoid (k ()) Q) :
    Reaches s avoid (if c then MonadExcept.throw f >>= k else k ()) Q := by
  split
  · intro fin b last h
    obtain ⟨a, mid, hthrow, -⟩ := run_bind_eq_ok_iff.mp h
    cases hthrow
  · rename_i hc
    exact hk hc

theorem mapM {f : α → Resolving β} {P : Finished → α → β → Prop} (hf : ∀ a, Reaches s avoid (f a) fun fin b => P fin a b) (as : List α) :
    Reaches s avoid (as.mapM f) fun fin bs => List.Forall₂ (P fin) as bs := by
  induction as with
  | nil => exact .pure fun _ => .nil
  | cons a as ih =>
    rw [List.mapM_cons]
    exact .bind (hf a) fun b => .bind ih fun bs => .pure fun _ hbs hb => .cons hb hbs

end Reaches

/-- The results of `x` are those of `y`, which only reads the finished declarations. -/
def Tracks {α : Type} (s : Scope) (avoid : List String) (x : Resolving α) (y : Finished → Resolving α) : Prop :=
  Reaches s avoid x fun fin a => Gives (y fin) a

namespace Tracks

variable {α β : Type} {s : Scope} {avoid : List String}

theorem pure (a : α) : Tracks s avoid (Pure.pure a) fun _ => Pure.pure a := Reaches.pure fun _ => .pure a

theorem throw (f : Fault) (y : Finished → Resolving α) : Tracks s avoid (MonadExcept.throw f) y := Reaches.throw f

theorem bind {x : Resolving α} {y : Finished → Resolving α} {k : α → Resolving β} {l : Finished → α → Resolving β}
    (hx : Tracks s avoid x y) (hk : ∀ a, Tracks s avoid (k a) fun fin => l fin a) :
    Tracks s avoid (x >>= k) fun fin => y fin >>= l fin :=
  Reaches.bind hx fun a => (hk a).mono fun _ _ hl hy => hy.bind hl

theorem lifting (s : Scope) (avoid : List String) : Lifting fun x (y : Finished → _) => Tracks s avoid x y where
  pure := pure
  throw _ := throw _ _
  bind := bind

end Tracks

/-- What arrays and vectors of types with the property have as well. -/
structure Buildable (P : WireType → Prop) : Prop where
  array : ∀ t dim, P t → P (.array t dim)
  vector : ∀ t, P t → t.kind? ≠ some .array → P (.vector t)

/-- The type can stand in a declarator: it has one dimension at most. -/
def IsFlat (t : WireType) : Prop := ∀ elem dim inner, t ≠ .array (.array elem inner) dim

/-- The type `t` that a declaration gets when the names in it stand for types with the property `P`. -/
inductive DeclOf (s : Scope) (P : WireType → Prop) (d : TypeDecl) : WireType → Prop
  | struct {fields : List (String × WireType)} : d.kind = "struct" → fields.map (·.1) = d.fields.map (·.name) →
      (∀ f ∈ fields, P f.2 ∧ IsFlat f.2) → DeclOf s P d (.struct (s.package.qualify d.name) fields)
  | enum {storage : Scalar} {values : List (String × String)} : d.kind = "enum" → storage.isInteger = true →
      values.map (·.1) = d.values.map (·.name) → DeclOf s P d (.enum (s.package.qualify d.name) storage values)
  | typedef {t : WireType} : d.kind = "typedef" → P t → DeclOf s P d t

section

variable {P : WireType → Prop} {look : List String → String → Resolving WireType}

theorem arrays_of {t : WireType} (hP : Buildable P) (h : P t) (dims : List Text.Bytes) : P (build.arrays t dims) := by
  induction dims with
  | nil => exact h
  | cons dim dims ih => exact hP.array _ _ ih

theorem build_yields (hP : Buildable P) {look : String → Resolving WireType} (hlook : ∀ name, Yields (look name) P) :
    ∀ e : TypeExpr, Yields (build look e) P
  | .name ident dims => by
    simp only [build]
    exact .bind (hlook _) fun t ht => .pure (arrays_of hP ht dims)
  | .vector elem dims => by
    simp only [build]
    exact .bind (build_yields hP hlook elem) fun t ht => .guard fun hk => .pure (arrays_of hP (hP.vector t ht (by simpa using hk)) dims)

theorem typeAt_yields (hP : Buildable P) (hlook : ∀ path name, Yields (look path name) P) (path : List String) (src : String) :
    Yields (typeAt look path src) P := by
  unfold typeAt
  cases TypeExpr.ofText src with
  | ok e => exact build_yields hP (hlook path) e
  | error f => exact .throw _

theorem declarableAt_yields (hP : Buildable P) (hlook : ∀ path name, Yields (look path name) P) (path : List String) (src : String) :
    Yields (declarableAt look path src) fun t => P t ∧ IsFlat t := by
  unfold declarableAt
  refine .bind (typeAt_yields hP hlook path src) fun t ht => ?_
  split
  · exact .throw _
  · rename_i hflat
    exact .pure ⟨ht, fun elem dim inner h => hflat elem inner dim h⟩

theorem members_yields (hP : Buildable P) (hlook : ∀ path name, Yields (look path name) P) (path seen : List String)
    (fs : List FieldDecl) : Yields (members look path seen fs) fun ms =>
      ms.map (·.1) = fs.map (·.name) ∧ ∀ m ∈ ms, P m.2 ∧ IsFlat m.2 := by
  induction fs generalizing seen with
  | nil => exact .pure ⟨rfl, by simp⟩
  | cons f fs ih =>
    simp only [members, invalid]
    refine .guard fun _ => .guard fun _ => .bind (declarableAt_yields hP hlook _ _) fun t ht => .bind (ih _) fun ms hms => .pure ?_
    exact ⟨by simp [hms.1], List.forall_mem_cons.mpr ⟨ht, hms.2⟩⟩

theorem enumerators_yields (path seen : List String) (vs : List ValueDecl) :
    Yields (enumerators path seen vs) fun values => values.map (·.1) = vs.map (·.name) := by
  induction vs generalizing seen with
  | nil => exact .pure rfl
  | cons v vs ih =>
    simp only [enumerators, invalid]
    exact .guard fun _ => .guard fun _ => .bind (ih _) fun values hvalues => .pure (by simp [hvalues])

theorem declType_yields (s : Scope) (hP : Buildable P) (hlook : ∀ path name, Yields (look path name) P) (d : TypeDecl) :
    Yields (s.declType look d) (s.DeclOf P d) := by
  unfold declType
  split
  · rename_i hk
    exact .bind (members_yields hP hlook _ _ _) fun fields hf => .pure (.struct hk hf.1 hf.2)
  · rename_i hk
    dsimp only [enumType]
    cases hs : Option.filter Scalar.isInteger (Scalar.ofName? (if d.storage == "" then "uint32" else d.storage)) with
    | none => exact .throw _
    | some storage =>
      exact .bind (enumerators_yields _ _ _) fun values hv => .pure (.enum hk (Option.filter_eq_some_iff.mp hs).2 hv)
  · rename_i hk
    exact fun fin t last h => .typedef hk (typeAt_yields hP hlook _ _ fin t last h)
  · exact .throw _

end

theorem meaning?_of_find? {s : Scope} {fin : Finished} {name : String} {t : WireType} {d : TypeDecl} (hb : builtIn? name = none)
    (hd : s.decl? name = some d) (h : fin.find? (·.1 == name) = some (name, t)) {later : Finished} (hl : fin <+: later) :
    s.meaning? later name = some t := by
  obtain ⟨more, rfl⟩ := hl
  simp [meaning?, hb, hd, List.find?_append, h]

/-- Finishing a declaration: the declarations it needs are finished first, none of them its own. -/
theorem finish_steps {s : Scope} {chain : List String} {name : String} {d : TypeDecl} {look : List String → String → Resolving WireType}
    (hlook : ∀ path n, Tracks s (chain ++ [name]) (look path n) fun fin => s.known fin path n) (hb : builtIn? name = none)
    (hd : s.decl? name = some d) (hchain : name ∉ chain) {fin last : Finished} (hfin : ∀ e ∈ fin, e.1 ≠ name) {t : WireType}
    (h : (do
      let t ← s.declType look d
      modify (· ++ [(name, t)])
      return t : Resolving WireType).run fin = .ok (t, last)) :
    Steps s chain fin last ∧ ∀ later, last <+: later → s.meaning? later name = some t := by
  obtain ⟨u, mid, htype, h⟩ := run_bind_eq_ok_iff.mp h
  cases h
  obtain ⟨hsteps, hgives⟩ := declType_lift (Tracks.lifting s _) s d (fun n _ path => hlook path n) fin t mid htype
  have hmid : ∀ e ∈ mid, e.1 ≠ name := hsteps.not_finished (by simp) hfin
  have hfind : (mid ++ [(name, t)]).find? (·.1 == name) = some (name, t) := by
    rw [List.find?_append, List.find?_eq_none.mpr (by simpa using hmid)]
    simp
  refine ⟨.snoc (hsteps.weaken (List.subset_append_left _ _)) hchain hb hd hmid (hgives mid List.prefix_rfl), fun later hl => ?_⟩
  exact meaning?_of_find? hb hd hfind hl

/-- Looking a name up is the same as finishing what it needs and then reading it among the finished declarations. -/
theorem lookup_tracks (s : Scope) (fuel : Nat) (chain path : List String) (name : String) :
    Tracks s chain (s.lookup fuel chain path name) fun fin => s.known fin path name := by
  unfold lookup
  split
  · rename_i t hb
    intro fin u last h
    cases h
    exact ⟨.refl, fun later _ => known_gives path (by simp [meaning?, hb])⟩
  · rename_i hb
    split
    · rename_i d hd
      intro fin u last h
      obtain ⟨cur, mid, hget, h⟩ := run_bind_eq_ok_iff.mp h
      cases hget
      split at h
      · rename_i n t hfind
        cases h
        obtain rfl : n = name := by simpa using List.find?_some hfind
        exact ⟨.refl, fun later hl => known_gives path (meaning?_of_find? hb hd hfind hl)⟩
      · rename_i hfind
        have hfin : ∀ e ∈ fin, e.1 ≠ name := by simpa using hfind
        dsimp only at h
        by_cases hchain : chain.contains name = true
        · rw [if_pos hchain] at h
          obtain ⟨a, mid, hthrow, -⟩ := run_bind_eq_ok_iff.mp h
          cases hthrow
        · rw [if_neg hchain] at h
          cases fuel with
          | zero => cases h
          | succ fuel =>
            obtain ⟨hsteps, hmeaning⟩ := finish_steps (fun path n => lookup_tracks s fuel (chain ++ [name]) path n) hb hd
              (by simpa using hchain) hfin h
            exact ⟨hsteps, fun later hl => known_gives path (hmeaning later hl)⟩
    · rename_i hd
      split
      · rename_i hi
        intro fin u last h
        cases h
        exact ⟨.refl, fun later _ => known_gives path (by simpa [meaning?, hb, hd] using hi)⟩
      · exact .throw _ _
termination_by fuel

theorem meaning?_of_known_gives {s : Scope} {fin : Finished} {path : List String} {name : String} {t : WireType}
    (h : Gives (s.known fin path name) t) : s.meaning? fin name = some t := by
  have hrun := h []
  unfold known at hrun
  split at hrun
  · rename_i u hu
    cases hrun
    exact hu
  · cases hrun

/-- The parameter that a declaration describes when the declarations in `fin` are finished. -/
structure ParamOf (s : Scope) (fin : Finished) (f : FieldDecl) (p : Param) : Prop where
  name : p.name = f.name
  type : ∃ path, Gives (declarableAt (s.known fin) path f.type) p.type

structure MethodOf (s : Scope) (fin : Finished) (decl : MethodDecl) (m : Method) : Prop where
  name : m.name = decl.name
  oneway : m.oneway = decl.oneway
  args : List.Forall₂ (s.ParamOf fin) decl.args m.args
  results : List.Forall₂ (s.ParamOf fin) decl.results m.results

structure InterfaceOf (s : Scope) (fin : Finished) (decl : InterfaceDecl) (i : Interface) : Prop where
  name : i.name = decl.name
  methods : List.Forall₂ (s.MethodOf fin) decl.methods i.methods

theorem params_reaches (s : Scope) (path : List String) (ps : List FieldDecl) :
    Reaches s [] (s.params path ps) fun fin params => List.Forall₂ (s.ParamOf fin) ps params := by
  induction ps with
  | nil => exact .pure fun _ => .nil
  | cons p ps ih =>
    have htype : Tracks s [] (declarableAt s.typeOf (path ++ [p.name]) p.type) fun fin =>
        declarableAt (s.known fin) (path ++ [p.name]) p.type :=
      declarableAt_lift (Tracks.lifting s []) _ _ fun e _ => s.lookup_tracks s.decls.length [] _ e.base
    simp only [params, invalid]
    exact .guard fun _ => Reaches.bind htype fun t => .bind ih fun rest => .pure fun _ hrest ht => .cons ⟨rfl, _, ht⟩ hrest

theorem method_reaches (s : Scope) (path : List String) (m : MethodDecl) :
    Reaches s [] (s.method path m) fun fin method => s.MethodOf fin m method := by
  simp only [method, invalid]
  exact .guard fun _ => .bind (s.params_reaches _ _) fun args => .bind (s.params_reaches _ _) fun results =>
    .pure fun _ hresults hargs => ⟨rfl, rfl, hargs, hresults⟩

theorem interface_reaches (s : Scope) (i : InterfaceDecl) :
    Reaches s [] (s.interface i) fun fin interface => s.InterfaceOf fin i interface :=
  .bind (.mapM (fun m => s.method_reaches _ m) i.methods) fun _ => .pure fun _ hmethods => ⟨rfl, hmethods⟩

/-- After all names have been looked up, each of them has a type. -/
theorem typesOf_reaches (s : Scope) (ds : List TypeDecl) :
    Reaches s [] (forIn ds PUnit.unit fun d _ => do
        let _ ← s.typeOf [] d.name
        return ForInStep.yield PUnit.unit) fun fin _ => ∀ d ∈ ds, ∃ t, s.meaning? fin d.name = some t := by
  induction ds with
  | nil => exact .pure fun _ => by simp
  | cons d ds ih =>
    rw [List.forIn_cons]
    have hname : Tracks s [] (s.typeOf [] d.name) fun fin => s.known fin [] d.name := s.lookup_tracks _ [] [] d.name
    simp only [bind_assoc, pure_bind]
    exact Reaches.bind hname fun t => ih.mono fun fin _ hds hd =>
      List.forall_mem_cons.mpr ⟨⟨t, meaning?_of_known_gives hd⟩, hds⟩

end Scope

/-- How a document becomes a package: the finished declarations, and what follows from them. -/
structure Resolution (doc : Document) (fin : Finished) (p : Package) : Prop where
  names : doc.checkNames = .ok ()
  steps : doc.scope.Steps [] [] fin
  types : ∀ d ∈ doc.types, ∃ t, doc.scope.meaning? fin d.name = some t
  interfaces : List.Forall₂ (doc.scope.InterfaceOf fin) doc.interfaces p.interfaces
  package : p = { doc.scope.package with types := doc.declared fin, interfaces := p.interfaces }
  valid : p.validate {} = .ok ()

theorem Document.resolve_eq_ok_iff {doc : Document} {p : Package} :
    doc.resolve = .ok p ↔ doc.checkNames = .ok () ∧ ∃ interfaces fin, doc.resolveAll.run [] = .ok (interfaces, fin) ∧
      p = { doc.scope.package with types := doc.declared fin, interfaces } ∧ p.validate {} = .ok () := by
  unfold resolve
  cases hnames : doc.checkNames with
  | error f => simp [bind, Except.bind]
  | ok u =>
    cases hall : (doc.resolveAll).run [] with
    | error f => simp [bind, Except.bind]
    | ok r =>
      constructor
      · intro h
        simp only [bind, Except.bind] at h
        split at h
        · cases h
        · rename_i hvalid
          cases h
          exact ⟨rfl, r.1, r.2, rfl, rfl, hvalid⟩
      · rintro ⟨-, interfaces, fin, hr, rfl, hvalid⟩
        cases hr
        simp only [bind, Except.bind, hvalid]
        rfl

theorem Document.run_of_resolve {doc : Document} {p : Package} (h : doc.resolve = .ok p) :
    ∃ fin, doc.resolveAll.run [] = .ok (p.interfaces, fin) ∧ Resolution doc fin p := by
  obtain ⟨hnames, interfaces, fin, hall, rfl, hvalid⟩ := resolve_eq_ok_iff.mp h
  have hreach : doc.scope.Reaches [] doc.resolveAll fun fin interfaces =>
      (∀ d ∈ doc.types, ∃ t, doc.scope.meaning? fin d.name = some t) ∧
        List.Forall₂ (doc.scope.InterfaceOf fin) doc.interfaces interfaces :=
    .bind (doc.scope.typesOf_reaches doc.types) fun _ =>
      (Scope.Reaches.mapM (fun i => doc.scope.interface_reaches i) doc.interfaces).mono fun _ _ hi ht => ⟨ht, hi⟩
  obtain ⟨hsteps, hlater⟩ := hreach [] interfaces fin hall
  obtain ⟨htypes, hinterfaces⟩ := hlater fin List.prefix_rfl
  exact ⟨fin, hall, hnames, hsteps, htypes, hinterfaces, rfl, hvalid⟩

theorem Document.resolution_of_resolve {doc : Document} {p : Package} (h : doc.resolve = .ok p) : ∃ fin, Resolution doc fin p := by
  obtain ⟨fin, -, hres⟩ := run_of_resolve h
  exact ⟨fin, hres⟩

namespace Document

theorem checkTypes_eq_ok_iff (seen : List String) (ds : List TypeDecl) :
    checkTypes seen ds = .ok () ↔
      (∀ d ∈ ds, Text.isIdentifier d.name = true ∧ isBuiltIn d.name = false) ∧ Package.Unseen seen (ds.map (·.name)) := by
  induction ds generalizing seen with
  | nil => simp [checkTypes, Package.unseen_nil]
  | cons d ds ih =>
    rw [List.map_cons, Package.unseen_cons, List.forall_mem_cons]
    unfold checkTypes
    by_cases hi : Text.isIdentifier d.name = true
    · by_cases hb : isBuiltIn d.name = true
      · simp [hi, hb, throw, throwThe, MonadExceptOf.throw, bind, Except.bind]
      · by_cases hs : d.name ∈ seen
        · simp [hi, hb, hs, throw, throwThe, MonadExceptOf.throw, bind, Except.bind]
        · simp [hi, hb, hs, ih]
    · simp [hi, throw, throwThe, MonadExceptOf.throw, bind, Except.bind]

theorem checkInterfaces_eq_ok_iff (seen : List String) (is : List InterfaceDecl) :
    checkInterfaces seen is = .ok () ↔
      (∀ i ∈ is, Text.isIdentifier i.name = true) ∧ Package.Unseen seen (is.map (·.name)) := by
  induction is generalizing seen with
  | nil => simp [checkInterfaces, Package.unseen_nil]
  | cons i is ih =>
    rw [List.map_cons, Package.unseen_cons, List.forall_mem_cons]
    unfold checkInterfaces
    by_cases hi : Text.isIdentifier i.name = true
    · by_cases hs : i.name ∈ seen
      · simp [hi, hs, throw, throwThe, MonadExceptOf.throw, bind, Except.bind]
      · simp [hi, hs, ih]
    · simp [hi, throw, throwThe, MonadExceptOf.throw, bind, Except.bind]

theorem checkNames_eq_ok_iff {doc : Document} :
    doc.checkNames = .ok () ↔ Text.isIdentifier doc.package = true ∧ (spaceParts doc.space).all Text.isIdentifier = true ∧
      checkTypes [] doc.types = .ok () ∧ checkInterfaces (doc.types.map (·.name)) doc.interfaces = .ok () := by
  unfold checkNames
  by_cases hp : Text.isIdentifier doc.package = true
  · by_cases hs : (spaceParts doc.space).all Text.isIdentifier = true
    · cases hc : checkTypes [] doc.types with
      | error f => simp [hp, hs, bind, Except.bind]
      | ok u => simp [hp, hs, bind, Except.bind]
    · simp [hp, hs, throw, throwThe, MonadExceptOf.throw, bind, Except.bind]
  · simp [hp, throw, throwThe, MonadExceptOf.throw, bind, Except.bind]

end Document

theorem builtIn?_of_isBuiltIn {name : String} (h : isBuiltIn name = false) : Scope.builtIn? name = none := by
  simp only [isBuiltIn, Bool.or_eq_false_iff, Option.isSome_eq_false_iff, Option.isNone_iff_eq_none] at h
  simp [Scope.builtIn?, h.1.1, h.1.2]

theorem exists_of_mem_forall₂ {α β : Type} {R : α → β → Prop} {as : List α} {bs : List β} (h : List.Forall₂ R as bs) {b : β}
    (hb : b ∈ bs) : ∃ a ∈ as, R a b := by
  induction h with
  | nil => cases hb
  | @cons a c as bs hac _ ih =>
    rcases List.mem_cons.mp hb with rfl | hb
    · exact ⟨a, List.mem_cons_self, hac⟩
    · obtain ⟨a', ha', hr⟩ := ih hb
      exact ⟨a', List.mem_cons_of_mem a ha', hr⟩

/-- Every parameter of the package is described by a declaration of the document. -/
theorem Resolution.exists_paramOf {doc : Document} {fin : Finished} {p : Package} (h : Resolution doc fin p) {i : Interface}
    (hi : i ∈ p.interfaces) {m : Method} (hm : m ∈ i.methods) {q : Param} (hq : q ∈ m.args ++ m.results) :
    ∃ f, doc.scope.ParamOf fin f q := by
  obtain ⟨i', -, hi'⟩ := exists_of_mem_forall₂ h.interfaces hi
  obtain ⟨m', -, hm'⟩ := exists_of_mem_forall₂ hi'.methods hm
  rcases List.mem_append.mp hq with hq | hq
  · obtain ⟨f, -, hf⟩ := exists_of_mem_forall₂ hm'.args hq
    exact ⟨f, hf⟩
  · obtain ⟨f, -, hf⟩ := exists_of_mem_forall₂ hm'.results hq
    exact ⟨f, hf⟩

/-- The types of the package are the finished declarations that are no typedefs. -/
theorem Document.mem_declared {doc : Document} {fin : Finished} {t : WireType} :
    t ∈ doc.declared fin ↔ ∃ name d, (name, t) ∈ fin ∧ doc.scope.decl? name = some d ∧ d.kind ≠ "typedef" := by
  unfold declared
  rw [List.mem_filterMap]
  constructor
  · rintro ⟨⟨name, u⟩, hmem, h⟩
    dsimp only at h
    split at h
    · rename_i d hd
      split at h
      · cases h
      · rename_i hk
        cases h
        exact ⟨name, d, hmem, hd, by simpa using hk⟩
    · cases h
  · rintro ⟨name, d, hmem, hd, hk⟩
    exact ⟨(name, t), hmem, by simp [hd, hk]⟩

end Parcelgen.Schema

import Parcelgen.Proofs.Schema.Cycle
import Parcelgen.Proofs.Schema.Order

/-!
Where faults are found. Every fault of resolution carries a path but one: the refusal of a vector of arrays is thrown where the path is at hand and
not put in. The elements of such a vector are known to be an array only through the declarations that are finished at that moment, so faults are
followed along runs that start from steps (`Answers`), where a finished declaration is what its name stands for.
-/

namespace Parcelgen

/-- The vectors of an expression, from outside in. -/
def TypeExpr.vectors : TypeExpr → List TypeExpr
  | .name _ _ => []
  | .vector elem dims => .vector elem dims :: elem.vectors

namespace Schema

open Resolving

theorem Resolving.run_bind_eq_error_iff {α β : Type} {x : Resolving α} {k : α → Resolving β} {fin : Finished} {f : Fault} :
    (x >>= k).run fin = .error f ↔ x.run fin = .error f ∨ ∃ a mid, x.run fin = .ok (a, mid) ∧ (k a).run mid = .error f := by
  rw [StateT.run_bind]
  cases x.run fin with
  | error g => simp [bind, Except.bind]
  | ok r =>
    constructor
    · exact fun h => .inr ⟨r.1, r.2, rfl, h⟩
    · rintro (h | ⟨a, mid, hr, h⟩)
      · cases h
      · cases hr
        exact h

namespace Document

/-- The texts of all types in a document: of members and typedefs, and of parameters. -/
def texts (doc : Document) : List String :=
  doc.types.flatMap (·.texts) ++ doc.interfaces.flatMap fun i => i.methods.flatMap fun m => (m.args ++ m.results).map (·.type)

theorem mem_texts_of_decl {doc : Document} {d : TypeDecl} (hd : d ∈ doc.types) {src : String} (h : src ∈ d.texts) : src ∈ doc.texts :=
  List.mem_append_left _ (List.mem_flatMap.mpr ⟨d, hd, h⟩)

theorem mem_texts_of_param {doc : Document} {i : InterfaceDecl} (hi : i ∈ doc.interfaces) {m : MethodDecl} (hm : m ∈ i.methods) {f : FieldDecl}
    (hf : f ∈ m.args ++ m.results) : f.type ∈ doc.texts :=
  List.mem_append_right _ (List.mem_flatMap.mpr ⟨i, hi, List.mem_flatMap.mpr ⟨m, hm, List.mem_map_of_mem hf⟩⟩)

/-- The expression stands for the type. -/
def Means (doc : Document) (e : TypeExpr) (t : WireType) : Prop := ∃ depth, e.subst (doc.scope.unfold depth) = some t

/-- The fault refuses a vector of the expression because its elements are arrays. -/
def Refuses (doc : Document) (e : TypeExpr) (f : Fault) : Prop :=
  ∃ elem dims inner dim, .vector elem dims ∈ e.vectors ∧ doc.Means elem (.array inner dim) ∧
    f = .unsupported .resolve ((Text.ofBytes? (TypeExpr.vector elem dims).text).getD "") "vector elements cannot be arrays"

/-- The fault is located, or it refuses a vector that is written in the document. -/
def Explains (doc : Document) (f : Fault) : Prop :=
  f.IsLocated ∨ ∃ src ∈ doc.texts, ∃ e, TypeExpr.ofText src = .ok e ∧ doc.Refuses e f

/-- From steps, the computation gets to further steps and a result that satisfies `P`, or to a fault that the document explains. -/
def Answers {α : Type} (doc : Document) (x : Resolving α) (P : α → Prop) : Prop :=
  ∀ fin, doc.scope.Steps [] [] fin →
    (∀ a last, x.run fin = .ok (a, last) → doc.scope.Steps [] [] last ∧ P a) ∧ ∀ f, x.run fin = .error f → doc.Explains f

namespace Answers

variable {α β : Type} {doc : Document} {x : Resolving α} {P : α → Prop} {R : β → Prop}

theorem pure {a : α} (h : P a) : doc.Answers (Pure.pure a) P := by
  refine fun fin hfin => ⟨fun b last hrun => ?_, fun f hrun => ?_⟩
  · cases hrun
    exact ⟨hfin, h⟩
  · cases hrun

theorem throw {f : Fault} (h : doc.Explains f) : doc.Answers (MonadExcept.throw f) P := by
  refine fun fin hfin => ⟨fun b last hrun => ?_, fun g hrun => ?_⟩
  · cases hrun
  · cases hrun
    exact h

theorem bind {k : α → Resolving β} (hx : doc.Answers x P) (hk : ∀ a, P a → doc.Answers (k a) R) : doc.Answers (x >>= k) R := by
  refine fun fin hfin => ⟨fun b last hrun => ?_, fun f hrun => ?_⟩
  · obtain ⟨a, mid, hxrun, hkrun⟩ := run_bind_eq_ok_iff.mp hrun
    obtain ⟨hmid, ha⟩ := (hx fin hfin).1 a mid hxrun
    exact (hk a ha mid hmid).1 b last hkrun
  · rcases run_bind_eq_error_iff.mp hrun with hxrun | ⟨a, mid, hxrun, hkrun⟩
    · exact (hx fin hfin).2 f hxrun
    · obtain ⟨hmid, ha⟩ := (hx fin hfin).1 a mid hxrun
      exact (hk a ha mid hmid).2 f hkrun

theorem mono {P' : α → Prop} (hx : doc.Answers x P) (h : ∀ a, P a → P' a) : doc.Answers x P' := by
  refine fun fin hfin => ⟨fun a last hrun => ?_, (hx fin hfin).2⟩
  obtain ⟨hlast, ha⟩ := (hx fin hfin).1 a last hrun
  exact ⟨hlast, h a ha⟩

/-- A check in front of a computation. -/
theorem guard {c : Prop} [Decidable c] {f : Fault} {k : PUnit → Resolving α} (hf : c → doc.Explains f) (hk : ¬ c → doc.Answers (k ()) P) :
    doc.Answers (if c then MonadExcept.throw f >>= k else k ()) P := by
  by_cases hc : c
  · rw [if_pos hc]
    exact .bind (.throw (P := fun _ => False) (hf hc)) fun _ h => h.elim
  · rw [if_neg hc]
    exact hk hc

theorem mapM {k : α → Resolving β} {as : List α} (hk : ∀ a ∈ as, doc.Answers (k a) fun _ => True) :
    doc.Answers (as.mapM k) fun _ => True := by
  induction as with
  | nil => exact .pure trivial
  | cons a as ih =>
    obtain ⟨ha, has⟩ := List.forall_mem_cons.mp hk
    rw [List.mapM_cons]
    exact .bind ha fun _ _ => .bind (ih has) fun _ _ => .pure trivial

end Answers

section

variable {doc : Document}

theorem build_answers {look : String → Resolving WireType} :
    ∀ e : TypeExpr, doc.Answers (look e.base) (doc.StandsFor e.base) → (∀ f, doc.Refuses e f → doc.Explains f) →
      doc.Answers (Scope.build look e) (doc.Means e)
  | .name ident dims, hlook, _ => by
    simp only [Scope.build]
    refine .bind hlook fun t ht => .pure ?_
    obtain ⟨depth, ht⟩ := ht
    exact ⟨depth, Option.map_eq_some_iff.mpr ⟨t, ht, rfl⟩⟩
  | .vector elem dims, hlook, hrefuse => by
    have hinner : ∀ f, doc.Refuses elem f → doc.Explains f := by
      rintro f ⟨elem', dims', inner, dim, hmem, hf⟩
      exact hrefuse f ⟨elem', dims', inner, dim, .tail _ hmem, hf⟩
    simp only [Scope.build]
    refine .bind (build_answers elem hlook hinner) fun t ht => .guard (fun harray => ?_) fun _ => .pure ?_
    · cases t with
      | array inner dim => exact hrefuse _ ⟨elem, dims, inner, dim, .head _, ht, rfl⟩
      | absent | scalar | string | vector | struct | enum | interface => cases harray
    · obtain ⟨depth, ht⟩ := ht
      exact ⟨depth, Option.map_eq_some_iff.mpr ⟨t, ht, rfl⟩⟩

/-- Look-ups at a place end in what their names stand for. -/
def Finds (doc : Document) (look : List String → String → Resolving WireType) : Prop :=
  ∀ path name, path ≠ [] → doc.Answers (look path name) (doc.StandsFor name)

variable {look : List String → String → Resolving WireType} {path : List String}

theorem typeAt_answers (hlook : doc.Finds look) (hpath : path ≠ []) {src : String} (hsrc : src ∈ doc.texts) :
    doc.Answers (Scope.typeAt look path src) fun _ => True := by
  unfold Scope.typeAt
  cases he : TypeExpr.ofText src with
  | error f => exact .throw (.inl (.within f hpath))
  | ok e => exact (build_answers e (hlook path e.base hpath) fun f hf => .inr ⟨src, hsrc, e, he, hf⟩).mono fun _ _ => trivial

theorem declarableAt_answers (hlook : doc.Finds look) (hpath : path ≠ []) {src : String} (hsrc : src ∈ doc.texts) :
    doc.Answers (Scope.declarableAt look path src) fun _ => True := by
  unfold Scope.declarableAt
  refine .bind (typeAt_answers hlook hpath hsrc) fun t _ => ?_
  split
  · exact .throw (.inl (.within _ hpath))
  · exact .pure trivial

theorem members_answers (hlook : doc.Finds look) (hpath : path ≠ []) (seen : List String) {fs : List FieldDecl}
    (hfs : ∀ f ∈ fs, f.type ∈ doc.texts) : doc.Answers (Scope.members look path seen fs) fun _ => True := by
  induction fs generalizing seen with
  | nil => exact .pure trivial
  | cons f fs ih =>
    obtain ⟨hf, hfs⟩ := List.forall_mem_cons.mp hfs
    simp only [Scope.members, Scope.invalid]
    refine .guard (fun _ => .inl (.invalidInput _ (by simp) _)) fun _ => .guard (fun _ => .inl (.duplicate _ hpath _ _)) fun _ => ?_
    exact .bind (declarableAt_answers hlook (by simp) hf) fun _ _ => .bind (ih _ hfs) fun _ _ => .pure trivial

theorem enumerators_answers (hpath : path ≠ []) (seen : List String) (vs : List ValueDecl) :
    doc.Answers (Scope.enumerators path seen vs) fun _ => True := by
  induction vs generalizing seen with
  | nil => exact .pure trivial
  | cons v vs ih =>
    simp only [Scope.enumerators, Scope.invalid]
    refine .guard (fun _ => .inl (.invalidInput _ (by simp) _)) fun _ => .guard (fun _ => .inl (.duplicate _ hpath _ _)) fun _ => ?_
    exact .bind (ih _) fun _ _ => .pure trivial

theorem declType_answers (hlook : doc.Finds look) {d : TypeDecl} (hd : d ∈ doc.types) :
    doc.Answers (doc.scope.declType look d) fun _ => True := by
  have htexts : ∀ src ∈ d.texts, src ∈ doc.texts := fun src => mem_texts_of_decl hd
  unfold Scope.declType
  split
  · rename_i hk
    refine .bind (members_answers hlook (by simp) _ fun f hf => htexts _ ?_) fun _ _ => .pure trivial
    simpa [TypeDecl.texts, hk] using ⟨f, hf, rfl⟩
  · dsimp only [Scope.enumType]
    cases Option.filter Scalar.isInteger (Scalar.ofName? (if d.storage == "" then "uint32" else d.storage)) with
    | none => exact .throw (.inl (.invalidInput _ (by simp) _))
    | some storage => exact .bind (enumerators_answers (by simp) _ _) fun _ _ => .pure trivial
  · rename_i hk
    exact typeAt_answers hlook (by simp) (htexts _ (by simp [TypeDecl.texts, hk]))
  · exact .throw (.inl (.invalidInput _ (by simp) _))

/-- A look-up that succeeds finishes declarations and ends in what the name stands for. -/
theorem lookup_stands {fuel : Nat} {chain : List String} {name : String} {fin last : Finished} {t : WireType}
    (hfin : doc.scope.Steps [] [] fin) (h : (doc.scope.lookup fuel chain path name).run fin = .ok (t, last)) :
    doc.scope.Steps [] [] last ∧ doc.StandsFor name t := by
  obtain ⟨hsteps, hlater⟩ := doc.scope.lookup_tracks fuel chain path name fin t last h
  have hlast : doc.scope.Steps [] [] last := hfin.trans (hsteps.weaken (List.nil_subset _))
  obtain ⟨depth, hdepth⟩ := hlast.unfold
  exact ⟨hlast, depth, Scope.unfold_of_meaning? hdepth (Scope.meaning?_of_known_gives (hlater last List.prefix_rfl))⟩

/-- The faults of a look-up: a name inside its own declaration, what is wrong with the declaration, and a name that is not there, which is looked
up at a place. -/
theorem lookup_explains {fuel : Nat} {chain : List String} {name : String} (hpath : path = [] → ∃ d, doc.scope.decl? name = some d)
    (hlook : ∀ rest, fuel = rest + 1 → doc.Finds (doc.scope.lookup rest (chain ++ [name]))) {fin : Finished} {f : Fault}
    (hfin : doc.scope.Steps [] [] fin) (h : (doc.scope.lookup fuel chain path name).run fin = .error f) : doc.Explains f := by
  have hcycle : ∀ front, (Fault.cycle .resolve (front ++ [name])).IsLocated := fun front => by simp [Fault.IsLocated, Fault.cycle]
  unfold Scope.lookup at h
  split at h
  · cases h
  split at h
  · rename_i d hd
    rcases run_bind_eq_error_iff.mp h with h | ⟨cur, mid, hget, h⟩
    · cases h
    cases hget
    split at h
    · cases h
    by_cases hc : name ∈ chain
    · simp only [List.contains_iff_mem, hc, if_true] at h
      cases h
      exact .inl (hcycle _)
    · simp only [List.contains_iff_mem, hc, if_false] at h
      cases fuel with
      | zero =>
        cases h
        exact .inl (hcycle _)
      | succ rest =>
        have hdecl := declType_answers (hlook rest rfl) (Scope.decl?_cases hd).1
        rcases run_bind_eq_error_iff.mp h with h | ⟨t, mid, -, h⟩
        · exact (hdecl fin hfin).2 f h
        · cases h
  · rename_i hd
    split at h
    · cases h
    · cases h
      refine .inl fun hempty => ?_
      obtain ⟨d, hdecl⟩ := hpath hempty
      rw [hd] at hdecl
      cases hdecl

/-- A look-up answers if the look-ups inside of the declaration find what they look for. -/
theorem lookup_step {fuel : Nat} {chain : List String} {name : String} (hpath : path = [] → ∃ d, doc.scope.decl? name = some d)
    (hlook : ∀ rest, fuel = rest + 1 → doc.Finds (doc.scope.lookup rest (chain ++ [name]))) :
    doc.Answers (doc.scope.lookup fuel chain path name) (doc.StandsFor name) :=
  fun _ hfin => ⟨fun _ _ h => lookup_stands hfin h, fun _ h => lookup_explains hpath hlook hfin h⟩

/-- Names are looked up at a place, or they are declared. The induction is on the declarations that may still come around the look-up: each is
resolved by look-ups at places of its own. -/
theorem lookup_answers (fuel : Nat) (chain path : List String) (name : String)
    (hpath : path = [] → ∃ d, doc.scope.decl? name = some d) : doc.Answers (doc.scope.lookup fuel chain path name) (doc.StandsFor name) := by
  induction fuel generalizing chain path name with
  | zero => exact lookup_step hpath fun rest hr => by cases hr
  | succ fuel ih =>
    refine lookup_step hpath fun rest hr path next hpath => ?_
    cases hr
    exact ih _ path next fun h => absurd h hpath

theorem typeOf_finds : doc.Finds doc.scope.typeOf := fun path name hpath => lookup_answers _ [] path name fun h => absurd h hpath

theorem params_answers (hpath : path ≠ []) {ps : List FieldDecl} (hps : ∀ p ∈ ps, p.type ∈ doc.texts) :
    doc.Answers (doc.scope.params path ps) fun _ => True := by
  induction ps with
  | nil => exact .pure trivial
  | cons p ps ih =>
    obtain ⟨hp, hps⟩ := List.forall_mem_cons.mp hps
    simp only [Scope.params, Scope.invalid]
    refine .guard (fun _ => .inl (.invalidInput _ hpath _)) fun _ => ?_
    exact .bind (declarableAt_answers typeOf_finds (by simp) hp) fun _ _ => .bind (ih hps) fun _ _ => .pure trivial

theorem interface_answers {i : InterfaceDecl} (hi : i ∈ doc.interfaces) : doc.Answers (doc.scope.interface i) fun _ => True := by
  refine .bind (.mapM fun m hm => ?_) fun _ _ => .pure trivial
  have htexts : ∀ f ∈ m.args ++ m.results, f.type ∈ doc.texts := fun f => mem_texts_of_param hi hm
  simp only [Scope.method, Scope.invalid]
  refine .guard (fun _ => .inl (.invalidInput _ (by simp) _)) fun _ => ?_
  refine .bind (params_answers (by simp) fun f hf => htexts f (List.mem_append_left _ hf)) fun _ _ => ?_
  exact .bind (params_answers (by simp) fun f hf => htexts f (List.mem_append_right _ hf)) fun _ _ => .pure trivial

theorem typesOf_answers (ds : List TypeDecl) (hds : ds ⊆ doc.types) :
    doc.Answers (forIn ds PUnit.unit fun d _ => do
      let _ ← doc.scope.typeOf [] d.name
      return ForInStep.yield PUnit.unit) fun _ => True := by
  induction ds with
  | nil => exact .pure trivial
  | cons d ds ih =>
    obtain ⟨hd, hds⟩ := List.cons_subset.mp hds
    have hdecl : ∃ d', doc.scope.decl? d.name = some d' := Option.isSome_iff_exists.mp (List.find?_isSome.mpr ⟨d, hd, by simp⟩)
    rw [List.forIn_cons]
    simp only [bind_assoc, pure_bind]
    exact .bind (lookup_answers _ [] [] d.name fun _ => hdecl) fun _ _ => ih hds

theorem resolveAll_answers (doc : Document) : doc.Answers doc.resolveAll fun _ => True :=
  .bind (typesOf_answers doc.types (List.Subset.refl _)) fun _ _ => .mapM fun _ hi => interface_answers hi

/-- What is declared is a struct or an enum. -/
theorem isNamedType_of_mem_declared {fin : Finished} (h : doc.scope.Steps [] [] fin) : ∀ t ∈ doc.declared fin, t.isNamedType = true := by
  intro t ht
  obtain ⟨name, d, hmem, hd, hk⟩ := mem_declared.mp ht
  obtain ⟨d', hd', hof⟩ := h.declOf (name, t) hmem
  obtain rfl : d = d' := Option.some.inj (hd.symm.trans hd')
  cases hof with
  | struct | enum => rfl
  | typedef htypedef => exact absurd htypedef hk

/-- A document is refused for its names, for a declaration or an interface, or for what they come to as a package. -/
theorem resolve_eq_error_cases {f : Fault} (h : doc.resolve = .error f) :
    doc.checkNames = .error f ∨ doc.checkNames = .ok () ∧ (doc.resolveAll.run [] = .error f ∨
      ∃ interfaces fin, doc.resolveAll.run [] = .ok (interfaces, fin) ∧
        ({ doc.scope.package with types := doc.declared fin, interfaces } : Package).validate {} = .error f) := by
  unfold resolve at h
  cases hnames : doc.checkNames with
  | error g =>
    rw [hnames] at h
    cases h
    exact .inl rfl
  | ok u =>
    rw [hnames] at h
    refine .inr ⟨rfl, ?_⟩
    cases hall : (doc.resolveAll).run [] with
    | error g =>
      simp only [hall] at h
      cases h
      exact .inl rfl
    | ok r =>
      refine .inr ⟨r.1, r.2, rfl, ?_⟩
      simp only [hall, bind, Except.bind] at h
      split at h
      · rename_i hvalid
        cases h
        exact hvalid
      · cases h

theorem resolve_explains {f : Fault} (h : doc.resolve = .error f) : doc.Explains f := by
  obtain ⟨hok, herror⟩ := doc.resolveAll_answers [] .refl
  rcases resolve_eq_error_cases h with hnames | ⟨hnames, hall | ⟨interfaces, fin, hall, hvalid⟩⟩
  · exact .inl (doc.checkNames_fails f hnames).2
  · exact herror f hall
  · have hname : doc.package ≠ "" := by
      intro hempty
      have hidentifier := (checkNames_eq_ok_iff.mp hnames).1
      rw [hempty] at hidentifier
      cases hidentifier
    have hsteps := (hok interfaces fin hall).1
    exact .inl ((Package.validate_fails {} _ f hvalid).2 hname (isNamedType_of_mem_declared hsteps))

end

end Document

/-- A document is refused at a place, except for a vector of arrays: a refusal has no path exactly when it is for a vector, in one of the texts of the
document, whose elements stand for an array. -/
theorem resolve_locates_faults (doc : Document) (f : Fault) (h : doc.resolve = .error f) :
    f.path = [] ↔ ∃ src ∈ doc.texts, ∃ e, TypeExpr.ofText src = .ok e ∧ doc.Refuses e f := by
  constructor
  · intro hempty
    rcases Document.resolve_explains h with hlocated | hrefuses
    · exact absurd hempty hlocated
    · exact hrefuses
  · rintro ⟨src, -, e, -, elem, dims, inner, dim, -, -, rfl⟩
    rfl

/-- Vectors whose elements are no arrays, next to an array that the fault is found in. -/
theorem resolve_locates_faults_table :
    let doc : Document := {
      package := "table"
      types := [
        { name := "Row", kind := "struct", fields := [⟨"cells", "vec<vec<uint8>>[4]"⟩] },
        { name := "Table", kind := "struct", fields := [⟨"rows", "vec<Row>"⟩, ⟨"last", "vec<Missing>[2]"⟩] }] }
    ∃ f, doc.resolve = .error f ∧ f.path = ["types", "Table", "last"] ∧
      ¬ ∃ src ∈ doc.texts, ∃ e, TypeExpr.ofText src = .ok e ∧ doc.Refuses e f := by
  intro doc
  have hfault : (match doc.resolve with
      | .error f => f.path == ["types", "Table", "last"]
      | .ok _ => false) = true := by decide +kernel
  cases hdoc : doc.resolve with
  | ok p => simp [hdoc] at hfault
  | error f =>
    have hpath : f.path = ["types", "Table", "last"] := by simpa [hdoc] using hfault
    refine ⟨f, rfl, hpath, fun hrefuses => ?_⟩
    rw [(resolve_locates_faults doc f hdoc).mpr hrefuses] at hpath
    cases hpath

/-- A vector of arrays is refused without a word on where it stands. -/
theorem vector_of_arrays_unlocated :
    let doc : Document := { package := "p", types := [{ name := "S", kind := "struct", fields := [⟨"f", "vec<uint8[3]>"⟩] }] }
    ∃ f, doc.resolve = .error f ∧ f.message = "[resolve] unsupported: type vec<uint8[3]> - vector elements cannot be arrays" ∧ f.path = [] := by
  intro doc
  have hfault : (match doc.resolve with
      | .error f => f.message == "[resolve] unsupported: type vec<uint8[3]> - vector elements cannot be arrays" && f.path == []
      | .ok _ => false) = true := by decide +kernel
  cases hdoc : doc.resolve with
  | ok p => simp [hdoc] at hfault
  | error f =>
    rw [hdoc, Bool.and_eq_true, beq_iff_eq, beq_iff_eq] at hfault
    exact ⟨f, rfl, hfault⟩

end Schema

end Parcelgen

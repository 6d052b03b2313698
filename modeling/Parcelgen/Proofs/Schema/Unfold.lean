import Parcelgen.Proofs.Schema.Trace

/-!
What names stand for, said without a resolver: a declared name stands for its declaration with the types of names put in for the names, and
so on down to built-in types and interfaces (`Scope.unfold`). The depth only has to be large enough (`unfold_mono`), so a name stands for one
type at most, and what the resolver finishes is that type (`Steps.unfold`).
-/

namespace Parcelgen

/-- The type of an expression in which names stand for the types that `types` gives them. -/
def TypeExpr.subst (types : String → Option WireType) : TypeExpr → Option WireType
  | .name ident dims => (types ((Text.ofBytes? ident).getD "")).map (Schema.Scope.build.arrays · dims)
  | .vector elem dims => (elem.subst types).map fun t => Schema.Scope.build.arrays (.vector t) dims

namespace TypeExpr

variable {types others : String → Option WireType}

theorem subst_base {e : TypeExpr} {t : WireType} (h : e.subst types = some t) : ∃ u, types e.base = some u := by
  induction e generalizing t with
  | name ident dims =>
    obtain ⟨u, hu, -⟩ := Option.map_eq_some_iff.mp h
    exact ⟨u, hu⟩
  | vector elem dims ih =>
    obtain ⟨u, hu, -⟩ := Option.map_eq_some_iff.mp h
    exact ih hu

theorem subst_mono (hsub : ∀ name t, types name = some t → others name = some t) {e : TypeExpr} {t : WireType}
    (h : e.subst types = some t) : e.subst others = some t := by
  induction e generalizing t with
  | name ident dims =>
    obtain ⟨u, hu, rfl⟩ := Option.map_eq_some_iff.mp h
    exact Option.map_eq_some_iff.mpr ⟨u, hsub _ u hu, rfl⟩
  | vector elem dims ih =>
    obtain ⟨u, hu, rfl⟩ := Option.map_eq_some_iff.mp h
    exact Option.map_eq_some_iff.mpr ⟨u, ih hu, rfl⟩

end TypeExpr

namespace Schema

open Resolving

/-- The type that a text describes. -/
def typeIn (types : String → Option WireType) (src : String) : Option WireType := (TypeExpr.ofText src).toOption.bind (·.subst types)

/-- The members that field declarations describe. -/
def membersIn (types : String → Option WireType) : List FieldDecl → Option (List (String × WireType))
  | [] => some []
  | f :: fs => (typeIn types f.type).bind fun t => (membersIn types fs).map ((f.name, t) :: ·)

/-- The type of a declaration in which names stand for the types that `types` gives them. -/
def TypeDecl.subst (pkg : Package) (types : String → Option WireType) (d : TypeDecl) : Option WireType :=
  match d.kind with
  | "struct" => (membersIn types d.fields).map (.struct (pkg.qualify d.name))
  | "enum" =>
    (Scalar.ofName? (if d.storage == "" then "uint32" else d.storage)).map fun storage =>
      .enum (pkg.qualify d.name) storage (d.values.map fun v => (v.name, Text.trim v.value))
  | "typedef" => typeIn types d.type
  | _ => none

section

variable {types others : String → Option WireType}

theorem typeIn_eq_some_iff {src : String} {t : WireType} :
    typeIn types src = some t ↔ ∃ e, TypeExpr.ofText src = .ok e ∧ e.subst types = some t := by
  unfold typeIn
  cases TypeExpr.ofText src <;> simp [Except.toOption]

theorem membersIn_cons_eq_some_iff {f : FieldDecl} {fs : List FieldDecl} {ms : List (String × WireType)} :
    membersIn types (f :: fs) = some ms ↔
      ∃ t rest, typeIn types f.type = some t ∧ membersIn types fs = some rest ∧ ms = (f.name, t) :: rest := by
  simp only [membersIn, Option.bind_eq_some_iff, Option.map_eq_some_iff]
  constructor
  · rintro ⟨t, ht, rest, hrest, rfl⟩
    exact ⟨t, rest, ht, hrest, rfl⟩
  · rintro ⟨t, rest, ht, hrest, rfl⟩
    exact ⟨t, ht, rest, hrest, rfl⟩

theorem typeIn_mono (hsub : ∀ name t, types name = some t → others name = some t) {src : String} {t : WireType}
    (h : typeIn types src = some t) : typeIn others src = some t := by
  obtain ⟨e, he, ht⟩ := typeIn_eq_some_iff.mp h
  exact typeIn_eq_some_iff.mpr ⟨e, he, TypeExpr.subst_mono hsub ht⟩

theorem membersIn_mono (hsub : ∀ name t, types name = some t → others name = some t) {fs : List FieldDecl}
    {ms : List (String × WireType)} (h : membersIn types fs = some ms) : membersIn others fs = some ms := by
  induction fs generalizing ms with
  | nil => exact h
  | cons f fs ih =>
    obtain ⟨t, rest, ht, hrest, rfl⟩ := membersIn_cons_eq_some_iff.mp h
    exact membersIn_cons_eq_some_iff.mpr ⟨t, rest, typeIn_mono hsub ht, ih hrest, rfl⟩

/-- Every member has the name of its declaration and the type of its text. -/
theorem forall₂_of_membersIn {fs : List FieldDecl} {ms : List (String × WireType)} (h : membersIn types fs = some ms) :
    List.Forall₂ (fun f m => m.1 = f.name ∧ typeIn types f.type = some m.2) fs ms := by
  induction fs generalizing ms with
  | nil =>
    cases h
    exact .nil
  | cons f fs ih =>
    obtain ⟨t, rest, ht, hrest, rfl⟩ := membersIn_cons_eq_some_iff.mp h
    exact .cons ⟨rfl, ht⟩ (ih hrest)

namespace TypeDecl

variable {pkg : Package} {d : TypeDecl} {t : WireType}

theorem subst_struct (hk : d.kind = "struct") : d.subst pkg types = (membersIn types d.fields).map (.struct (pkg.qualify d.name)) := by
  simp [subst, hk]

theorem subst_enum (hk : d.kind = "enum") :
    d.subst pkg types = (Scalar.ofName? (if d.storage == "" then "uint32" else d.storage)).map fun storage =>
      .enum (pkg.qualify d.name) storage (d.values.map fun v => (v.name, Text.trim v.value)) := by
  simp [subst, hk]

theorem subst_typedef (hk : d.kind = "typedef") : d.subst pkg types = typeIn types d.type := by
  simp [subst, hk]

theorem subst_mono (hsub : ∀ name t, types name = some t → others name = some t) (h : d.subst pkg types = some t) :
    d.subst pkg others = some t := by
  unfold subst at h ⊢
  split at h
  · obtain ⟨ms, hms, rfl⟩ := Option.map_eq_some_iff.mp h
    exact Option.map_eq_some_iff.mpr ⟨ms, membersIn_mono hsub hms, rfl⟩
  · exact h
  · exact typeIn_mono hsub h
  · cases h

/-- Nothing can be put in for a declaration while one of the names that it refers to has no type. -/
theorem subst_references (h : d.subst pkg types = some t) : ∀ name ∈ d.references, ∃ u, types name = some u := by
  intro name hname
  obtain ⟨src, hsrc, href⟩ := List.mem_filterMap.mp hname
  have htext : ∃ v, typeIn types src = some v := by
    unfold texts at hsrc
    split at hsrc <;> rename_i hk
    · obtain ⟨f, hf, rfl⟩ := List.mem_map.mp hsrc
      rw [subst_struct hk] at h
      obtain ⟨ms, hms, -⟩ := Option.map_eq_some_iff.mp h
      obtain ⟨m, -, hm⟩ := exists_of_mem_forall₂ (forall₂_of_membersIn hms).flip hf
      exact ⟨m.2, hm.2⟩
    · rw [List.mem_singleton.mp hsrc]
      exact ⟨t, subst_typedef hk ▸ h⟩
    · cases hsrc
  obtain ⟨v, hv⟩ := htext
  obtain ⟨e, he, hsubst⟩ := typeIn_eq_some_iff.mp hv
  obtain ⟨u, hu⟩ := TypeExpr.subst_base hsubst
  simp only [reference?, he, Except.toOption, Option.map_some, Option.some.injEq] at href
  exact ⟨u, href ▸ hu⟩

end TypeDecl

end

namespace Scope

/-- The type that a name stands for, as far as it is found within `depth` declarations. -/
def unfold (s : Scope) : Nat → String → Option WireType
  | depth, name =>
    match builtIn? name with
    | some t => some t
    | none =>
      match s.decl? name with
      | some d =>
        match depth with
        | 0 => none
        | depth + 1 => d.subst s.package (s.unfold depth)
      | none => if s.interfaces.contains name then some (.interface (s.package.qualify name)) else none

theorem unfold_of_decl {s : Scope} {name : String} {d : TypeDecl} (hb : builtIn? name = none) (hd : s.decl? name = some d) (depth : Nat) :
    s.unfold (depth + 1) name = d.subst s.package (s.unfold depth) := by
  rw [unfold]
  simp only [hb, hd]

theorem unfold_succ {s : Scope} {depth : Nat} {name : String} {t : WireType} (h : s.unfold depth name = some t) :
    s.unfold (depth + 1) name = some t := by
  induction depth generalizing name t with
  | zero =>
    unfold unfold at h ⊢
    split at h
    · exact h
    · split at h
      · cases h
      · exact h
  | succ depth ih =>
    cases hb : builtIn? name with
    | some u =>
      unfold unfold at h ⊢
      simpa only [hb] using h
    | none =>
      cases hd : s.decl? name with
      | some d =>
        rw [unfold_of_decl hb hd] at h ⊢
        exact TypeDecl.subst_mono (fun _ _ => ih) h
      | none =>
        unfold unfold at h ⊢
        simpa only [hb, hd] using h

/-- A name that stands for a type keeps it at every larger depth. -/
theorem unfold_mono {s : Scope} {depth more : Nat} (hle : depth ≤ more) {name : String} {t : WireType}
    (h : s.unfold depth name = some t) : s.unfold more name = some t := by
  induction hle with
  | refl => exact h
  | step _ ih => exact unfold_succ ih

theorem unfold_unique {s : Scope} {i j : Nat} {name : String} {t u : WireType} (ht : s.unfold i name = some t)
    (hu : s.unfold j name = some u) : t = u := by
  have htmax := unfold_mono (Nat.le_max_left i j) ht
  have humax := unfold_mono (Nat.le_max_right i j) hu
  exact Option.some.inj (htmax.symm.trans humax)

section

variable {look : List String → String → Resolving WireType} {types : String → Option WireType}

theorem build_yields_subst {look : String → Resolving WireType} (h : ∀ name, Yields (look name) fun t => types name = some t) :
    ∀ e : TypeExpr, Yields (build look e) fun t => e.subst types = some t
  | .name ident dims => by
    simp only [build]
    exact .bind (h _) fun t ht => .pure (by simp [TypeExpr.subst, ht])
  | .vector elem dims => by
    simp only [build]
    exact .bind (build_yields_subst h elem) fun t ht => .guard fun _ => .pure (by simp [TypeExpr.subst, ht])

theorem typeAt_yields_typeIn (h : ∀ path name, Yields (look path name) fun t => types name = some t) (path : List String) (src : String) :
    Yields (typeAt look path src) fun t => typeIn types src = some t := by
  unfold typeAt
  cases he : TypeExpr.ofText src with
  | ok e => exact fun fin t last hrun => typeIn_eq_some_iff.mpr ⟨e, he, build_yields_subst (h path) e fin t last hrun⟩
  | error f => exact .throw _

theorem declarableAt_yields_typeIn (h : ∀ path name, Yields (look path name) fun t => types name = some t) (path : List String)
    (src : String) : Yields (declarableAt look path src) fun t => typeIn types src = some t := by
  unfold declarableAt
  refine .bind (typeAt_yields_typeIn h path src) fun t ht => ?_
  split
  · exact .throw _
  · exact .pure ht

theorem members_yields_membersIn (h : ∀ path name, Yields (look path name) fun t => types name = some t) (path seen : List String)
    (fs : List FieldDecl) : Yields (members look path seen fs) fun ms => membersIn types fs = some ms := by
  induction fs generalizing seen with
  | nil => exact .pure rfl
  | cons f fs ih =>
    simp only [members, invalid]
    exact .guard fun _ => .guard fun _ => .bind (declarableAt_yields_typeIn h _ _) fun t ht => .bind (ih _) fun ms hms =>
      .pure (membersIn_cons_eq_some_iff.mpr ⟨t, ms, ht, hms, rfl⟩)

theorem enumerators_yields_map (path seen : List String) (vs : List ValueDecl) :
    Yields (enumerators path seen vs) fun values => values = vs.map fun v => (v.name, Text.trim v.value) := by
  induction vs generalizing seen with
  | nil => exact .pure rfl
  | cons v vs ih =>
    simp only [enumerators, invalid]
    exact .guard fun _ => .guard fun _ => .bind (ih _) fun values hvalues => .pure (by simp [hvalues])

/-- A declaration that gets a type gets the one that putting in the types of its names gives. -/
theorem declType_yields_subst (s : Scope) (h : ∀ path name, Yields (look path name) fun t => types name = some t) (d : TypeDecl) :
    Yields (s.declType look d) fun t => d.subst s.package types = some t := by
  unfold declType
  split <;> rename_i hk
  · exact .bind (members_yields_membersIn h _ _ _) fun ms hms => .pure (by simp [TypeDecl.subst_struct hk, hms])
  · simp only [TypeDecl.subst_enum hk]
    dsimp only [enumType]
    cases hs : Option.filter Scalar.isInteger (Scalar.ofName? (if d.storage == "" then "uint32" else d.storage)) with
    | none => exact .throw _
    | some storage =>
      exact .bind (enumerators_yields_map _ _ _) fun values hv => .pure (by rw [(Option.filter_eq_some_iff.mp hs).1, hv]; rfl)
  · simp only [TypeDecl.subst_typedef hk]
    exact typeAt_yields_typeIn h _ _
  · exact .throw _

end

theorem known_yields_meaning {s : Scope} {fin : Finished} (path : List String) (name : String) :
    Yields (s.known fin path name) fun t => s.meaning? fin name = some t := by
  unfold known
  split
  · rename_i t ht
    exact .pure ht
  · exact .throw _

theorem subst_of_gives {s : Scope} {fin : Finished} {d : TypeDecl} {t : WireType} (h : Gives (s.declType (s.known fin) d) t) :
    d.subst s.package (s.meaning? fin) = some t :=
  (s.declType_yields_subst (fun path name => known_yields_meaning path name) d).of_gives h

/-- What names mean by finished declarations they stand for, if the finished ones do. -/
theorem unfold_of_meaning? {s : Scope} {fin : Finished} {depth : Nat} (hfin : ∀ e ∈ fin, s.unfold depth e.1 = some e.2) {name : String}
    {t : WireType} (h : s.meaning? fin name = some t) : s.unfold depth name = some t := by
  unfold meaning? at h
  cases hb : builtIn? name with
  | some u =>
    unfold unfold
    simpa only [hb] using h
  | none =>
    cases hd : s.decl? name with
    | some d =>
      simp only [hb, hd, Option.map_eq_some_iff] at h
      obtain ⟨⟨n, u⟩, hfind, rfl⟩ := h
      obtain rfl : n = name := by simpa using List.find?_some hfind
      exact hfin (n, u) (List.mem_of_find?_eq_some hfind)
    | none =>
      unfold unfold
      simpa only [hb, hd] using h

/-- Finished declarations have the types that their names stand for. -/
theorem Steps.unfold {s : Scope} {fin : Finished} (h : s.Steps [] [] fin) : ∃ depth, ∀ e ∈ fin, s.unfold depth e.1 = some e.2 := by
  induction h with
  | refl => exact ⟨0, by simp⟩
  | @snoc fin name d t _ _ hb hd _ ht ih =>
    obtain ⟨depth, hfin⟩ := ih
    refine ⟨depth + 1, fun e he => ?_⟩
    rcases List.mem_append.mp he with he | he
    · exact unfold_succ (hfin e he)
    · rw [List.mem_singleton.mp he, unfold_of_decl hb hd]
      exact TypeDecl.subst_mono (fun _ _ => unfold_of_meaning? hfin) (subst_of_gives ht)

end Scope

end Schema

end Parcelgen

import Mathlib.Data.List.Perm.Subperm
import Parcelgen.Proofs.Schema.Closed

/-!
Resolution finds what can be found. A list of steps that finishes declarations is a plan for look-ups in any order: whatever part of it is
done already, looking up one of its names succeeds with the type that the plan gives (`lookup_settles`). Once every declaration is finished,
look-ups only read (`Settled.typeOf_run`), so the interfaces depend on what the names mean and not on the order of the table.
-/

namespace Parcelgen.Schema

namespace Resolving

variable {α β : Type} {full : Finished}

/-- With any part of `full` finished, the computation gets to `a` and finishes more of `full` at most. -/
def Settles (full : Finished) (x : Resolving α) (a : α) : Prop := ∀ fin, fin ⊆ full → ∃ last, last ⊆ full ∧ x.run fin = .ok (a, last)

namespace Settles

theorem pure (a : α) : Settles full (Pure.pure a) a := fun fin hfin => ⟨fin, hfin, rfl⟩

theorem bind {x : Resolving α} {k : α → Resolving β} {a : α} {b : β} (hx : Settles full x a) (hk : Settles full (k a) b) :
    Settles full (x >>= k) b := by
  intro fin hfin
  obtain ⟨mid, hmid, hxrun⟩ := hx fin hfin
  obtain ⟨last, hlast, hkrun⟩ := hk mid hmid
  exact ⟨last, hlast, run_bind_eq_ok_iff.mpr ⟨a, mid, hxrun, hkrun⟩⟩

/-- What only reads its names and succeeds is also reached by looking them up. -/
theorem lifting (full : Finished) : Lifting fun x (y : Unit → _) => Yields (y ()) fun a => Gives (y ()) a ∧ Settles full x a where
  pure a := .pure ⟨.pure a, .pure a⟩
  throw _ := .throw _
  bind hx hk := Yields.bind hx fun a ha fin b last hrun =>
    have hb := hk a fin b last hrun
    ⟨ha.1.bind hb.1, ha.2.bind hb.2⟩

end Settles

/-- The computations give the same result or fault where `fin` and `other` are finished, and finish nothing. -/
def Agrees (fin other : Finished) (x y : Resolving α) : Prop :=
  ∃ r : Except Fault α, x.run fin = r.map (·, fin) ∧ y.run other = r.map (·, other)

theorem Agrees.lifting (fin other : Finished) : Lifting fun x (y : Unit → _) => Agrees fin other x (y ()) where
  pure a := ⟨.ok a, rfl, rfl⟩
  throw {_ f} _ := ⟨.error f, rfl, rfl⟩
  bind {_ _ x y k l} hx hk := by
    obtain ⟨r, hxr, hyr⟩ := hx
    cases r with
    | error f => exact ⟨.error f, by rw [StateT.run_bind, hxr]; rfl, by rw [StateT.run_bind, hyr]; rfl⟩
    | ok a =>
      obtain ⟨r, hkr, hlr⟩ := hk a
      exact ⟨r, by rw [StateT.run_bind, hxr]; exact hkr, by rw [StateT.run_bind, hyr]; exact hlr⟩

end Resolving

open Resolving

namespace Scope

variable {s : Scope} {full fin : Finished} {name : String} {t : WireType} {d : TypeDecl}

/-- Declared names are not built in and do not repeat. -/
structure Distinct (s : Scope) : Prop where
  own : ∀ d ∈ s.decls, builtIn? d.name = none
  nodup : (s.decls.map (·.name)).Nodup

theorem Distinct.decl?_eq_some_iff (h : s.Distinct) : s.decl? name = some d ↔ d ∈ s.decls ∧ d.name = name :=
  find?_eq_some_iff_of_nodup h.nodup

theorem Distinct.builtIn?_of_decl (h : s.Distinct) (hd : s.decl? name = some d) : builtIn? name = none := by
  obtain ⟨hmem, rfl⟩ := decl?_cases hd
  exact h.own d hmem

namespace Steps

/-- No declaration is finished twice. -/
theorem nodup (h : s.Steps [] [] fin) : (fin.map (·.1)).Nodup := by
  induction h with
  | refl => exact List.nodup_nil
  | @snoc fin name d t _ _ _ _ hnew _ ih =>
    rw [List.map_append, List.map_singleton, List.nodup_append]
    refine ⟨ih, List.nodup_singleton name, fun a ha b hb => ?_⟩
    obtain ⟨e, he, rfl⟩ := List.mem_map.mp ha
    rw [List.mem_singleton.mp hb]
    exact hnew e he

theorem exists_decl (h : s.Steps [] [] fin) : ∀ e ∈ fin, ∃ d, s.decl? e.1 = some d :=
  h.forall_mem (by simp) fun _ _ d _ _ _ hd _ => ⟨d, hd⟩

/-- No more declarations are finished than there are. -/
theorem length_le (h : s.Steps [] [] fin) : fin.length ≤ s.decls.length := by
  have hsub : fin.map (·.1) ⊆ s.decls.map (·.name) := by
    intro name hname
    obtain ⟨e, he, rfl⟩ := List.mem_map.mp hname
    obtain ⟨d, hd⟩ := h.exists_decl e he
    obtain ⟨hmem, hdname⟩ := decl?_cases hd
    exact List.mem_map.mpr ⟨d, hmem, hdname⟩
  have hlength := (List.subperm_of_subset h.nodup hsub).length_le
  rwa [List.length_map, List.length_map] at hlength

end Steps

/-- What a declared name means is what is finished for it. -/
theorem meaning?_eq_some_iff_mem (hs : s.Distinct) (h : s.Steps [] [] fin) (hd : s.decl? name = some d) :
    s.meaning? fin name = some t ↔ (name, t) ∈ fin := by
  simp only [meaning?, hs.builtIn?_of_decl hd, hd, Option.map_eq_some_iff, find?_eq_some_iff_of_nodup h.nodup]
  constructor
  · rintro ⟨e, ⟨he, rfl⟩, rfl⟩
    exact he
  · exact fun he => ⟨(name, t), ⟨he, rfl⟩, rfl⟩

/-- One declaration: it is found where it is finished, and otherwise it is finished after what it refers to. -/
theorem lookup_succ_settles {fuel : Nat} {chain path : List String} (hfull : (full.map (·.1)).Nodup) (hmem : (name, t) ∈ full)
    (hb : builtIn? name = none) (hd : s.decl? name = some d) (hchain : name ∉ chain)
    (h : Settles full (s.declType (s.lookup fuel (chain ++ [name])) d) t) : Settles full (s.lookup (fuel + 1) chain path name) t := by
  intro fin hfin
  cases hfind : fin.find? (·.1 == name) with
  | some e =>
    obtain ⟨he, hname⟩ : e ∈ full ∧ e.1 = name := ⟨hfin (List.mem_of_find?_eq_some hfind), by simpa using List.find?_some hfind⟩
    obtain rfl : e = (name, t) := List.inj_on_of_nodup_map hfull he hmem hname
    refine ⟨fin, hfin, ?_⟩
    unfold lookup
    simp only [hb, hd]
    refine run_bind_eq_ok_iff.mpr ⟨fin, fin, rfl, ?_⟩
    rw [hfind]
    rfl
  | none =>
    obtain ⟨mid, hmid, hrun⟩ := h fin hfin
    refine ⟨mid ++ [(name, t)], List.append_subset.mpr ⟨hmid, by simpa using hmem⟩, ?_⟩
    unfold lookup
    simp only [hb, hd]
    refine run_bind_eq_ok_iff.mpr ⟨fin, fin, rfl, ?_⟩
    rw [hfind]
    simp only [List.contains_iff_mem, hchain, if_false]
    exact run_bind_eq_ok_iff.mpr ⟨t, mid, hrun, rfl⟩

/-- A name that means something while `fin` is finished is looked up with that outcome, if the names in `fin` are. -/
theorem lookup_settles_known {fuel : Nat} {chain path : List String}
    (h : ∀ e ∈ fin, Settles full (s.lookup fuel chain path e.1) e.2) :
    Yields (s.known fin path name) fun t => Gives (s.known fin path name) t ∧ Settles full (s.lookup fuel chain path name) t := by
  intro cur t last hrun
  unfold known at hrun
  split at hrun
  · rename_i u hu
    cases hrun
    refine ⟨known_gives path hu, ?_⟩
    unfold meaning? at hu
    cases hb : builtIn? name with
    | some u =>
      simp only [hb] at hu
      cases hu
      unfold lookup
      simp only [hb]
      exact .pure t
    | none =>
      cases hd : s.decl? name with
      | some d =>
        simp only [hb, hd, Option.map_eq_some_iff] at hu
        obtain ⟨e, he, rfl⟩ := hu
        obtain rfl : e.1 = name := by simpa using List.find?_some he
        exact h e (List.mem_of_find?_eq_some he)
      | none =>
        simp only [hb, hd] at hu
        split at hu
        · rename_i hi
          cases hu
          unfold lookup
          simp only [hb, hd, hi, if_true]
          exact .pure _
        · cases hu
  · cases hrun

/-- Names are looked up with the types that the steps give them, inside any declarations that are not among the steps. The induction is on
the steps: a declaration only needs those in front of it, none of which is its own. -/
theorem lookup_settles (hfull : (full.map (·.1)).Nodup) (h : s.Steps [] [] fin) (hsub : fin ⊆ full) :
    ∀ e ∈ fin, ∀ fuel chain path, fin.length ≤ fuel → (∀ e' ∈ fin, e'.1 ∉ chain) → Settles full (s.lookup fuel chain path e.1) e.2 := by
  induction h with
  | refl => simp
  | @snoc fin name d t _ _ hb hd hnew ht ih =>
    obtain ⟨hfin, hlast⟩ := List.append_subset.mp hsub
    intro e he fuel chain path hfuel hchain
    simp only [List.length_append, List.length_singleton] at hfuel
    rcases List.mem_append.mp he with he | he
    · exact ih hfin e he fuel chain path (by omega) fun e' he' => hchain e' (List.mem_append_left _ he')
    · rw [List.mem_singleton.mp he]
      obtain ⟨fuel, rfl⟩ : ∃ n, fuel = n + 1 := ⟨fuel - 1, by omega⟩
      have hinner : ∀ e ∈ fin, ∀ path, Settles full (s.lookup fuel (chain ++ [name]) path e.1) e.2 := by
        intro e he path
        refine ih hfin e he fuel _ path (by omega) fun e' he' hmem => ?_
        rcases List.mem_append.mp hmem with hmem | hmem
        · exact hchain e' (List.mem_append_left _ he') hmem
        · exact hnew e' he' (List.mem_singleton.mp hmem)
      have htype := declType_lift (Settles.lifting full) (l := fun _ => s.known fin) s d
        fun next _ path => lookup_settles_known fun e he => hinner e he path
      exact lookup_succ_settles hfull (hlast (List.mem_singleton_self _)) hb hd (hchain _ (by simp)) (htype [] t [] (ht [])).2

/-- Every declaration is finished. -/
structure Settled (s : Scope) (fin : Finished) : Prop where
  steps : s.Steps [] [] fin
  complete : ∀ d ∈ s.decls, ∃ t, (d.name, t) ∈ fin

theorem typesOf_settles (h : s.Settled full) (ds : List TypeDecl) (hds : ds ⊆ s.decls) :
    Settles full (forIn ds PUnit.unit fun d _ => do
      let _ ← s.typeOf [] d.name
      return ForInStep.yield PUnit.unit) PUnit.unit := by
  induction ds with
  | nil => exact .pure _
  | cons d ds ih =>
    obtain ⟨hd, hds⟩ := List.cons_subset.mp hds
    obtain ⟨t, ht⟩ := h.complete d hd
    rw [List.forIn_cons]
    simp only [bind_assoc, pure_bind]
    exact (lookup_settles h.steps.nodup h.steps (List.Subset.refl _) _ ht _ [] [] h.steps.length_le (by simp)).bind (ih hds)

/-- What is finished after the look-up of some names, if all of them could be. -/
theorem settled_of_typesOf (hs : s.Distinct) {ds : List TypeDecl} (hds : s.decls ⊆ ds) {u : PUnit}
    (h : (forIn ds PUnit.unit fun d _ => do
      let _ ← s.typeOf [] d.name
      return ForInStep.yield PUnit.unit : Resolving PUnit).run [] = .ok (u, fin)) : s.Settled fin := by
  obtain ⟨hsteps, hlater⟩ := s.typesOf_reaches ds [] u fin h
  refine ⟨hsteps, fun d hd => ?_⟩
  obtain ⟨t, ht⟩ := hlater fin List.prefix_rfl d (hds hd)
  exact ⟨t, (meaning?_eq_some_iff_mem hs hsteps (hs.decl?_eq_some_iff.mpr ⟨hd, rfl⟩)).mp ht⟩

namespace Settled

variable {other : Finished}

/-- A table in which every declaration is finished has all that is in another one. -/
theorem perm_of_subset (h : s.Settled full) (hfin : s.Settled fin) (hsub : fin ⊆ full) : fin.Perm full := by
  refine (List.perm_ext_iff_of_nodup (.of_map _ hfin.steps.nodup) (.of_map _ h.steps.nodup)).mpr fun e => ⟨fun he => hsub he, fun he => ?_⟩
  obtain ⟨d, hd⟩ := h.steps.exists_decl e he
  obtain ⟨hmem, hname⟩ := decl?_cases hd
  obtain ⟨t, ht⟩ := hfin.complete d hmem
  have heq : (d.name, t) = e := List.inj_on_of_nodup_map h.steps.nodup (hsub ht) he hname
  exact heq ▸ ht

/-- The declarations can be finished in any order. -/
theorem typesOf_run (hs : s.Distinct) (h : s.Settled full) {ds : List TypeDecl} (hds : ds.Perm s.decls) :
    ∃ fin, (forIn ds PUnit.unit fun d _ => do
      let _ ← s.typeOf [] d.name
      return ForInStep.yield PUnit.unit : Resolving PUnit).run [] = .ok (PUnit.unit, fin) ∧ s.Settled fin ∧ fin.Perm full := by
  obtain ⟨fin, hsub, hrun⟩ := s.typesOf_settles h ds hds.subset [] (List.nil_subset _)
  have hfin := settled_of_typesOf hs hds.symm.subset hrun
  exact ⟨fin, hrun, hfin, h.perm_of_subset hfin hsub⟩

theorem meaning?_eq (hs : s.Distinct) (h : s.Settled full) (hfin : s.Settled fin) (hperm : fin.Perm full) :
    s.meaning? fin = s.meaning? full := by
  funext name
  cases hd : s.decl? name with
  | none => simp only [meaning?, hd]
  | some d =>
    ext t
    rw [meaning?_eq_some_iff_mem hs hfin.steps hd, meaning?_eq_some_iff_mem hs h.steps hd]
    exact hperm.mem_iff

/-- Look-ups only read. -/
theorem typeOf_run (hs : s.Distinct) (h : s.Settled fin) (path : List String) (name : String) :
    (s.typeOf path name).run fin = (s.known fin path name).run fin := by
  cases hb : builtIn? name with
  | some t =>
    unfold typeOf lookup known meaning?
    simp only [hb]
  | none =>
    cases hd : s.decl? name with
    | some d =>
      obtain ⟨hmem, rfl⟩ := decl?_cases hd
      obtain ⟨t, ht⟩ := h.complete d hmem
      have hfind : fin.find? (·.1 == d.name) = some (d.name, t) := (find?_eq_some_iff_of_nodup h.steps.nodup).mpr ⟨ht, rfl⟩
      rw [known_gives path ((meaning?_eq_some_iff_mem hs h.steps hd).mpr ht) fin]
      unfold typeOf lookup
      simp only [hb, hd]
      refine run_bind_eq_ok_iff.mpr ⟨fin, fin, rfl, ?_⟩
      rw [hfind]
      rfl
    | none =>
      unfold typeOf lookup known meaning?
      simp only [hb, hd]
      split <;> rfl

/-- Interfaces do not depend on the order in which declarations were finished. -/
theorem interfaces_agree (hs : s.Distinct) (h : s.Settled full) (hfin : s.Settled fin) (hperm : fin.Perm full) (is : List InterfaceDecl) :
    Agrees full fin (is.mapM s.interface) (is.mapM s.interface) := by
  have hlook : ∀ path name, Agrees full fin (s.typeOf path name) (s.typeOf path name) := by
    intro path name
    unfold Agrees
    rw [h.typeOf_run hs, hfin.typeOf_run hs]
    unfold known
    rw [h.meaning?_eq hs hfin hperm]
    cases s.meaning? full name with
    | some t => exact ⟨.ok t, rfl, rfl⟩
    | none => exact ⟨.error _, rfl, rfl⟩
  exact (Agrees.lifting full fin).mapM (g := fun _ => s.interface)
    (fun decl => interface_lift (Agrees.lifting full fin) (t := fun _ => s) hlook decl) is

end Settled

end Scope

end Parcelgen.Schema

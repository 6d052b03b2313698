import Mathlib.Data.List.Chain
import Mathlib.Data.List.Perm.Subperm
import Mathlib.Logic.Relation
import Mathlib.Order.WellFounded
import Parcelgen.Proofs.Schema.Closed
import Parcelgen.Proofs.Schema.Fault
import Parcelgen.Proofs.Schema.Unfold

/-!
Declarations that contain themselves. The declarations around a look-up never repeat a name and each refers to the next (`Chain`), so look-ups
end within as many declarations as there are (`lookupOr_eq_typeOf`), and a name that is met again closes a cycle. Conversely the references
among finished declarations are well-founded, so a document with a cycle is refused.
-/

namespace Parcelgen.Schema

open Resolving

namespace Scope

/-- The declaration of `a` refers to `b`. -/
def Refers (s : Scope) (a b : String) : Prop := ∃ d ∈ s.decls, d.name = a ∧ b ∈ d.references

/-- A way around a cycle: different declared names, each of which refers to the one behind it, and the first of them again at the end. -/
def IsCycle (s : Scope) (path : List String) : Prop :=
  ∃ first rest, path = first :: rest ++ [first] ∧ (first :: rest).Nodup ∧ (∀ n ∈ first :: rest, ∃ d ∈ s.decls, d.name = n) ∧
    path.IsChain s.Refers

/-- The declarations around a look-up of `name`, from outside in. -/
structure Chain (s : Scope) (chain : List String) (name : String) : Prop where
  nodup : chain.Nodup
  declared : ∀ n ∈ chain, ∃ d ∈ s.decls, d.name = n
  linked : (chain ++ [name]).IsChain s.Refers

namespace Chain

variable {s : Scope} {chain : List String} {name : String} {d : TypeDecl}

theorem nil (name : String) : s.Chain [] name := ⟨List.nodup_nil, by simp, .singleton name⟩

theorem snoc (h : s.Chain chain name) (hnew : name ∉ chain) (hd : s.decl? name = some d) {next : String} (hnext : next ∈ d.references) :
    s.Chain (chain ++ [name]) next := by
  obtain ⟨hmem, hname⟩ := decl?_cases hd
  refine ⟨List.nodup_append.mpr ⟨h.nodup, List.nodup_singleton name, ?_⟩, ?_, ?_⟩
  · intro a ha b hb hab
    rw [List.mem_singleton.mp hb] at hab
    exact hnew (hab ▸ ha)
  · intro n hn
    rcases List.mem_append.mp hn with hn | hn
    · exact h.declared n hn
    · exact ⟨d, hmem, by rw [hname, List.mem_singleton.mp hn]⟩
  · rw [List.append_assoc, List.singleton_append, List.isChain_append_cons_cons]
    exact ⟨h.linked, ⟨d, hmem, hname, hnext⟩, .singleton next⟩

/-- There is room for one more declaration. -/
theorem length_lt (h : s.Chain chain name) (hnew : name ∉ chain) (hd : s.decl? name = some d) : chain.length < s.decls.length := by
  obtain ⟨hmem, hname⟩ := decl?_cases hd
  have hsub : name :: chain ⊆ s.decls.map (·.name) := by
    refine List.cons_subset.mpr ⟨List.mem_map.mpr ⟨d, hmem, hname⟩, fun n hn => ?_⟩
    obtain ⟨d', hd', hn'⟩ := h.declared n hn
    exact List.mem_map.mpr ⟨d', hd', hn'⟩
  have hlength := (List.subperm_of_subset (List.nodup_cons.mpr ⟨hnew, h.nodup⟩) hsub).length_le
  rwa [List.length_cons, List.length_map] at hlength

/-- A name that is looked up inside its own declaration closes a cycle, which starts where the name was first met. -/
theorem isCycle (h : s.Chain chain name) (hmem : name ∈ chain) : s.IsCycle (chain.dropWhile (· != name) ++ [name]) := by
  obtain ⟨before, rest, hchain, hbefore⟩ := List.eq_append_cons_of_mem hmem
  have hdrop : chain.dropWhile (· != name) = name :: rest := by
    rw [hchain, List.dropWhile_append_of_pos]
    · simp
    · intro n hn
      simpa using fun hnn : n = name => hbefore (hnn ▸ hn)
  have hsuffix : name :: rest <:+ chain := ⟨before, hchain.symm⟩
  rw [hdrop]
  refine ⟨name, rest, rfl, h.nodup.sublist hsuffix.sublist, fun n hn => h.declared n (hsuffix.subset hn), ?_⟩
  exact h.linked.suffix ⟨before, by rw [hchain, List.append_assoc]⟩

end Chain

/-- A look-up that does as `stop` says when it would go more than `depth` declarations deep. -/
def lookupOr (s : Scope) (stop : List String → String → Resolving WireType) : Nat → List String → List String → String → Resolving WireType
  | depth, chain, path, name =>
    match builtIn? name with
    | some t => return t
    | none =>
      match s.decl? name with
      | some d => do
        match (← get).find? (·.1 == name) with
        | some (_, t) => return t
        | none =>
          if chain.contains name then
            throw (Fault.cycle .resolve (chain.dropWhile (· != name) ++ [name]))
          match depth with
          | 0 => stop chain name
          | depth + 1 => do
            let t ← s.declType (s.lookupOr stop depth (chain ++ [name])) d
            modify (· ++ [(name, t)])
            return t
      | none =>
        if s.interfaces.contains name then return .interface (s.package.qualify name)
        else throw (Fault.notFound .resolve path "type" name)

/-- A look-up has room for every declaration that it can meet, so neither the depth nor what happens past it matters. -/
theorem lookupOr_congr {s : Scope} {stop stop' : List String → String → Resolving WireType} {depth depth' : Nat} {chain path : List String}
    {name : String} (h : s.Chain chain name) (hdepth : s.decls.length ≤ depth + chain.length)
    (hdepth' : s.decls.length ≤ depth' + chain.length) :
    s.lookupOr stop depth chain path name = s.lookupOr stop' depth' chain path name := by
  unfold lookupOr
  cases builtIn? name with
  | some t => rfl
  | none =>
    cases hd : s.decl? name with
    | none => rfl
    | some d =>
      by_cases hc : name ∈ chain
      · simp only [List.contains_iff_mem, hc, if_true]
        rfl
      · have hlt := h.length_lt hc hd
        obtain ⟨depth, rfl⟩ : ∃ n, depth = n + 1 := ⟨depth - 1, by omega⟩
        obtain ⟨depth', rfl⟩ : ∃ n, depth' = n + 1 := ⟨depth' - 1, by omega⟩
        have hlength : (chain ++ [name]).length = chain.length + 1 := by simp
        have hdecl : s.declType (s.lookupOr stop depth (chain ++ [name])) d = s.declType (s.lookupOr stop' depth' (chain ++ [name])) d :=
          declType_lift Lifting.eq (l := fun _ => s.lookupOr stop' depth' (chain ++ [name])) s d fun next hnext path =>
            lookupOr_congr (h.snoc hc hd hnext) (by omega) (by omega)
        simp only [List.contains_iff_mem, hc, if_false, hdecl]
termination_by depth

theorem lookup_eq_lookupOr (s : Scope) (fuel : Nat) (chain path : List String) (name : String) :
    s.lookup fuel chain path name = s.lookupOr (fun chain name => throw (.cycle .resolve (chain ++ [name]))) fuel chain path name := by
  induction fuel generalizing chain path name with
  | zero =>
    unfold lookup lookupOr
    rfl
  | succ fuel ih =>
    have hlook : s.lookup fuel (chain ++ [name]) =
        s.lookupOr (fun chain name => throw (.cycle .resolve (chain ++ [name]))) fuel (chain ++ [name]) :=
      funext fun path => funext fun next => ih (chain ++ [name]) path next
    unfold lookup lookupOr
    dsimp only
    rewrite [hlook]
    rfl

/-- Look-ups end within as many declarations as there are: what would be done at a larger depth makes no difference. -/
theorem lookupOr_eq_typeOf (s : Scope) (stop : List String → String → Resolving WireType) {depth : Nat} (h : s.decls.length ≤ depth)
    (path : List String) (name : String) : s.lookupOr stop depth [] path name = s.typeOf path name := by
  rw [typeOf, lookup_eq_lookupOr]
  exact lookupOr_congr (.nil name) (by simpa using h) (by simp)

/-- A look-up that meets a cycle says which one. -/
theorem lookup_throws_isCycle {s : Scope} {fuel : Nat} {chain path : List String} {name : String} (h : s.Chain chain name)
    (hfuel : s.decls.length ≤ fuel + chain.length) :
    Throws (s.lookup fuel chain path name) fun f => f.kind = .cycle → s.IsCycle f.path := by
  have hlocal : ∀ f : Fault, f.IsLocal → f.kind = .cycle → s.IsCycle f.path := fun f hf hk => absurd hk hf.acyclic
  induction fuel generalizing chain path name with
  | zero =>
    refine lookup_throws hlocal (fun d _ hc _ => h.isCycle hc) (fun d hd hc _ => ?_) fun d rest hd hc hr => ?_
    · have := h.length_lt hc hd
      omega
    · cases hr
  | succ fuel ih =>
    refine lookup_throws hlocal (fun d _ hc _ => h.isCycle hc) (fun d hd hc hz => ?_) fun d rest hd hc hr => ?_
    · cases hz
    · cases hr
      have hlength : (chain ++ [name]).length = chain.length + 1 := by simp
      exact declType_throws hlocal fun next hnext path => ih (h.snoc hc hd hnext) (by omega)

end Scope

namespace Resolution

variable {doc : Document} {fin : Finished} {p : Package}

/-- A declaration only refers to names that do not lead back to it. -/
theorem acc_of_mem (h : Resolution doc fin p) {known : Finished} (hsteps : doc.scope.Steps [] [] known) :
    ∀ e ∈ known, Acc (fun b a => doc.scope.Refers a b) e.1 := by
  refine hsteps.forall_mem (by simp) fun fin name d t hfin _ hd ht => ⟨name, fun b hb => ?_⟩
  obtain ⟨d', hmem', hname', hb⟩ := hb
  obtain rfl : d = d' := Option.some.inj (hd.symm.trans (h.decl?_eq_some_iff.mpr ⟨hmem', hname'⟩))
  obtain ⟨u, hu⟩ := TypeDecl.subst_references (Scope.subst_of_gives ht) b hb
  cases hdecl : doc.scope.decl? b with
  | some d' =>
    obtain ⟨hmem, hname⟩ := Scope.decl?_cases hdecl
    have hbuiltIn := hname ▸ builtIn?_of_isBuiltIn (h.names_checked.1 d' hmem).2
    simp only [Scope.meaning?, hbuiltIn, hdecl, Option.map_eq_some_iff] at hu
    obtain ⟨e, he, -⟩ := hu
    have hname : e.1 = b := by simpa using List.find?_some he
    exact hname ▸ hfin e (List.mem_of_find?_eq_some he)
  | none =>
    -- Names that are not declared refer to nothing.
    refine ⟨b, fun c hc => ?_⟩
    obtain ⟨d', hmem, hname, -⟩ := hc
    rw [h.decl?_eq_some_iff.mpr ⟨hmem, hname⟩] at hdecl
    cases hdecl

theorem wellFounded_refers (h : Resolution doc fin p) : WellFounded fun b a => doc.scope.Refers a b := by
  refine ⟨fun a => ?_⟩
  by_cases ha : ∃ d ∈ doc.types, d.name = a
  · obtain ⟨d, hd, rfl⟩ := ha
    obtain ⟨t, ht⟩ := h.types d hd
    simp only [Scope.meaning?, builtIn?_of_isBuiltIn (h.names_checked.1 d hd).2, h.decl?_eq_some_iff.mpr ⟨hd, rfl⟩,
      Option.map_eq_some_iff] at ht
    obtain ⟨e, he, -⟩ := ht
    have hname : e.1 = d.name := by simpa using List.find?_some he
    exact hname ▸ h.acc_of_mem h.steps e (List.mem_of_find?_eq_some he)
  · refine ⟨a, fun b hb => ?_⟩
    obtain ⟨d, hd, hname, -⟩ := hb
    exact absurd ⟨d, hd, hname⟩ ha

end Resolution

/-- Resolution of a document ends: every look-up is done within as many declarations as there are, whatever would happen past that depth. A
document with a cycle of references is refused, and a refusal for a cycle names one. -/
theorem resolve_detects_cycles (doc : Document) :
    (∀ (stop : List String → String → Resolving WireType) (depth : Nat), doc.types.length ≤ depth → ∀ path name,
      doc.scope.lookupOr stop depth [] path name = doc.scope.typeOf path name) ∧
    (∀ name, Relation.TransGen doc.scope.Refers name name → ∃ f, doc.resolve = .error f) ∧
    ∀ f, doc.resolve = .error f → f.kind = .cycle → doc.scope.IsCycle f.path := by
  refine ⟨fun stop depth h path name => doc.scope.lookupOr_eq_typeOf stop h path name, fun name hcycle => ?_, fun f hf => ?_⟩
  · cases hdoc : doc.resolve with
    | error f => exact ⟨f, rfl⟩
    | ok p =>
      obtain ⟨fin, h⟩ := Document.resolution_of_resolve hdoc
      have hback : Relation.TransGen (fun b a => doc.scope.Refers a b) name name := Relation.transGen_swap.mpr hcycle
      exact absurd hback (h.wellFounded_refers.transGen.irrefl.irrefl name)
  · have hlookup : ∀ path name, Throws (doc.scope.typeOf path name) fun f => f.kind = .cycle → doc.scope.IsCycle f.path :=
      fun path name => Scope.lookup_throws_isCycle (.nil name) (by simp)
    exact Document.resolve_fails_of_typeOf (fun f hf hk => absurd hk hf.acyclic) hlookup f hf

/-- A cycle through an array, a typedef and a vector. -/
theorem resolve_detects_cycles_ring :
    let doc : Document := {
      package := "ring"
      types := [
        { name := "Entry", kind := "struct", fields := [⟨"id", "uint32"⟩, ⟨"rows", "Rows[2]"⟩] },
        { name := "Rows", kind := "typedef", type := "Table" },
        { name := "Table", kind := "struct", fields := [⟨"entries", "vec<Entry>"⟩] }] }
    Relation.TransGen doc.scope.Refers "Entry" "Entry" ∧
      ∃ f, doc.resolve = .error f ∧ f.path = ["Entry", "Rows", "Table", "Entry"] ∧ doc.scope.IsCycle f.path := by
  intro doc
  have hentry : doc.scope.Refers "Entry" "Rows" := ⟨_, .head _, rfl, by decide +kernel⟩
  have hrows : doc.scope.Refers "Rows" "Table" := ⟨_, .tail _ (.head _), rfl, by decide +kernel⟩
  have htable : doc.scope.Refers "Table" "Entry" := ⟨_, .tail _ (.tail _ (.head _)), rfl, by decide +kernel⟩
  have hcycle := ((Relation.TransGen.single hentry).tail hrows).tail htable
  obtain ⟨-, hrefused, hnamed⟩ := resolve_detects_cycles doc
  obtain ⟨f, hf⟩ := hrefused "Entry" hcycle
  have hfault : (match doc.resolve with
      | .error f => f.kind == .cycle && f.path == ["Entry", "Rows", "Table", "Entry"]
      | .ok _ => false) = true := by decide +kernel
  simp only [hf, Bool.and_eq_true, beq_iff_eq] at hfault
  exact ⟨hcycle, f, hf, hfault.2, hnamed f hf hfault.1⟩

end Parcelgen.Schema

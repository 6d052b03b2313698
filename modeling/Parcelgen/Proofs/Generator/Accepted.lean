import Parcelgen.Proofs.Generator.Outcome
import Parcelgen.Proofs.Schema.Declarable
import Parcelgen.Proofs.Schema.Fault
import Parcelgen.Proofs.Wit.Declarable

/-!
What the front ends accept can be generated. Both deliver valid packages of declarable types, and a generator made from options never
leaves loops by breaking out of them; the only thing left that can go wrong is a parameter that takes a name of the generator's dialect.
-/

namespace Parcelgen

/-- A package of the right shape keeps it under another lead, unless a parameter takes a name of that lead. -/
theorem Package.Fits.change_lead {lead other : String} {p : Package} (h : p.Fits lead)
    (hfree : ∀ i ∈ p.interfaces, ∀ m ∈ i.methods, ∀ q ∈ m.args ++ m.results, ¬ Dialect.reserves other q.name) : p.Fits other where
  named := h.named
  types := h.types
  distinct := h.distinct
  interfaces i hi := {
    named := (h.interfaces i hi).named
    distinct := (h.interfaces i hi).distinct
    methods := fun m hm =>
      have hfits := (h.interfaces i hi).methods m hm
      { named := hfits.named
        oneway := hfits.oneway
        distinct := hfits.distinct
        params := fun q hq => ⟨(hfits.params q hq).named, (hfits.params q hq).typed, hfree i hi m hm q hq⟩ } }

theorem Unwind.leavesLoops_of_statement {mode : Unwind} {v : Vocabulary} {s : String} (h : mode.statement v = .ok s)
    (hexit : mode ≠ .exit) : mode.leavesLoops = true := by
  cases mode <;> simp_all [statement, leavesLoops]

namespace Generator

theorem ofOptions_leavesLoops {o : Options} {g : Generator} (h : ofOptions o = .ok g) :
    g.proxyMode.leavesLoops = true ∧ g.stubMode.leavesLoops = true := by
  unfold ofOptions at h
  dsimp only at h
  cases hp : o.proxyMode.statement (o.dialect.getD {}).vocabulary with
  | error f => simp [hp, bind, Except.bind] at h
  | ok ps =>
    cases hs : o.stubMode.statement (o.dialect.getD {}).vocabulary with
    | error f => simp [hp, hs, bind, Except.bind] at h
    | ok ss =>
      simp only [hp, hs, bind, Except.bind, beq_iff_eq] at h
      split at h
      · cases h
      · rename_i hpe
        split at h
        · cases h
        · rename_i hse
          cases h
          exact ⟨Unwind.leavesLoops_of_statement hp hpe, Unwind.leavesLoops_of_statement hs hse⟩

/-- A valid package of declarable types is generated unless a parameter takes a name of the dialect. -/
theorem generated_of_ofOptions {o : Options} {g : Generator} (hg : ofOptions o = .ok g) {p : Package} (hvalid : p.validate {} = .ok ())
    (htypes : ∀ t ∈ p.types, t.isDeclarable = true)
    (hparams : ∀ i ∈ p.interfaces, ∀ m ∈ i.methods, ∀ q ∈ m.args ++ m.results, q.type.isDeclarable = true)
    (hfree : ∀ i ∈ p.interfaces, ∀ m ∈ i.methods, ∀ q ∈ m.args ++ m.results, ¬ Dialect.reserves g.dialect.lead q.name) :
    ∃ out, g.generated p = .ok out := by
  obtain ⟨hproxy, hstub⟩ := ofOptions_leavesLoops hg
  have hfits := (p.validate_eq_ok_iff {}).mp hvalid
  exact g.generated_of_declarable hproxy hstub (hfits.change_lead hfree) htypes hparams

end Generator

/-- Every package that comes from a document or from a component interface is generated, by every generator made from options whose
lead no parameter takes; and a document that is refused is refused for its input. -/
theorem accepted_packages_generate :
    (∀ (doc : Schema.Document) (p : Package), doc.resolve = .ok p → ∀ (o : Options) (g : Generator), Generator.ofOptions o = .ok g →
      (∀ i ∈ p.interfaces, ∀ m ∈ i.methods, ∀ q ∈ m.args ++ m.results, ¬ Dialect.reserves g.dialect.lead q.name) →
      ∃ out, g.generated p = .ok out) ∧
    (∀ (r : Wit.Resolve) (space : String) (p : Package), r.toPackage space = .ok p → ∀ (o : Options) (g : Generator),
      Generator.ofOptions o = .ok g →
      (∀ i ∈ p.interfaces, ∀ m ∈ i.methods, ∀ q ∈ m.args ++ m.results, ¬ Dialect.reserves g.dialect.lead q.name) →
      ∃ out, g.generated p = .ok out) ∧
    ∀ (doc : Schema.Document) (f : Fault), doc.resolve = .error f → f.isContract = false := by
  refine ⟨?_, ?_, ?_⟩
  · intro doc p hdoc o g hg hfree
    obtain ⟨fin, h⟩ := Schema.Document.resolution_of_resolve hdoc
    exact Generator.generated_of_ofOptions hg h.valid h.types_declarable h.params_declarable hfree
  · intro r space p hr o g hg hfree
    obtain ⟨hvalid, htypes, hmethods⟩ := Wit.Resolve.toPackage_sound hr
    refine Generator.generated_of_ofOptions hg hvalid htypes (fun i hi m hm => ?_) hfree
    rw [hmethods i hi] at hm
    cases hm
  · exact fun doc f hf => doc.resolve_fails f hf

theorem accepted_packages_generate_store :
    let doc : Schema.Document := {
      package := "store"
      space := "::acme::store"
      types := [
        { name := "Bag", kind := "struct", fields := [⟨"rows", "Rows"⟩, ⟨"owner", "IStore"⟩] },
        { name := "Rows", kind := "typedef", type := "vec<Kind>[4]" },
        { name := "Kind", kind := "enum", values := [⟨"A", ""⟩, ⟨"B", "7"⟩] }]
      interfaces := [{
        name := "IStore"
        methods := [{ name := "put", args := [⟨"bag", "Bag"⟩], results := [⟨"kinds", "vec<Kind>"⟩] }] }] }
    let r : Wit.Resolve := {
      defs := [
        { name := some "item", kind := some (.record [("tags", .defined 1), ("owner", .defined 2)]) },
        { kind := some (.list (.primitive .string)) },
        { name := some "shop", kind := some .resource }]
      slots := [some 0, some 1, some 2]
      packages := ["shop"] }
    let g : Generator := { ({} : Options) with dialect := {} }
    (∃ p, doc.resolve = .ok p ∧ ∃ out, g.generated p = .ok out) ∧ (∃ p, r.toPackage "acme" = .ok p ∧ ∃ out, g.generated p = .ok out) ∧
      ∃ f, Schema.Document.resolve { doc with interfaces := [] } = .error f ∧ f.isContract = false := by
  intro doc r g
  -- The standard dialect is the one that packages are validated with.
  have hfree : ∀ p : Package, p.validate {} = .ok () → ∀ i ∈ p.interfaces, ∀ m ∈ i.methods, ∀ q ∈ m.args ++ m.results,
      ¬ Dialect.reserves g.dialect.lead q.name :=
    fun p hp i hi m hm q hq => ((((p.validate_eq_ok_iff {}).mp hp).interfaces i hi).methods m hm |>.params q hq).free
  refine ⟨?_, ?_, ?_⟩
  · cases hdoc : doc.resolve with
    | error f =>
      have hok : doc.resolve.toBool = true := by decide +kernel
      simp [hdoc, Except.toBool] at hok
    | ok p =>
      obtain ⟨fin, hp⟩ := Schema.Document.resolution_of_resolve hdoc
      exact ⟨p, rfl, accepted_packages_generate.1 doc p hdoc {} g rfl (hfree p hp.valid)⟩
  · cases hr : r.toPackage "acme" with
    | error f =>
      have hok : (r.toPackage "acme").toBool = true := by decide +kernel
      simp [hr, Except.toBool] at hok
    | ok p => exact ⟨p, rfl, accepted_packages_generate.2.1 r "acme" p hr {} g rfl (hfree p (Wit.Resolve.toPackage_sound hr).1)⟩
  · cases hbad : Schema.Document.resolve { doc with interfaces := [] } with
    | error f => exact ⟨f, rfl, accepted_packages_generate.2.2 _ f hbad⟩
    | ok p =>
      have herror : (Schema.Document.resolve { doc with interfaces := [] }).toBool = false := by decide +kernel
      simp [hbad, Except.toBool] at herror

end Parcelgen

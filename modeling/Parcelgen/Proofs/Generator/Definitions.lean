import Mathlib.Data.List.Nodup
import Mathlib.Data.List.Perm.Basic
import Parcelgen.Proofs.Generator.Outline

/-!
The names that a header defines at namespace level. A package that is accepted has distinct names for its types and interfaces, but the names
of proxies and stubs are derived, and nothing keeps those apart: two interfaces may have one base, and a type or an interface may have the name
of a proxy or stub. There is no other way for two definitions to meet.
-/

namespace Parcelgen

namespace Generator

/-- The name starts with a capital letter. -/
def IsCapitalized (name : String) : Prop := ∃ c rest, name.toList = c :: rest ∧ c.isUpper = true

/-- A name is its own base, or the letter in front of its base marks an interface. -/
theorem baseName_cases (name : String) : baseName name = name ∨ name = "I" ++ baseName name ∧ IsCapitalized (baseName name) := by
  unfold baseName
  split
  · rename_i c rest hname
    split
    · rename_i hc
      refine .inr ⟨?_, c, rest, by simp, hc⟩
      simp [← String.toList_inj, hname]
    · exact .inl rfl
  · exact .inl rfl

theorem baseName_marked {name : String} (h : IsCapitalized name) : baseName ("I" ++ name) = name := by
  obtain ⟨c, rest, hname, hc⟩ := h
  have htoList : ("I" ++ name).toList = 'I' :: c :: rest := by simp [hname]
  rw [baseName, htoList]
  simp [hc, ← String.toList_inj, hname]

/-- Names with the same base are the same, or differ by the mark alone. -/
theorem eq_or_marked_of_baseName_eq {a b : String} (h : baseName a = baseName b) :
    a = b ∨ (b = "I" ++ a ∧ IsCapitalized a ∧ baseName a = a) ∨ (a = "I" ++ b ∧ IsCapitalized b ∧ baseName b = b) := by
  rcases baseName_cases a with ha | ⟨ha, hacap⟩
  · rcases baseName_cases b with hb | ⟨hb, hbcap⟩
    · exact .inl (by rw [← ha, h, hb])
    · rw [← h, ha] at hb hbcap
      exact .inr (.inl ⟨hb, hbcap, ha⟩)
  · rcases baseName_cases b with hb | ⟨hb, -⟩
    · rw [h, hb] at ha hacap
      exact .inr (.inr ⟨ha, hacap, hb⟩)
    · exact .inl (by rw [ha, h, ← hb])

theorem marked_ne (name : String) : "I" ++ name ≠ name := by
  intro h
  have hlength := congrArg (List.length ∘ String.toList) h
  simp at hlength

end Generator

namespace Package

open Generator

/-- The names that are declared as such. -/
def ownNames (p : Package) : List String := p.types.map (·.localName) ++ p.interfaces.map (·.name)

/-- The structs and enums of a header: each type, and for each interface the interface, its proxy and its stub. -/
def definitions (p : Package) : List String :=
  p.types.map (·.localName) ++ p.interfaces.flatMap fun i => [i.name, proxyName i, stubName i]

/-- The names of proxies and stubs keep out of each other's way and of the declared names. -/
structure Apart (p : Package) : Prop where
  /-- Of two interfaces that differ by the mark alone, the shorter name must be marked itself. -/
  marks : ∀ i ∈ p.interfaces, ∀ j ∈ p.interfaces, j.name = "I" ++ i.name → IsCapitalized i.name → baseName i.name ≠ i.name
  derived : ∀ i ∈ p.interfaces, proxyName i ∉ p.ownNames ∧ stubName i ∉ p.ownNames

theorem filterMap_defines? (p : Package) (typeHelpers : Bool) : (p.declarations typeHelpers).filterMap Decl.defines? = p.definitions := by
  have hforward : (p.interfaces.map (Decl.forward ·.name)).filterMap Decl.defines? = [] := by
    rw [List.filterMap_map]
    exact List.filterMap_eq_nil_iff.mpr fun _ _ => rfl
  have hgap : (if p.interfaces.isEmpty then [] else [Decl.gap]).filterMap Decl.defines? = [] := by split <;> rfl
  have htypes : (p.types.map Decl.type).filterMap Decl.defines? = p.types.map (·.localName) := by
    rw [List.filterMap_map, ← List.filterMap_eq_map]
    rfl
  have hhelpers : (if typeHelpers then p.embeddedStructs.map Decl.helpers else []).filterMap Decl.defines? = [] := by
    split
    · rw [List.filterMap_map]
      exact List.filterMap_eq_nil_iff.mpr fun _ _ => rfl
    · rfl
  simp only [declarations, List.filterMap_append, hforward, hgap, htypes, hhelpers, List.nil_append, List.append_nil,
    List.filterMap_flatMap]
  rfl

theorem definitions_perm (p : Package) :
    p.definitions.Perm (p.ownNames ++ (p.interfaces.map proxyName ++ p.interfaces.map stubName)) := by
  have hstubs : (p.interfaces.flatMap fun i => [stubName i]) = p.interfaces.map stubName := List.map_eq_flatMap.symm
  have hderived : (p.interfaces.map proxyName ++ p.interfaces.map stubName).Perm (p.interfaces.flatMap fun i => [proxyName i, stubName i]) := by
    rw [← hstubs]
    exact List.map_append_flatMap_perm _ _ _
  have hall := (List.map_append_flatMap_perm p.interfaces (·.name) fun i => [proxyName i, stubName i]).symm
  rw [definitions, ownNames, List.append_assoc]
  exact (hall.trans (hderived.symm.append_left _)).append_left _

/-- Interfaces have different bases unless two of them differ by the mark alone. -/
theorem baseNames_nodup_iff {p : Package} (h : (p.interfaces.map (·.name)).Nodup) :
    ((p.interfaces.map (·.name)).map baseName).Nodup ↔
      ∀ i ∈ p.interfaces, ∀ j ∈ p.interfaces, j.name = "I" ++ i.name → IsCapitalized i.name → baseName i.name ≠ i.name := by
  rw [List.nodup_map_iff_inj_on h]
  simp only [List.forall_mem_map]
  constructor
  · intro hinj i hi j hj hmarked hcap hbase
    have hbases : baseName i.name = baseName j.name := by rw [hbase, hmarked, baseName_marked hcap]
    exact marked_ne i.name (hmarked.symm.trans (hinj i hi j hj hbases).symm)
  · intro hmarks i hi j hj hbases
    rcases eq_or_marked_of_baseName_eq hbases with heq | ⟨hmarked, hcap, hbase⟩ | ⟨hmarked, hcap, hbase⟩
    · exact heq
    · exact absurd hbase (hmarks i hi j hj hmarked hcap)
    · exact absurd hbase (hmarks j hj i hi hmarked hcap)

theorem nodup_map_append_iff (front : String) (names : List String) : (names.map (front ++ ·)).Nodup ↔ names.Nodup :=
  List.nodup_map_iff fun a b h => by simpa [← String.toList_inj] using h

/-- The definitions of an accepted package are distinct exactly when the derived names stay apart. -/
theorem definitions_nodup_iff {p : Package} (h : p.ownNames.Nodup) : p.definitions.Nodup ↔ p.Apart := by
  have hnames : (p.interfaces.map (·.name)).Nodup := (List.nodup_append.mp h).2.1
  have hproxies : p.interfaces.map proxyName = ((p.interfaces.map (·.name)).map baseName).map ("Bp" ++ ·) := by
    simp only [List.map_map]
    rfl
  have hstubs : p.interfaces.map stubName = ((p.interfaces.map (·.name)).map baseName).map ("Bn" ++ ·) := by
    simp only [List.map_map]
    rfl
  have hbases := baseNames_nodup_iff hnames
  have hdiffer : ∀ i ∈ p.interfaces, ∀ j ∈ p.interfaces, proxyName i ≠ stubName j := by
    intro i _ j _ heq
    simp [proxyName, stubName, ← String.toList_inj] at heq
  rw [p.definitions_perm.nodup_iff, List.nodup_append', List.nodup_append', hproxies, hstubs, nodup_map_append_iff, nodup_map_append_iff,
    ← hproxies, ← hstubs, hbases]
  constructor
  · rintro ⟨-, ⟨hmarks, -, -⟩, hapart⟩
    refine ⟨hmarks, fun i hi => ⟨fun hown => ?_, fun hown => ?_⟩⟩
    · exact hapart hown (List.mem_append_left _ (List.mem_map_of_mem hi))
    · exact hapart hown (List.mem_append_right _ (List.mem_map_of_mem hi))
  · intro hapart
    refine ⟨h, ⟨hapart.marks, hapart.marks, ?_⟩, ?_⟩
    · intro name hproxy hstub
      obtain ⟨i, hi, rfl⟩ := List.mem_map.mp hproxy
      obtain ⟨j, hj, heq⟩ := List.mem_map.mp hstub
      exact hdiffer i hi j hj heq.symm
    · intro name hown hderived
      rcases List.mem_append.mp hderived with hproxy | hstub
      · obtain ⟨i, hi, rfl⟩ := List.mem_map.mp hproxy
        exact (hapart.derived i hi).1 hown
      · obtain ⟨i, hi, rfl⟩ := List.mem_map.mp hstub
        exact (hapart.derived i hi).2 hown

end Package

/-- A header defines one struct or enum for each type, and an interface, a proxy and a stub for each interface. For a package that is accepted
these have different names exactly when the names of proxies and stubs stay apart. -/
theorem header_definitions_nodup_iff (g : Generator) (p : Package) (h : p.validate g.dialect = .ok ()) :
    ((Layout.runAll {} (g.header p)).error = none → List.Forall₂ Introduces (Layout.openings (g.header p)) p.definitions) ∧
      (p.definitions.Nodup ↔ p.Apart) := by
  constructor
  · intro hrun
    have hopenings := g.openings_header p (Layout.failures_of_run _ hrun)
    rwa [p.filterMap_defines?] at hopenings
  · exact Package.definitions_nodup_iff ((p.validate_eq_ok_iff g.dialect).mp h).distinct

/-- A doubled mark, and a type that is named like part of a proxy. -/
theorem header_definitions_nodup_iff_doubled :
    let types : List WireType := [.struct "::BpIF" [("x", .scalar .uint8)], .enum "::Bn" .uint8 []]
    let p : Package := { name := "p", types, interfaces := [{ name := "IFoo" }, { name := "IIFoo" }] }
    let g : Generator := { dialect := {}, proxyMode := .goto, stubMode := .goto, typeHelpers := true, includes := [] }
    p.validate g.dialect = .ok () ∧
      p.definitions = ["BpIF", "Bn", "IFoo", "BpFoo", "BnFoo", "IIFoo", "BpIFoo", "BnIFoo"] ∧
      List.Forall₂ Introduces (Layout.openings (g.header p)) p.definitions ∧ p.Apart := by
  intro types p g
  have hvalid : p.validate g.dialect = .ok () := by decide +kernel
  have hrun : (Layout.runAll {} (g.header p)).error = none := by
    rw [(g.level_header p |>.runs {} Printer.unfailing_new (Nat.zero_le _)).error]
    decide +kernel
  have hnames : p.definitions = ["BpIF", "Bn", "IFoo", "BpFoo", "BnFoo", "IIFoo", "BpIFoo", "BnIFoo"] := by decide +kernel
  obtain ⟨hdefinitions, hiff⟩ := header_definitions_nodup_iff g p hvalid
  exact ⟨hvalid, hnames, hdefinitions hrun, hiff.mp (by rw [hnames]; decide)⟩

/-- Two interfaces with one base are accepted, and their proxies and stubs are defined twice. -/
theorem header_defines_twice :
    let p : Package := { name := "p", interfaces := [{ name := "IFoo" }, { name := "Foo" }] }
    let g : Generator := { dialect := {}, proxyMode := .goto, stubMode := .goto, typeHelpers := true, includes := [] }
    p.validate g.dialect = .ok () ∧ (∃ text, g.generated p = .ok text) ∧
      Layout.openings (g.header p) = [
        "struct IFoo \x7b", "struct BpFoo final : public IFoo \x7b", "struct BnFoo \x7b",
        "struct Foo \x7b", "struct BpFoo final : public Foo \x7b", "struct BnFoo \x7b"] ∧
      ¬ p.definitions.Nodup := by
  intro p g
  have hvalid : p.validate g.dialect = .ok () := by decide +kernel
  have hfits : p.Fits g.dialect.lead := (p.validate_eq_ok_iff g.dialect).mp hvalid
  have hnames : p.definitions = ["IFoo", "BpFoo", "BnFoo", "Foo", "BpFoo", "BnFoo"] := by decide +kernel
  refine ⟨hvalid, g.generated_of_declarable rfl rfl hfits (by decide) (by decide), by decide +kernel, ?_⟩
  rw [hnames]
  decide

end Parcelgen

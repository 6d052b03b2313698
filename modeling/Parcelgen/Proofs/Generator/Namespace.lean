import Parcelgen.Proofs.Generator.Outline
import Parcelgen.Proofs.Schema.Trace
import Parcelgen.Proofs.Text.Qualified
import Parcelgen.Proofs.Wit.Trace

/-!
Namespaces of packages. The blocks around generated declarations are read off the namespace from the left, qualified names are built by joining,
and local names are found from the right; for a namespace of identifiers the three agree (`nests_iff`). Documents always give one. A component
interface takes the namespace it is given, whatever it is.
-/

namespace Parcelgen

/-- The namespace is made of identifiers, headers and sources open one block for each of them, and these are what stands in front of the
name in every qualified name. -/
structure Package.Nests (p : Package) : Prop where
  space : Text.IsSpace p.space
  parts : ∀ part ∈ p.spaces, Text.isIdentifier part = true
  header : ∀ g : Generator, Layout.openedSpaces (g.header p) = p.spaces
  source : ∀ g : Generator, Layout.openedSpaces (g.source p) = p.spaces
  qualified : ∀ name, ∃ rest, p.qualify name = "::" ++ rest ∧ Text.components rest = p.spaces ++ Text.components name
  last : ∀ name, ':' ∉ name.toList → Text.components name = [name] ∧ Text.localName (p.qualify name) = name

namespace Package

theorem spaces_isIdentifier {p : Package} (h : Text.IsSpace p.space) : ∀ part ∈ p.spaces, Text.isIdentifier part = true := by
  unfold spaces
  split
  · simp
  · rename_i hspace
    rcases (Text.isSpace_iff p.space).mp h with hempty | hparts
    · simp [hempty] at hspace
    · exact hparts

/-- A qualified name is the names of the blocks and the name, with a separator in front of each. -/
theorem qualify_eq_join (p : Package) (name : String) : p.qualify name = "::" ++ "::".intercalate (p.spaces ++ [name]) := by
  unfold qualify spaces
  split
  · simp
  · have hne : Text.components p.space ≠ [] := by simpa [Text.components] using Text.componentChars_ne_nil p.space.toList
    rw [String.intercalate_append_of_ne_nil hne (List.cons_ne_nil _ _), Text.join_components]
    simp [String.append_assoc]

theorem localName_qualify (p : Package) {name : String} (h : ':' ∉ name.toList) : Text.localName (p.qualify name) = name := by
  unfold qualify
  split
  · exact Text.localName_append "" h
  · exact Text.localName_append _ h

theorem nests_iff (p : Package) : p.Nests ↔ Text.IsSpace p.space := by
  refine ⟨Nests.space, fun h => ?_⟩
  have hparts := spaces_isIdentifier h
  refine ⟨h, hparts, fun g => g.openedSpaces_header p, fun g => g.openedSpaces_source p, fun name => ?_, fun name hname => ?_⟩
  · exact ⟨_, p.qualify_eq_join name, Text.components_join (fun part hpart => Text.colon_notMem_of_isIdentifier (hparts part hpart)) name⟩
  · exact ⟨Text.components_of_plain hname, p.localName_qualify hname⟩

end Package

namespace Schema

theorem isSpace_dropColons_iff (s : String) : (spaceParts s).all Text.isIdentifier = true ↔ Text.IsSpace (dropColons s) := by
  rw [Text.isSpace_iff, spaceParts, List.all_eq_true]
  by_cases hempty : dropColons s = ""
  · simp [hempty]
  · simp [hempty]

theorem Document.isSpace_of_resolve {doc : Document} {p : Package} (h : doc.resolve = .ok p) : Text.IsSpace p.space := by
  obtain ⟨hnames, interfaces, fin, -, rfl, -⟩ := Document.resolve_eq_ok_iff.mp h
  exact (isSpace_dropColons_iff doc.space).mp (Document.checkNames_eq_ok_iff.mp hnames).2.1

end Schema

namespace Wit

theorem Resolve.space_of_toPackage {r : Resolve} {space : String} {p : Package} (h : r.toPackage space = .ok p) : p.space = space := by
  obtain ⟨fin, hconversion⟩ := Resolve.conversion_of_toPackage (fun _ => True) (fun _ _ _ _ => trivial) (fun _ _ => trivial) h
  obtain ⟨name, hsteps⟩ := hconversion.steps
  exact hsteps.space_eq

end Wit

/-- Packages of documents nest: their namespace is made of identifiers, and the blocks that are opened for it are the components of qualified
names. Packages of component interfaces do exactly when the namespace they are given is made of identifiers. -/
theorem delivered_packages_nest (doc : Schema.Document) (r : Wit.Resolve) (space : String) (p : Package) :
    (doc.resolve = .ok p → p.Nests) ∧ (r.toPackage space = .ok p → (p.Nests ↔ Text.IsSpace space)) := by
  constructor
  · intro h
    exact p.nests_iff.mpr (Schema.Document.isSpace_of_resolve h)
  · intro h
    rw [p.nests_iff, Wit.Resolve.space_of_toPackage h]

/-- Two levels, with a separator in front that a document may write. -/
theorem delivered_packages_nest_demo :
    let doc : Schema.Document := {
      package := "store", space := "::demo::v1", types := [{ name := "Kind", kind := "enum", values := [⟨"A", ""⟩] }] }
    let shapes : Wit.Resolve := {
      defs := [{ name := some "point", kind := some (.record [("x", .primitive .u32)]) }], slots := [some 0], packages := ["shapes"] }
    (∃ p, doc.resolve = .ok p ∧ p.spaces = ["demo", "v1"] ∧ p.Nests) ∧ Text.IsSpace "demo::v1" ∧
      ∃ p, shapes.toPackage "demo::v1" = .ok p ∧ p.spaces = ["demo", "v1"] ∧ p.Nests := by
  intro doc shapes
  have hspace : Text.IsSpace "demo::v1" := by decide +kernel
  refine ⟨?_, hspace, ?_⟩
  · have hparts : doc.resolve.toOption.map (·.spaces) = some ["demo", "v1"] := by decide +kernel
    cases hp : doc.resolve with
    | error f => simp [hp, Except.toOption] at hparts
    | ok p => exact ⟨p, rfl, by simpa [hp, Except.toOption] using hparts, (delivered_packages_nest doc shapes "demo::v1" p).1 hp⟩
  · have hparts : (shapes.toPackage "demo::v1").toOption.map (·.spaces) = some ["demo", "v1"] := by decide +kernel
    cases hp : shapes.toPackage "demo::v1" with
    | error f => simp [hp, Except.toOption] at hparts
    | ok p => exact ⟨p, rfl, by simpa [hp, Except.toOption] using hparts, ((delivered_packages_nest doc shapes "demo::v1" p).2 hp).mpr hspace⟩

/-- The same separator in front of the namespace of a component interface stays: a block without a name is opened. -/
theorem converted_package_unnested :
    let shapes : Wit.Resolve := {
      defs := [{ name := some "point", kind := some (.record [("x", .primitive .u32)]) }], slots := [some 0], packages := ["shapes"] }
    ∃ p, shapes.toPackage "::demo" = .ok p ∧ p.space = "::demo" ∧ p.types.map (·.name) = ["::::demo::Point"] ∧
      (∀ g : Generator, Layout.openedSpaces (g.header p) = ["", "demo"]) ∧ ¬ p.Nests := by
  intro shapes
  have hview : (shapes.toPackage "::demo").toOption.map (fun p => (p.spaces, p.types.map (·.name))) =
      some (["", "demo"], ["::::demo::Point"]) := by decide +kernel
  cases hp : shapes.toPackage "::demo" with
  | error f => simp [hp, Except.toOption] at hview
  | ok p =>
    obtain ⟨hspaces, htypes⟩ : p.spaces = ["", "demo"] ∧ p.types.map (·.name) = ["::::demo::Point"] := by
      simpa [hp, Except.toOption] using hview
    have hspace : p.space = "::demo" := Wit.Resolve.space_of_toPackage hp
    refine ⟨p, rfl, hspace, htypes, fun g => by rw [g.openedSpaces_header, hspaces], ?_⟩
    rw [p.nests_iff, hspace]
    decide +kernel

end Parcelgen

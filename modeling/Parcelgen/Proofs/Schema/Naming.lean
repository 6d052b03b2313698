import Parcelgen.Proofs.Schema.Order
import Parcelgen.Proofs.Text.Qualified
import Parcelgen.Proofs.TypeExpr.Grammar

/-!
Names as type expressions. Declarations have identifiers for names, which are made of characters; the names in type expressions are made of
bytes, each taken for a character of its own. An identifier can be written in an expression exactly when its bytes are such a name. Then it is
resolved to its declaration, unless it is the name of an interface that is built in as well: the built-in type is found first.
-/

namespace Parcelgen

open Text (Bytes)

namespace TypeExpr

theorem isName_iff_bool (s : Bytes) : IsName s ↔ (s.head?.any startsName && s.tail.all continuesName) = true := by
  rw [isName_iff]
  cases s with
  | nil => simp
  | cons b bs => simp

instance (s : Bytes) : Decidable (IsName s) := decidable_of_iff _ (isName_iff_bool s).symm

theorem ofText_of_isName {name : String} (h : IsName (Text.bytes name)) : ofText name = .ok (.name (Text.bytes name) []) := by
  have hexpr : Expr ([] ++ (Text.bytes name ++ [])) (.name (Text.bytes name) []) := .name (by simp [IsGap]) h .nil
  have hparse : parse (Text.bytes name) = .ok (.name (Text.bytes name) []) :=
    parse_of_derives ⟨_, [], by simp, hexpr, by simp [IsGap]⟩
  simp only [ofText, hparse]

theorem eq_nil_of_isGap {gap src : Bytes} (hgap : IsGap gap) (hsub : gap ⊆ src) (hspace : 0x20 ∉ src) (htab : 0x09 ∉ src) : gap = [] := by
  refine List.eq_nil_iff_forall_not_mem.mpr fun b hb => ?_
  rcases hgap b hb with rfl | rfl
  · exact hspace (hsub hb)
  · exact htab (hsub hb)

/-- Without gaps and brackets an expression is a name. -/
theorem isName_of_derives {src : Bytes} {e : TypeExpr} (h : Derives src e) (hspace : 0x20 ∉ src) (htab : 0x09 ∉ src)
    (hdim : 0x5b ∉ src) (hvector : 0x3c ∉ src) : IsName src := by
  obtain ⟨body, last, rfl, hbody, hlast⟩ := h
  obtain rfl := eq_nil_of_isGap hlast (List.subset_append_right _ _) hspace htab
  rw [List.append_nil] at *
  cases hbody with
  | vector => simp at hvector
  | @name gap ident suffix dims hgap hident hdims =>
    obtain rfl := eq_nil_of_isGap hgap (List.subset_append_left _ _) hspace htab
    cases hdims with
    | nil => simpa using hident
    | cons => simp at hdim

/-- An identifier holds no byte that is a gap or a bracket. -/
theorem byte_notMem_of_isIdentifier {name : String} (h : Text.isIdentifier name = true) {b : UInt8} (hascii : b.toNat < 0x80)
    (hb : Text.continuesIdentifier (character b) = false) : b ∉ Text.bytes name := by
  intro hmem
  obtain ⟨c, hc, heq⟩ := Text.exists_mem_of_mem_bytes hmem hascii
  have hchar : c = character b := by rw [character, ← heq, Char.ofNat_toNat]
  exact Text.notMem_of_isIdentifier h hb (hchar ▸ hc)

theorem isName_of_ofText {name : String} (h : Text.isIdentifier name = true) {e : TypeExpr} (he : ofText name = .ok e) :
    IsName (Text.bytes name) := by
  have hderives : Derives (Text.bytes name) e := by
    simp only [ofText] at he
    split at he
    · rename_i e' hparse
      cases he
      exact derives_of_parse hparse
    · cases he
  refine isName_of_derives hderives ?_ ?_ ?_ ?_ <;> exact byte_notMem_of_isIdentifier h (by decide) (by decide +kernel)

theorem character_ofNat {c : Char} (h : c.toNat < 0x80) : character (UInt8.ofNat c.toNat) = c := by
  rw [character, UInt8.toNat_ofNat', Nat.mod_eq_of_lt (by omega), Char.ofNat_toNat]

theorem startsName_ofNat {c : Char} (h : c.toNat < 0x80) (hc : Text.startsIdentifier c = true) :
    UInt8.ofNat c.toNat = 0x5f ∨ Text.isLetter (character (UInt8.ofNat c.toNat)) = true := by
  rw [character_ofNat h]
  rcases Bool.or_eq_true_iff.mp hc with hunderscore | hletter
  · left
    rw [beq_iff_eq.mp hunderscore]
    rfl
  · exact .inr hletter

/-- In ASCII every character is one byte, so there identifiers and names are the same. -/
theorem isName_of_ascii {name : String} (h : Text.isIdentifier name = true) (hascii : ∀ c ∈ name.toList, c.toNat < 0x80) :
    IsName (Text.bytes name) := by
  have hbytes : Text.bytes name = name.toList.map fun c => UInt8.ofNat c.toNat := by
    rw [Text.bytes_eq, List.map_eq_flatMap]
    exact List.flatMap_congr fun c hc => Text.utf8EncodeChar_of_ascii (hascii c hc)
  unfold Text.isIdentifier at h
  split at h
  · cases h
  · rename_i c cs hname
    rw [Bool.and_eq_true, List.all_eq_true] at h
    rw [hname] at hascii hbytes
    refine ⟨_, _, hbytes, startsName_ofNat (hascii c List.mem_cons_self) h.1, fun b hb => ?_⟩
    obtain ⟨d, hd, rfl⟩ := List.mem_map.mp hb
    have hd' := hascii d (List.mem_cons_of_mem c hd)
    rcases Bool.or_eq_true_iff.mp (h.2 d hd) with hstarts | hdigit
    · exact (startsName_ofNat hd' hstarts).imp_right .inl
    · rw [character_ofNat hd']
      exact .inr (.inr hdigit)

end TypeExpr

namespace Schema

open Resolving

namespace Scope

variable {lookup : List String → String → Resolving WireType} {path : List String} {name : String}

/-- A name is looked up as it is written. -/
theorem typeAt_of_isName (h : TypeExpr.IsName (Text.bytes name)) : typeAt lookup path name = lookup path name := by
  unfold typeAt
  rw [TypeExpr.ofText_of_isName h]
  simp only [build, Text.ofBytes?_bytes, Option.getD_some]
  exact bind_pure _

theorem isName_of_typeAt_run (h : Text.isIdentifier name = true) {fin last : Finished} {t : WireType}
    (hrun : (typeAt lookup path name).run fin = .ok (t, last)) : TypeExpr.IsName (Text.bytes name) := by
  unfold typeAt at hrun
  split at hrun
  · rename_i e he
    exact TypeExpr.isName_of_ofText h he
  · cases hrun

/-- Interfaces are found behind built-in types. -/
theorem typeOf_interface {s : Scope} (hd : s.decl? name = none) (hi : name ∈ s.interfaces) (path : List String) :
    s.typeOf path name = pure ((builtIn? name).getD (.interface (s.package.qualify name))) := by
  unfold typeOf lookup
  cases hb : builtIn? name with
  | some t => rfl
  | none => simp [hd, hi]

end Scope

namespace Document

/-- Where `fin` is finished, the text, used at `path`, is resolved to the type. -/
def LeadsTo (doc : Document) (fin : Finished) (path : List String) (src : String) (t : WireType) : Prop :=
  ∃ last, (Scope.typeAt doc.scope.typeOf path src).run fin = .ok (t, last)

variable {doc : Document} {full fin : Finished} {p : Package}

theorem leadsTo_type_iff (hs : doc.scope.Settled full) {d : TypeDecl} (hid : Text.isIdentifier d.name = true) {t : WireType}
    (ht : (d.name, t) ∈ full) (path : List String) (hsub : fin ⊆ full) :
    doc.LeadsTo fin path d.name t ↔ TypeExpr.IsName (Text.bytes d.name) := by
  constructor
  · rintro ⟨last, hrun⟩
    exact Scope.isName_of_typeAt_run hid hrun
  · intro hname
    have hsettles := Scope.lookup_settles hs.steps.nodup hs.steps (List.Subset.refl _) _ ht _ [] path hs.steps.length_le (by simp)
    obtain ⟨last, -, hrun⟩ := hsettles fin hsub
    exact ⟨last, by rw [Scope.typeAt_of_isName hname]; exact hrun⟩

theorem leadsTo_interface_iff {i : InterfaceDecl} (hi : i ∈ doc.interfaces) (hid : Text.isIdentifier i.name = true)
    (hd : doc.scope.decl? i.name = none) (path : List String) (fin : Finished) :
    doc.LeadsTo fin path i.name (.interface (doc.scope.package.qualify i.name)) ↔
      TypeExpr.IsName (Text.bytes i.name) ∧ Scope.builtIn? i.name = none := by
  have htypeOf := Scope.typeOf_interface hd (List.mem_map_of_mem hi) path
  constructor
  · rintro ⟨last, hrun⟩
    have hname := Scope.isName_of_typeAt_run hid hrun
    refine ⟨hname, ?_⟩
    rw [Scope.typeAt_of_isName hname, htypeOf] at hrun
    cases hb : Scope.builtIn? i.name with
    | none => rfl
    | some t =>
      -- a built-in type is no handle
      rw [hb] at hrun
      cases hrun
      rcases Scope.builtIn?_cases hb with ⟨_, _, h⟩ | h <;> cases h
  · rintro ⟨hname, hb⟩
    refine ⟨fin, ?_⟩
    rw [Scope.typeAt_of_isName hname, htypeOf, hb]
    rfl

end Document

/-- Resolution finishes every declaration. -/
theorem Resolution.settled {doc : Document} {fin : Finished} {p : Package} (h : Resolution doc fin p) : doc.scope.Settled fin where
  steps := h.steps
  complete d hd := by
    obtain ⟨t, ht⟩ := h.types d hd
    exact ⟨t, (Scope.meaning?_eq_some_iff_mem (Document.scope_distinct h.names) h.steps (h.decl?_eq_some_iff.mpr ⟨hd, rfl⟩)).mp ht⟩

/-- The names of an accepted document, read as type expressions. Whatever part of the document is finished, the name of a type is resolved to
its declaration exactly when its bytes are a name, and the name of an interface to the handle of the interface exactly when, besides, it is not
built in. Names in ASCII are names in bytes. -/
theorem declared_names_lead (doc : Document) (p : Package) (h : doc.resolve = .ok p) :
    ∃ full, doc.resolveAll.run [] = .ok (p.interfaces, full) ∧
      (∀ d ∈ doc.types, ∃ t, doc.StandsFor d.name t ∧ (d.kind ≠ "typedef" → t ∈ p.types ∧ t.name = p.qualify d.name) ∧
        ∀ path fin, fin ⊆ full → (doc.LeadsTo fin path d.name t ↔ TypeExpr.IsName (Text.bytes d.name))) ∧
      (∀ i ∈ doc.interfaces, ∀ path fin, fin ⊆ full →
        (doc.LeadsTo fin path i.name (.interface (p.qualify i.name)) ↔
          TypeExpr.IsName (Text.bytes i.name) ∧ Scope.builtIn? i.name = none)) ∧
      ∀ name ∈ doc.types.map (·.name) ++ doc.interfaces.map (·.name), (∀ c ∈ name.toList, c.toNat < 0x80) →
        TypeExpr.IsName (Text.bytes name) := by
  obtain ⟨full, hrun, hres⟩ := Document.run_of_resolve h
  obtain ⟨-, -, htypes, hinterfaces⟩ := Document.checkNames_eq_ok_iff.mp hres.names
  obtain ⟨htypeNames, -⟩ := (Document.checkTypes_eq_ok_iff _ _).mp htypes
  obtain ⟨hinterfaceNames, -, hunseen⟩ := (Document.checkInterfaces_eq_ok_iff _ _).mp hinterfaces
  have hsettled := hres.settled
  obtain ⟨depth, hunfold⟩ := hsettled.steps.unfold
  refine ⟨full, hrun, fun d hd => ?_, fun i hi path fin _ => ?_, fun name hname hascii => ?_⟩
  · obtain ⟨t, ht⟩ := hsettled.complete d hd
    refine ⟨t, ⟨depth, hunfold (d.name, t) ht⟩, fun hk => ?_, fun path fin hsub => ?_⟩
    · obtain ⟨hmem, hof⟩ := hres.mem_types hd hk ht
      exact ⟨hmem, by rw [hof.name hk, hres.qualify_eq]⟩
    · exact Document.leadsTo_type_iff hsettled (htypeNames d hd).1 ht path hsub
  · have hdecl : doc.scope.decl? i.name = none := by
      refine List.find?_eq_none.mpr fun d hd hname => hunseen i.name (List.mem_map_of_mem hi) ?_
      exact List.mem_map.mpr ⟨d, hd, by simpa using hname⟩
    rw [hres.qualify_eq]
    exact Document.leadsTo_interface_iff hi (hinterfaceNames i hi) hdecl path fin
  · refine TypeExpr.isName_of_ascii ?_ hascii
    rcases List.mem_append.mp hname with hname | hname
    · obtain ⟨d, hd, rfl⟩ := List.mem_map.mp hname
      exact (htypeNames d hd).1
    · obtain ⟨i, hi, rfl⟩ := List.mem_map.mp hname
      exact hinterfaceNames i hi

/-- An alias, a name beyond ASCII that can be written, and an interface. -/
theorem declared_names_lead_store :
    let doc : Document := {
      package := "store"
      space := "acme"
      types := [
        { name := "Rows", kind := "typedef", type := "vec<Kind>[4]" },
        { name := "Kind", kind := "enum", values := [⟨"A", ""⟩] },
        { name := "ê", kind := "struct", fields := [⟨"rows", "Rows"⟩, ⟨"owner", "IStore"⟩] }]
      interfaces := [{ name := "IStore" }] }
    ∃ p, doc.resolve = .ok p ∧ (∃ t, doc.StandsFor "Rows" t ∧ doc.LeadsTo [] [] "Rows" t) ∧
      (∃ t ∈ p.types, t.name = p.qualify "ê" ∧ doc.LeadsTo [] [] "ê" t) ∧ doc.LeadsTo [] [] "IStore" (.interface (p.qualify "IStore")) := by
  intro doc
  cases hdoc : doc.resolve with
  | error f =>
    have hok : doc.resolve.toBool = true := by decide +kernel
    simp [hdoc, Except.toBool] at hok
  | ok p =>
    obtain ⟨full, -, htypes, hinterfaces, hascii⟩ := declared_names_lead doc p hdoc
    obtain ⟨rows, hrows, -, hrowsLead⟩ := htypes _ (.head _)
    obtain ⟨named, -, hnamed, hnamedLead⟩ := htypes _ (.tail _ (.tail _ (.head _)))
    obtain ⟨hmem, hname⟩ := hnamed (by decide)
    have hrowsName := hascii "Rows" (by decide +kernel) (by simp)
    have hstoreName := hascii "IStore" (by decide +kernel) (by simp)
    exact ⟨p, rfl, ⟨rows, hrows, (hrowsLead [] [] (by simp)).mpr hrowsName⟩,
      ⟨named, hmem, hname, (hnamedLead [] [] (by simp)).mpr (by decide +kernel)⟩,
      (hinterfaces _ (.head _) [] [] (by simp)).mpr ⟨hstoreName, by decide +kernel⟩⟩

/-- Two names that are accepted and lead astray: an interface that is named like a built-in type, and a name that no expression can hold. -/
theorem declared_names_astray :
    let shadow : Document := { package := "p", interfaces := [{ name := "string" }] }
    let accent : Document := { package := "p", types := [{ name := "é", kind := "enum", values := [⟨"a", ""⟩] }] }
    (∃ p, shadow.resolve = .ok p ∧ p.interfaces.map (·.name) = ["string"] ∧ ∀ fin path, shadow.LeadsTo fin path "string" .string) ∧
      ∃ p, accent.resolve = .ok p ∧ p.types.map (·.name) = ["::é"] ∧ ∀ fin path t, ¬ accent.LeadsTo fin path "é" t := by
  intro shadow accent
  constructor
  · have hnames : shadow.resolve.toOption.map (·.interfaces.map (·.name)) = some ["string"] := by decide +kernel
    cases hdoc : shadow.resolve with
    | error f => simp [hdoc, Except.toOption] at hnames
    | ok p =>
      refine ⟨p, rfl, by simpa [hdoc, Except.toOption] using hnames, fun fin path => ⟨fin, ?_⟩⟩
      rw [Scope.typeAt_of_isName (by decide +kernel), Scope.typeOf_interface rfl (.head _)]
      rfl
  · have hnames : accent.resolve.toOption.map (·.types.map (·.name)) = some ["::é"] := by decide +kernel
    cases hdoc : accent.resolve with
    | error f => simp [hdoc, Except.toOption] at hnames
    | ok p =>
      refine ⟨p, rfl, by simpa [hdoc, Except.toOption] using hnames, fun fin path t hleads => ?_⟩
      obtain ⟨last, hrun⟩ := hleads
      have hname := Scope.isName_of_typeAt_run (by decide +kernel) hrun
      revert hname
      decide +kernel

end Schema

end Parcelgen

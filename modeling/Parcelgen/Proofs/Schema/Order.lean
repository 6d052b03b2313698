import Parcelgen.Proofs.Schema.Settle
import Parcelgen.Proofs.Schema.Unfold

/-!
The order of the declarations of a document does not matter. Names are looked up in the same declarations whatever their order
(`typeOf_with_decls`), so the same types are finished, and a package with its types in another order is as valid as before.
-/

namespace Parcelgen

theorem Package.Fits.perm_types {lead : String} {p : Package} (h : p.Fits lead) {types : List WireType} (hperm : types.Perm p.types) :
    ({ p with types } : Package).Fits lead where
  named := h.named
  types t ht := h.types t (hperm.subset ht)
  interfaces := h.interfaces
  distinct := ((hperm.map _).append_right _).nodup_iff.mpr h.distinct

namespace Schema

open Resolving

namespace Scope

variable {s : Scope} {ds : List TypeDecl}

theorem decl?_with_decls (hs : s.Distinct) (h : ds.Perm s.decls) (name : String) : { s with decls := ds }.decl? name = s.decl? name := by
  have hnodup : (ds.map (·.name)).Nodup := (h.map _).nodup_iff.mpr hs.nodup
  ext d
  rw [hs.decl?_eq_some_iff]
  refine (find?_eq_some_iff_of_nodup hnodup).trans ?_
  rw [h.mem_iff]

theorem lookup_with_decls (h : ∀ name, { s with decls := ds }.decl? name = s.decl? name) (fuel : Nat) (chain path : List String)
    (name : String) : { s with decls := ds }.lookup fuel chain path name = s.lookup fuel chain path name := by
  induction fuel generalizing chain path name with
  | zero =>
    unfold lookup
    simp only [h]
  | succ fuel ih =>
    have hlook : ∀ chain, { s with decls := ds }.lookup fuel chain = s.lookup fuel chain :=
      fun chain => funext fun path => funext fun name => ih chain path name
    unfold lookup
    simp only [h, hlook]
    rfl

/-- Names have the types that they have with the declarations in another order. -/
theorem typeOf_with_decls (hs : s.Distinct) (h : ds.Perm s.decls) (path : List String) (name : String) :
    { s with decls := ds }.typeOf path name = s.typeOf path name := by
  unfold typeOf
  rw [lookup_with_decls (decl?_with_decls hs h), h.length_eq]

theorem interface_with_decls (hs : s.Distinct) (h : ds.Perm s.decls) (decl : InterfaceDecl) :
    { s with decls := ds }.interface decl = s.interface decl :=
  interface_lift Lifting.eq (t := fun _ => s) (typeOf_with_decls hs h) decl

end Scope

namespace Document

variable {doc : Document} {types : List TypeDecl} {p : Package} {fin : Finished}

theorem checkNames_of_perm (hperm : types.Perm doc.types) (h : doc.checkNames = .ok ()) :
    ({ doc with types } : Document).checkNames = .ok () := by
  obtain ⟨hp, hs, ht, hi⟩ := checkNames_eq_ok_iff.mp h
  rw [checkTypes_eq_ok_iff, Package.unseen_nil_iff] at ht
  rw [checkInterfaces_eq_ok_iff] at hi
  have hnames := hperm.map (·.name)
  refine checkNames_eq_ok_iff.mpr ⟨hp, hs, ?_, ?_⟩
  · rw [checkTypes_eq_ok_iff, Package.unseen_nil_iff]
    exact ⟨fun d hd => ht.1 d (hperm.subset hd), hnames.nodup_iff.mpr ht.2⟩
  · rw [checkInterfaces_eq_ok_iff]
    exact ⟨hi.1, hi.2.1, fun n hn hmem => hi.2.2 n hn (hnames.subset hmem)⟩

theorem scope_distinct (h : doc.checkNames = .ok ()) : doc.scope.Distinct := by
  obtain ⟨-, -, ht, -⟩ := checkNames_eq_ok_iff.mp h
  rw [checkTypes_eq_ok_iff, Package.unseen_nil_iff] at ht
  exact ⟨fun d hd => builtIn?_of_isBuiltIn (ht.1 d hd).2, ht.2⟩

/-- Resolution of the declarations in another order finishes the same types and ends in the same interfaces. -/
theorem resolveAll_of_perm (hperm : types.Perm doc.types) (hnames : doc.checkNames = .ok ()) {interfaces : List Interface}
    (h : doc.resolveAll.run [] = .ok (interfaces, fin)) :
    ∃ other, ({ doc with types } : Document).resolveAll.run [] = .ok (interfaces, other) ∧ doc.scope.Settled fin ∧ doc.scope.Settled other ∧
      other.Perm fin := by
  have hs := scope_distinct hnames
  obtain ⟨u, mid, htypes, hinterfaces⟩ := run_bind_eq_ok_iff.mp h
  have hmid := Scope.settled_of_typesOf hs (List.Subset.refl _) htypes
  obtain ⟨other, hother, hsettled, hfin⟩ := hmid.typesOf_run hs hperm
  obtain ⟨r, hr, hr'⟩ := hmid.interfaces_agree hs hsettled hfin doc.interfaces
  rw [hr] at hinterfaces
  cases r with
  | error f => cases hinterfaces
  | ok is =>
    cases hinterfaces
    refine ⟨other, ?_, hmid, hsettled, hfin⟩
    have htypeOf : ∀ path name, ({ doc with types } : Document).scope.typeOf path name = doc.scope.typeOf path name :=
      Scope.typeOf_with_decls hs hperm
    have hinterface : ({ doc with types } : Document).scope.interface = doc.scope.interface :=
      funext (Scope.interface_with_decls hs hperm)
    unfold resolveAll
    simp only [htypeOf, hinterface]
    exact run_bind_eq_ok_iff.mpr ⟨_, other, hother, hr'⟩

theorem declared_with_types (hperm : types.Perm doc.types) (hs : doc.scope.Distinct) (fin : Finished) :
    ({ doc with types } : Document).declared fin = doc.declared fin := by
  have hdecl : ∀ name, ({ doc with types } : Document).scope.decl? name = doc.scope.decl? name := Scope.decl?_with_decls hs hperm
  unfold declared
  simp only [hdecl]

/-- The finished declarations and the packages of a document and of the same document with its types in another order. -/
structure Reordered (doc : Document) (types : List TypeDecl) (fin other : Finished) (p q : Package) : Prop where
  runs : ∃ interfaces, doc.resolveAll.run [] = .ok (interfaces, fin) ∧
    ({ doc with types } : Document).resolveAll.run [] = .ok (interfaces, other)
  settled : doc.scope.Settled fin ∧ doc.scope.Settled other
  perm : other.Perm fin
  types : q.types.Perm p.types
  interfaces : q.interfaces = p.interfaces

theorem reordered_of_resolve (hperm : types.Perm doc.types) (h : doc.resolve = .ok p) :
    ∃ q fin other, ({ doc with types } : Document).resolve = .ok q ∧ doc.Reordered types fin other p q := by
  obtain ⟨hnames, interfaces, fin, hrun, rfl, hvalid⟩ := resolve_eq_ok_iff.mp h
  obtain ⟨other, hother, hfin, hsettled, hotherPerm⟩ := resolveAll_of_perm hperm hnames hrun
  have htypes : (({ doc with types } : Document).declared other).Perm (doc.declared fin) := by
    rw [declared_with_types hperm (scope_distinct hnames)]
    exact hotherPerm.filterMap _
  refine ⟨_, fin, other, resolve_eq_ok_iff.mpr ⟨checkNames_of_perm hperm hnames, interfaces, other, hother, rfl, ?_⟩,
    ⟨interfaces, hrun, hother⟩, ⟨hfin, hsettled⟩, hotherPerm, htypes, rfl⟩
  exact (Package.validate_eq_ok_iff _ _).mpr (((Package.validate_eq_ok_iff _ _).mp hvalid).perm_types htypes)

/-- The type that resolution finishes for a declared name. -/
def resolved? (doc : Document) (name : String) : Option WireType :=
  match doc.resolveAll.run [] with
  | .ok (_, fin) => (fin.find? (·.1 == name)).map (·.2)
  | .error _ => none

theorem resolved?_of_run {interfaces : List Interface} (h : doc.resolveAll.run [] = .ok (interfaces, fin)) (hfin : (fin.map (·.1)).Nodup)
    {name : String} {t : WireType} (hmem : (name, t) ∈ fin) : doc.resolved? name = some t := by
  unfold resolved?
  rw [h]
  simp only [(find?_eq_some_iff_of_nodup hfin).mpr ⟨hmem, rfl⟩, Option.map_some]

/-- The name stands for the type: putting declarations in for names leads there. -/
def StandsFor (doc : Document) (name : String) (t : WireType) : Prop := ∃ depth, doc.scope.unfold depth name = some t

/-- The text describes the type when the types of names are put in for its names. -/
def Denotes (doc : Document) (src : String) (t : WireType) : Prop := ∃ depth, typeIn (doc.scope.unfold depth) src = some t

/-- A name stands for one type at most. -/
theorem StandsFor.iff {name : String} {t : WireType} (h : doc.StandsFor name t) (u : WireType) : doc.StandsFor name u ↔ u = t := by
  obtain ⟨depth, ht⟩ := h
  constructor
  · rintro ⟨more, hu⟩
    exact Scope.unfold_unique hu ht
  · rintro rfl
    exact ⟨depth, ht⟩

/-- A declared struct has the members of its declaration, with the types that their texts describe. -/
theorem StandsFor.members (hs : doc.scope.Distinct) {d : TypeDecl} (hd : d ∈ doc.types) (hk : d.kind = "struct") {t : WireType}
    (h : doc.StandsFor d.name t) : ∃ fields, t = .struct (doc.scope.package.qualify d.name) fields ∧
      List.Forall₂ (fun f m => m.1 = f.name ∧ doc.Denotes f.type m.2) d.fields fields := by
  have hdecl := hs.decl?_eq_some_iff.mpr ⟨hd, rfl⟩
  have hb := hs.own d hd
  obtain ⟨depth, ht⟩ := h
  have hmore := Scope.unfold_succ ht
  rw [Scope.unfold_of_decl hb hdecl, TypeDecl.subst_struct hk] at hmore
  obtain ⟨fields, hfields, rfl⟩ := Option.map_eq_some_iff.mp hmore
  exact ⟨fields, rfl, (forall₂_of_membersIn hfields).imp fun f m hm => ⟨hm.1, depth, hm.2⟩⟩

/-- The parameter has the name of its declaration and the type that the text there describes. -/
def Describes (doc : Document) (f : FieldDecl) (x : Param) : Prop := x.name = f.name ∧ doc.Denotes f.type x.type

theorem describes_of_paramOf {depth : Nat} (hfin : ∀ e ∈ fin, doc.scope.unfold depth e.1 = some e.2) {f : FieldDecl} {x : Param}
    (h : doc.scope.ParamOf fin f x) : doc.Describes f x := by
  obtain ⟨path, hgives⟩ := h.type
  have htype := (Scope.declarableAt_yields_typeIn (fun path name => Scope.known_yields_meaning path name) path f.type).of_gives hgives
  exact ⟨h.name, depth, typeIn_mono (fun _ _ => Scope.unfold_of_meaning? hfin) htype⟩

end Document

theorem Resolution.describes {doc : Document} {fin : Finished} {p : Package} (h : Resolution doc fin p) :
    List.Forall₂ (fun decl i => i.name = decl.name ∧ List.Forall₂ (fun md m => m.name = md.name ∧ m.oneway = md.oneway ∧
      List.Forall₂ doc.Describes md.args m.args ∧ List.Forall₂ doc.Describes md.results m.results) decl.methods i.methods)
      doc.interfaces p.interfaces := by
  obtain ⟨depth, hfin⟩ := h.steps.unfold
  have hparams : ∀ {fs xs}, List.Forall₂ (doc.scope.ParamOf fin) fs xs → List.Forall₂ doc.Describes fs xs :=
    fun hxs => hxs.imp fun _ _ hx => Document.describes_of_paramOf hfin hx
  exact h.interfaces.imp fun decl i hi => ⟨hi.name, hi.methods.imp fun md m hm =>
    ⟨hm.name, hm.oneway, hparams hm.args, hparams hm.results⟩⟩

/-- The order of declarations does not matter: with its types in another order a document is accepted or refused as before, every declared
name, member and parameter gets the same type, which is what its text stands for when declarations are put in for names, and the packages
differ in the order of their types only. -/
theorem resolve_perm (doc : Document) (types : List TypeDecl) (hperm : types.Perm doc.types) :
    ((∃ p, doc.resolve = .ok p) ↔ ∃ q, ({ doc with types } : Document).resolve = .ok q) ∧
    ∀ p q, doc.resolve = .ok p → ({ doc with types } : Document).resolve = .ok q →
      (∀ d ∈ doc.types, ∃ t, doc.resolved? d.name = some t ∧ ({ doc with types } : Document).resolved? d.name = some t ∧
        (∀ u, doc.StandsFor d.name u ↔ u = t) ∧
        (d.kind = "struct" → ∃ fields, t = .struct (p.qualify d.name) fields ∧
          List.Forall₂ (fun f m => m.1 = f.name ∧ doc.Denotes f.type m.2) d.fields fields)) ∧
      List.Forall₂ (fun decl i => i.name = decl.name ∧ List.Forall₂ (fun md m => m.name = md.name ∧ m.oneway = md.oneway ∧
        List.Forall₂ doc.Describes md.args m.args ∧ List.Forall₂ doc.Describes md.results m.results) decl.methods i.methods)
        doc.interfaces p.interfaces ∧
      q.interfaces = p.interfaces ∧ q.types.Perm p.types := by
  refine ⟨⟨?_, ?_⟩, fun p q hp hq => ?_⟩
  · rintro ⟨p, hp⟩
    obtain ⟨q, -, -, hq, -⟩ := Document.reordered_of_resolve hperm hp
    exact ⟨q, hq⟩
  · rintro ⟨q, hq⟩
    obtain ⟨p, -, -, hp, -⟩ := Document.reordered_of_resolve (by exact hperm.symm) hq
    exact ⟨p, hp⟩
  · obtain ⟨q', fin, other, hq', h⟩ := Document.reordered_of_resolve hperm hp
    obtain rfl : q = q' := Except.ok.inj (hq.symm.trans hq')
    obtain ⟨interfaces, hrun, hother⟩ := h.runs
    obtain ⟨table, hres⟩ := Document.resolution_of_resolve hp
    obtain ⟨depth, hunfold⟩ := h.settled.1.steps.unfold
    refine ⟨fun d hd => ?_, hres.describes, h.interfaces, h.types⟩
    obtain ⟨t, ht⟩ := h.settled.1.complete d hd
    have hstands : doc.StandsFor d.name t := ⟨depth, hunfold (d.name, t) ht⟩
    refine ⟨t, Document.resolved?_of_run hrun h.settled.1.steps.nodup ht,
      Document.resolved?_of_run hother h.settled.2.steps.nodup (h.perm.symm.subset ht), hstands.iff, fun hk => ?_⟩
    rw [hres.qualify_eq]
    exact hstands.members (Document.scope_distinct hres.names) hd hk

/-- A struct is finished late or early, in front of or behind a type that has nothing to do with it. -/
theorem resolve_perm_bag :
    let bag : TypeDecl := { name := "Bag", kind := "struct", fields := [⟨"rows", "Rows"⟩, ⟨"owner", "IStore"⟩] }
    let rows : TypeDecl := { name := "Rows", kind := "typedef", type := "vec<Kind>[4]" }
    let kind : TypeDecl := { name := "Kind", kind := "enum", values := [⟨"A", ""⟩, ⟨"B", "7"⟩] }
    let extent : TypeDecl := { name := "Extent", kind := "struct", fields := [⟨"width", "uint32"⟩] }
    let doc : Document := {
      package := "store"
      types := [bag, rows, kind, extent]
      interfaces := [{ name := "IStore", methods := [{ name := "put", args := [⟨"bag", "Bag"⟩], results := [⟨"extents", "vec<Extent>"⟩] }] }] }
    let other : Document := { doc with types := [extent, rows, bag, kind] }
    other.types.Perm doc.types ∧ ∃ p q, doc.resolve = .ok p ∧ other.resolve = .ok q ∧
      (∃ t, doc.resolved? "Bag" = some t ∧ other.resolved? "Bag" = some t ∧ ∀ u, doc.StandsFor "Bag" u ↔ u = t) ∧
      q.interfaces = p.interfaces ∧ q.types.Perm p.types ∧
      p.types.map (·.localName) = ["Kind", "Bag", "Extent"] ∧ q.types.map (·.localName) = ["Extent", "Kind", "Bag"] := by
  intro bag rows kind extent doc other
  have hperm : other.types.Perm doc.types := by decide +kernel
  obtain ⟨haccepts, hsame⟩ := resolve_perm doc other.types hperm
  have hlocal : doc.resolve.toOption.map (·.types.map (·.localName)) = some ["Kind", "Bag", "Extent"] := by decide +kernel
  have hlocal' : other.resolve.toOption.map (·.types.map (·.localName)) = some ["Extent", "Kind", "Bag"] := by decide +kernel
  cases hp : doc.resolve with
  | error f => simp [hp, Except.toOption] at hlocal
  | ok p =>
    obtain ⟨q, hq⟩ := haccepts.mp ⟨p, hp⟩
    obtain ⟨hnames, -, hinterfaces, htypes⟩ := hsame p q hp hq
    obtain ⟨t, ht, ht', hstands, -⟩ := hnames bag (.head _)
    refine ⟨hperm, p, q, rfl, hq, ⟨t, ht, ht', hstands⟩, hinterfaces, htypes, ?_, ?_⟩
    · simpa [hp, Except.toOption] using hlocal
    · simpa [show other.resolve = .ok q from hq, Except.toOption] using hlocal'

end Schema

end Parcelgen

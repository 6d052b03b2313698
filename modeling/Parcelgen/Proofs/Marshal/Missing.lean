import Parcelgen.Proofs.Layout.Kind
import Parcelgen.Proofs.Marshal.Refusal
import Parcelgen.Proofs.WireType.Spelling

/-!
Missing parts of a type tree. Before anything is emitted the whole tree is looked through, also where a walk would not go, and the first
missing part in the order of declarations is reported together with the names on the way to it (`missing?_eq_some`). What is emitted for a
complete tree may fail in other ways, but never for a missing part (`transferFault?_kind`). So the early look is the only one that finds one.
-/

namespace Parcelgen

open Naming

namespace WireType

/-- The names on the way along a path: for every member its struct's and its own. Elements have no names. -/
def trail : WireType → Path → List String
  | .struct name fields, .member i :: p =>
    match fields[i]? with
    | some (field, t) => name :: field :: t.trail p
    | none => []
  | .array elem _, .element :: p | .vector elem, .element :: p => elem.trail p
  | _, _ => []

/-- The first place of the tree, in the order of declarations, where a part is missing. -/
structure FirstMissing (t : WireType) (q : Path) : Prop where
  missing : t.at? q = some .absent
  first : ∀ q', t.at? q' = some .absent → q' = q ∨ Path.Before q q'

/-- The fault tells of the part that is missing at `q`: what it is a part of, whether it is a member or an element, and the way to it. -/
structure Describes (t : WireType) (q : Path) (f : Fault) : Prop where
  phase : f.phase = .emit
  kind : f.kind = .nilElement
  path : f.path = t.trail q
  owner : ∃ r s u, q = r ++ [s] ∧ t.at? r = some u ∧ f.typeName = u.text ∧
    f.detail = if s = .element then "element type is nil" else "member type is nil"

theorem eq_absent {t : WireType} (h : t.isAbsent = true) : t = .absent := by
  cases t with
  | absent => rfl
  | _ => cases h

theorem at?_absent {q : Path} {u : WireType} (h : absent.at? q = some u) : q = [] := by
  cases q with
  | nil => rfl
  | cons s q => simp [child?] at h

theorem firstMissing_absent : absent.FirstMissing [] := ⟨at?_nil _, fun _ h => .inl (at?_absent h)⟩

/-- One step further out, when nothing is missing below the steps in front of this one. -/
theorem FirstMissing.cons {t u : WireType} {s : Step} {q : Path} (h : u.FirstMissing q) (ht : t.isAbsent = false)
    (hu : t.child? s = some u) (hothers : ∀ s' u', t.child? s' = some u' → s' = s ∨ s.before s' ∨ u'.Complete) :
    t.FirstMissing (s :: q) := by
  refine ⟨by simpa [hu] using h.missing, ?_⟩
  intro q' hq'
  cases q' with
  | nil =>
    rw [at?_nil] at hq'
    cases hq'
    cases ht
  | cons s' q' =>
    obtain ⟨u', hu', hq'⟩ := at?_cons_eq_some hq'
    rcases hothers s' u' hu' with rfl | hbefore | hcomplete
    · rw [hu] at hu'
      cases hu'
      rcases h.first q' hq' with rfl | hbefore
      · exact .inl rfl
      · exact .inr (.cons hbefore)
    · exact .inr (.rel hbefore)
    · exact absurd hq' (hcomplete q')

theorem Describes.cons {t u : WireType} {s : Step} {q : Path} {f : Fault} (h : u.Describes q f) (hu : t.child? s = some u)
    (names : List String) (hnames : t.trail (s :: q) = names ++ u.trail q) : t.Describes (s :: q) (f.within names) := by
  obtain ⟨r, last, v, rfl, hv, htype, hdetail⟩ := h.owner
  refine ⟨h.phase, h.kind, ?_, s :: r, last, v, rfl, by simpa [hu] using hv, htype, hdetail⟩
  rw [hnames, ← h.path]
  rfl

/-- The element of a vector or array is missing, or something below it. -/
theorem missing_element {t elem : WireType} {f : Fault} (hroot : t.isAbsent = false)
    (hchild : ∀ s u, t.child? s = some u ↔ s = .element ∧ u = elem) (htrail : ∀ q, t.trail (.element :: q) = elem.trail q)
    (h : (if elem.isAbsent then some (.nilElement .emit t.text) else elem.missing?) = some f)
    (ih : ∀ f, elem.missing? = some f → ∃ q, elem.FirstMissing q ∧ elem.Describes q f) :
    ∃ q, t.FirstMissing q ∧ t.Describes q f := by
  have helem : t.child? .element = some elem := (hchild _ _).mpr ⟨rfl, rfl⟩
  have hothers : ∀ s' u', t.child? s' = some u' → s' = .element ∨ Step.before .element s' ∨ u'.Complete := by
    intro s' u' hu'
    exact .inl ((hchild _ _).mp hu').1
  cases habsent : elem.isAbsent with
  | true =>
    obtain rfl := eq_absent habsent
    rw [habsent, if_pos rfl] at h
    cases h
    refine ⟨[.element], firstMissing_absent.cons hroot helem hothers, rfl, rfl, ?_, [], .element, t, rfl, at?_nil t, rfl, rfl⟩
    rw [htrail]
    rfl
  | false =>
    rw [habsent] at h
    obtain ⟨q, hfirst, hdescribes⟩ := ih f (by simpa using h)
    exact ⟨.element :: q, hfirst.cons hroot helem hothers, hdescribes.cons helem [] (htrail q)⟩

theorem child?_struct {name : String} {fields : List (String × WireType)} {s : Step} {u : WireType}
    (h : (struct name fields).child? s = some u) : ∃ j field, s = .member j ∧ fields[j]? = some (field, u) := by
  rcases child?_cases h with ⟨_, _, j, field, heq, rfl, hj⟩ | ⟨_, heq, -⟩ | ⟨heq, -⟩
  · cases heq
    exact ⟨j, field, rfl, hj⟩
  · cases heq
  · cases heq

theorem trail_member {name field : String} {fields : List (String × WireType)} {i : Nat} {u : WireType}
    (h : fields[i]? = some (field, u)) (q : Path) : (struct name fields).trail (.member i :: q) = [name, field] ++ u.trail q := by
  simp [trail, h]

/-- Why a struct is refused: the first member that is missing or has something missing below it. -/
def MemberMissing (name : String) (fields : List (String × WireType)) (f : Fault) : Prop :=
  ∃ (i : Nat) (field : String) (u : WireType), fields[i]? = some (field, u) ∧ (∀ j g, j < i → fields[j]? = some g → g.2.Complete) ∧
    (u = .absent ∧ f = { phase := .emit, kind := .nilElement, path := [name, field], typeName := name, detail := "member type is nil" } ∨
      ∃ q f', u.FirstMissing q ∧ u.Describes q f' ∧ f = f'.within [name, field])

theorem MemberMissing.cons {name field : String} {t : WireType} {rest : List (String × WireType)} {f : Fault}
    (h : MemberMissing name rest f) (ht : t.Complete) : MemberMissing name ((field, t) :: rest) f := by
  obtain ⟨i, field', u, hi, hbefore, hcase⟩ := h
  refine ⟨i + 1, field', u, by simpa using hi, ?_, hcase⟩
  intro j g hj hg
  cases j with
  | zero =>
    cases hg
    exact ht
  | succ j => exact hbefore j g (by omega) (by simpa using hg)

theorem MemberMissing.first {name : String} {fields : List (String × WireType)} {f : Fault} (h : MemberMissing name fields f) :
    ∃ q, (struct name fields).FirstMissing q ∧ (struct name fields).Describes q f := by
  obtain ⟨i, field, u, hi, hbefore, hcase⟩ := h
  have hchild : (struct name fields).child? (.member i) = some u := by simp [child?, hi]
  have hothers : ∀ s' u', (struct name fields).child? s' = some u' → s' = .member i ∨ Step.before (.member i) s' ∨ u'.Complete := by
    intro s' u' hu'
    obtain ⟨j, field', rfl, hj⟩ := child?_struct hu'
    rcases Nat.lt_trichotomy j i with hlt | rfl | hgt
    · exact .inr (.inr (hbefore j _ hlt hj))
    · exact .inl rfl
    · exact .inr (.inl hgt)
  rcases hcase with ⟨rfl, rfl⟩ | ⟨q, f', hfirst, hdescribes, rfl⟩
  · refine ⟨[.member i], firstMissing_absent.cons rfl hchild hothers, rfl, rfl, (trail_member hi []).symm, [], .member i, _, rfl, at?_nil _, ?_,
      rfl⟩
    simp [text, describe]
  · exact ⟨.member i :: q, hfirst.cons rfl hchild hothers, hdescribes.cons hchild [name, field] (trail_member hi q)⟩

mutual

/-- What is reported is the first missing part. -/
theorem missing?_eq_some : ∀ (t : WireType) {f : Fault}, t.missing? = some f → ∃ q, t.FirstMissing q ∧ t.Describes q f
  | .absent, _, h | .scalar _, _, h | .string, _, h | .enum _ _ _, _, h | .interface _, _, h => by simp [missing?] at h
  | .vector elem, f, h => by
    rw [missing?] at h
    exact missing_element rfl (fun s u => by cases s <;> simp [child?, eq_comm]) (fun _ => rfl) h fun f hf => missing?_eq_some elem hf
  | .array elem dim, f, h => by
    rw [missing?] at h
    exact missing_element rfl (fun s u => by cases s <;> simp [child?, eq_comm]) (fun _ => rfl) h fun f hf => missing?_eq_some elem hf
  | .struct name fields, f, h => by
    rw [missing?] at h
    exact (missingMember?_eq_some name fields h).first

theorem missingMember?_eq_some (name : String) : ∀ (fields : List (String × WireType)) {f : Fault}, missingMember? name fields = some f →
    MemberMissing name fields f
  | [], _, h => by simp [missingMember?] at h
  | (field, t) :: rest, f, h => by
    rw [missingMember?] at h
    split at h
    · rename_i habsent
      obtain rfl := eq_absent habsent
      cases h
      exact ⟨0, field, .absent, rfl, fun j g hj => absurd hj j.not_lt_zero, .inl ⟨rfl, rfl⟩⟩
    · rename_i hpresent
      split at h
      · rename_i f' hf'
        cases h
        obtain ⟨q, hfirst, hdescribes⟩ := missing?_eq_some t hf'
        exact ⟨0, field, t, rfl, fun j g hj => absurd hj j.not_lt_zero, .inr ⟨q, f', hfirst, hdescribes, rfl⟩⟩
      · rename_i hnone
        have ht : t.Complete := (complete_iff t).mpr ⟨by simpa using hpresent, hnone⟩
        exact (missingMember?_eq_some name rest h).cons ht

end

/-- The failure, if there is one, is not that a part is missing. -/
def OtherFault (failed : Option Error) : Prop := ∀ e, failed = some e → e.kind? ≠ some .nilElement

theorem otherFault_none : OtherFault none := by
  intro e he
  cases he

theorem otherFault_of_kind {f : Fault} (h : f.kind ≠ .nilElement) : OtherFault (some (.fault f)) := by
  intro e he
  cases he
  simpa using h

theorem otherFault_mode (mode : Unwind) : OtherFault mode.fault? := by
  unfold Unwind.fault?
  split
  · exact otherFault_of_kind fun h => by cases h
  · exact otherFault_none

theorem OtherFault.or {first second : Option Error} (h₁ : OtherFault first) (h₂ : OtherFault second) : OtherFault (first.or second) := by
  cases first with
  | none => exact h₂
  | some e => exact h₁

theorem OtherFault.within {failed : Option Error} (h : OtherFault failed) (path : List String) :
    OtherFault (failed.map (·.within path)) := by
  intro e he
  obtain ⟨e', he', rfl⟩ := Option.map_eq_some_iff.mp he
  rw [Error.kind?_within]
  exact h e' he'

theorem isAbsent_of_complete {t : WireType} (h : t.Complete) : t.isAbsent = false := ((complete_iff t).mp h).1

/-- A type that is spelled through an element that is there fails where the element does, or for the element's suffix. -/
theorem throughElement_kind {d : Dialect} {elem whole : WireType} {absent f : Fault} {pass : String → StorageMode → Except Fault Spelling}
    (hpass : ∀ name, ∃ s, pass name .stack = .ok s) (helem : elem.Complete)
    (ih : ∀ {f : Fault}, elem.spell d .stack = .error f → f.kind ≠ .nilElement)
    (h : throughElement d elem whole absent pass .stack = .error f) : f.kind ≠ .nilElement := by
  rcases throughElement_cases d elem whole absent pass with ⟨g, hcause, hg⟩ | ⟨name, hname⟩
  · obtain rfl : g = f := by simpa [hg] using h
    rcases hcause with ⟨habsent, -⟩ | hspell | ⟨suffix, rfl⟩
    · rw [isAbsent_of_complete helem] at habsent
      cases habsent
    · exact ih hspell
    · intro hkind
      cases hkind
  · obtain ⟨s, hs⟩ := hpass name
    rw [hname, hs] at h
    cases h

/-- Spelling a complete type does not fail for a missing part. -/
theorem spell_kind (d : Dialect) : ∀ {t : WireType}, t.Complete → ∀ {f : Fault}, t.spell d .stack = .error f → f.kind ≠ .nilElement
  | .absent, ht, _, _ => absurd rfl (ht [])
  | .scalar k, _, f, h => by
    rw [spell] at h
    split at h
    · cases h
    · cases h
      intro hkind
      cases hkind
  | .enum _ _ _, _, _, h | .string, _, _, h | .struct _ _, _, _, h | .interface _, _, _, h => by cases h
  | .vector elem, ht, f, h => by
    have helem : elem.Complete := complete_of_child ht (s := .element) rfl
    rw [spell_vector] at h
    exact throughElement_kind (fun _ => ⟨_, rfl⟩) helem (spell_kind d helem) h
  | .array elem dim, ht, f, h => by
    have helem : elem.Complete := complete_of_child ht (s := .element) rfl
    rw [spell_array] at h
    exact throughElement_kind (fun _ => ⟨_, rfl⟩) helem (spell_kind d helem) h

theorem complete_arrayShape : ∀ {t : WireType}, t.Complete → t.arrayShape.1.Complete
  | .array elem _, h => complete_arrayShape (t := elem) (complete_of_child h (s := .element) rfl)
  | .absent, h | .scalar _, h | .string, h | .vector _, h | .struct _ _, h | .enum _ _ _, h | .interface _, h => h

theorem byteSize_kind {d : Dialect} {t : WireType} (ht : t.Complete) {f : Fault} (h : t.byteSize d = .error f) : f.kind ≠ .nilElement := by
  have hbase := complete_arrayShape ht
  cases hs : t.arrayShape.1.spell d .stack with
  | error g =>
    obtain rfl : g = f := by simpa [byteSize, isAbsent_of_complete hbase, hs, bind, Except.bind] using h
    exact spell_kind d hbase hs
  | ok s => simp [byteSize, isAbsent_of_complete hbase, hs, bind, Except.bind, pure, Except.pure] at h

theorem elementFault?_kind {d : Dialect} {mode : Unwind} {whole elem : WireType} {body : Option Error} (helem : elem.Complete)
    (hbody : OtherFault body) : OtherFault (elementFault? d mode whole elem body) := by
  unfold elementFault?
  split
  · rename_i f hf
    exact otherFault_of_kind (byteSize_kind helem hf)
  · split
    · exact otherFault_of_kind fun h => by cases h
    · exact hbody

mutual

theorem walkFault?_kind (d : Dialect) (mode : Unwind) : ∀ {t : WireType}, t.Complete → OtherFault (t.walkFault? d mode)
  | .absent, _ | .scalar _, _ | .enum _ _ _, _ => by
    rw [walkFault?]
    exact otherFault_none
  | .string, _ | .interface _, _ => by
    rw [walkFault?]
    exact otherFault_mode mode
  | .struct name fields, ht => by
    rw [walkFault?]
    exact memberFault?_kind d mode name (complete_struct_iff.mp ht)
  | .array elem dim, ht => by
    have helem : elem.Complete := complete_of_child ht (s := .element) rfl
    rw [walkFault?]
    split
    · exact elementFault?_kind helem (walkFault?_kind d mode helem)
    · exact otherFault_none
  | .vector elem, ht => by
    have helem : elem.Complete := complete_of_child ht (s := .element) rfl
    rw [walkFault?]
    split
    · rename_i f hf
      exact otherFault_of_kind (spell_kind d ht hf)
    · refine (otherFault_mode mode).or ?_
      split
      · exact elementFault?_kind helem (walkFault?_kind d mode helem)
      · exact otherFault_none

theorem memberFault?_kind (d : Dialect) (mode : Unwind) (name : String) : ∀ {fields : List (String × WireType)},
    (∀ f ∈ fields, f.2.Complete) → OtherFault (memberFault? d mode name fields)
  | [], _ => otherFault_none
  | (field, t) :: rest, h => by
    obtain ⟨ht, hrest⟩ := List.forall_mem_cons.mp h
    rw [memberFault?]
    refine OtherFault.or ?_ (memberFault?_kind d mode name hrest)
    split
    · exact (walkFault?_kind d mode ht).within [name, field]
    · exact otherFault_none

end

theorem scalarFault?_kind (mode : Unwind) (k : Scalar) : OtherFault (scalarFault? mode k) := by
  unfold scalarFault?
  split
  · exact otherFault_mode mode
  · exact otherFault_of_kind fun h => by cases h

theorem transferFault?_kind (d : Dialect) (mode : Unwind) {t : WireType} (ht : t.Complete) : OtherFault (t.transferFault? d mode) := by
  have hwalk : OtherFault (mode.fault?.or (t.walkFault? d mode)) := (otherFault_mode mode).or (walkFault?_kind d mode ht)
  unfold transferFault?
  rw [((complete_iff t).mp ht).2]
  cases t with
  | absent => exact absurd rfl (ht [])
  | scalar k => exact scalarFault?_kind mode k
  | enum name storage values =>
    show OtherFault (if storage.isInteger then scalarFault? mode storage else _)
    split
    · exact scalarFault?_kind mode storage
    · exact otherFault_of_kind fun h => by cases h
  | interface name => exact otherFault_mode mode
  | string | struct name fields => exact hwalk
  | vector elem =>
    cases hs : (vector elem).spell d .stack with
    | error f => simpa only [hs, Option.map_none, Option.none_or] using otherFault_of_kind (spell_kind d ht hs)
    | ok s => simpa only [hs, Option.map_none, Option.none_or] using hwalk
  | array elem dim =>
    have helem : elem.Complete := complete_of_child ht (s := .element) rfl
    cases hs : elem.spell d .stack with
    | error f => simpa only [hs, Option.map_none, Option.none_or] using otherFault_of_kind (spell_kind d helem hs)
    | ok s =>
      simp only [hs, Option.map_none, Option.none_or]
      split
      · exact hwalk
      · exact otherFault_of_kind fun h => by cases h

end WireType

open WireType

/-- A way to emit that first looks for missing parts. -/
theorem refused_iff_missing {d : Dialect} {t : WireType} (ht : t ≠ .absent) {emit : Naming (List Stmt)} {s : Option NameScope}
    (hmissing : ∀ f, t.missing? = some f → emit = pure [.fail f]) (hother : t.Complete → OtherFault (Stmt.failures d (out emit s)))
    {p : Printer} (hp : p.Spares .nilElement) :
    let outcome := Layout.runAll p (Stmt.layoutAll d (out emit s))
    ((∃ e, outcome.error = some e ∧ e.kind? = some .nilElement) ↔ ∃ q, t.at? q = some .absent) ∧
      ((∃ q, t.at? q = some .absent) → outcome.printer = p ∧ scopeAfter emit s = s ∧
        ∃ q f, t.FirstMissing q ∧ t.Describes q f ∧ outcome.error = some (.fault f)) := by
  intro outcome
  cases hm : t.missing? with
  | some f =>
    obtain ⟨q, hfirst, hdescribes⟩ := missing?_eq_some t hm
    have hemit := hmissing f hm
    have houtcome : outcome = { printer := p, error := some (.fault f) } := by
      show Layout.runAll p (Stmt.layoutAll d (out emit s)) = _
      rw [hemit]
      rfl
    have hscope : scopeAfter emit s = s := by rw [hemit, scopeAfter_pure]
    rw [houtcome]
    refine ⟨⟨fun _ => ⟨q, hfirst.missing⟩, fun _ => ⟨_, rfl, ?_⟩⟩, fun _ => ⟨rfl, hscope, q, f, hfirst, hdescribes, rfl⟩⟩
    rw [Error.kind?_fault, hdescribes.kind]
  | none =>
    have hpresent : t.isAbsent = false := by
      cases t with
      | absent => exact absurd rfl ht
      | _ => rfl
    have hcomplete : t.Complete := (complete_iff t).mpr ⟨hpresent, hm⟩
    have hnowhere : ¬ ∃ q, t.at? q = some .absent := by
      rintro ⟨q, hq⟩
      exact hcomplete q hq
    refine ⟨⟨?_, fun h => absurd h hnowhere⟩, fun h => absurd h hnowhere⟩
    rintro ⟨e, he, hkind⟩
    -- The error would have to be the first failure of the script, and none of its failures is of this kind.
    have hfailure := (Layout.runAll_spares (by decide) (by decide) (Stmt.layoutAll d (out emit s)) hp).2 e he hkind
    exact absurd hkind (hother hcomplete e hfailure)

/-- Moving a variable and walking through a value fail for a missing part exactly when the tree misses one, wherever that is. Nothing is written
then and no name is taken, and the fault describes the first missing part. The sink may be full or failing: printing alone never leaves a
printer with an error of this kind (`Layout.runAll_spares`). -/
theorem missing_part_refused (site : Site) {t : WireType} (ht : t ≠ .absent) {name : String} (hname : name ≠ "") (place : Place)
    (parent offset : String) (s : Option NameScope) {p : Printer} (hp : p.Spares .nilElement) :
    ∀ emit ∈ [site.topLevel t name, site.embedded t place parent offset],
      let outcome := Layout.runAll p (Stmt.layoutAll site.dialect (out emit s))
      ((∃ e, outcome.error = some e ∧ e.kind? = some .nilElement) ↔ ∃ q, t.at? q = some .absent) ∧
        ((∃ q, t.at? q = some .absent) → outcome.printer = p ∧ scopeAfter emit s = s ∧
          ∃ q f, t.FirstMissing q ∧ t.Describes q f ∧ outcome.error = some (.fault f)) := by
  intro emit hemit
  rcases List.mem_cons.mp hemit with rfl | hemit
  · refine refused_iff_missing ht ?_ ?_ hp
    · intro f hf
      simp [Site.topLevel, hname, hf]
    · intro hcomplete
      rw [site.topLevel_failures t hname s]
      exact transferFault?_kind site.dialect site.mode hcomplete
  · obtain rfl := List.mem_singleton.mp hemit
    refine refused_iff_missing ht ?_ ?_ hp
    · intro f hf
      simp [Site.embedded, hf]
    · intro hcomplete
      rw [site.embedded_failures t place parent offset s, ((complete_iff t).mp hcomplete).2]
      exact walkFault?_kind site.dialect site.mode hcomplete

/-- Two parts are missing; the first lies below an array and a vector and is reported, also on a sink that is already full. -/
theorem missing_part_refused_nested :
    let inner : WireType := .struct "::Inner" [("name", .string), ("x", .absent)]
    let t : WireType := .struct "::Outer" [("sizes", .array (.scalar .uint32) "4"), ("inner", .array (.vector inner) "2"), ("late", .absent)]
    let site : Site := { buffer := { name := "parcel" }, mode := .goto }
    let p : Printer := Printer.print { limit := some 0 } "x"
    let outcome := Layout.runAll p (Stmt.layoutAll {} (out (site.topLevel t "value") (some {})))
    p.error = some Printer.sinkFull ∧ t.at? [.member 1, .element, .element, .member 1] = some .absent ∧
      outcome.printer = p ∧ scopeAfter (site.topLevel t "value") (some {}) = some {} ∧
      outcome.error = some (.fault {
        phase := .emit, kind := .nilElement, path := ["::Outer", "inner", "::Inner", "x"], typeName := "::Inner",
        detail := "member type is nil" }) := by
  intro inner t site p outcome
  have hsink : p.error = some Printer.sinkFull := by rfl
  have hspares : p.Spares .nilElement := by
    intro e he
    rw [hsink] at he
    cases he
    decide
  have habsent : t.at? [.member 1, .element, .element, .member 1] = some .absent := rfl
  have hname : "value" ≠ "" := by decide
  obtain ⟨-, hrefused⟩ := missing_part_refused site (t := t) nofun hname { text := "value" } "parent" "0" (some {}) hspares _ List.mem_cons_self
  obtain ⟨hprinter, hscope, -⟩ := hrefused ⟨_, habsent⟩
  exact ⟨hsink, habsent, hprinter, hscope, rfl⟩

end Parcelgen

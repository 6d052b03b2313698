import Parcelgen.Proofs.Marshal.Operation
import Parcelgen.Proofs.Marshal.Statement

/-!
What the walk over embedded content emits. Whether it fails, and how, depends on the type, the dialect and the unwind mode alone
(`walk_failures`), and a walk that does not fail emits the plan of the type (`walk_operations`): the names in scope, the direction and the
buffer change only how it is spelled.
-/

namespace Parcelgen

namespace Naming

variable {α β : Type}

/-- The result of a computation that takes names from the scope `s`. -/
def out (m : Naming α) (s : Option NameScope) : α := (m.run s).1

/-- The scope that a computation leaves behind. -/
def scopeAfter (m : Naming α) (s : Option NameScope) : Option NameScope := (m.run s).2

@[simp] theorem out_pure (a : α) (s : Option NameScope) : out (pure a : Naming α) s = a := rfl

@[simp] theorem scopeAfter_pure (a : α) (s : Option NameScope) : scopeAfter (pure a : Naming α) s = s := rfl

@[simp] theorem out_bind (m : Naming α) (f : α → Naming β) (s : Option NameScope) :
    out (m >>= f) s = out (f (out m s)) (scopeAfter m s) := rfl

@[simp] theorem out_map (f : α → β) (m : Naming α) (s : Option NameScope) : out (f <$> m) s = f (out m s) := rfl

end Naming

open Naming

namespace WireType

/-- How an element loop fails when its body does as `body` says. -/
def elementFault? (d : Dialect) (mode : Unwind) (whole elem : WireType) (body : Option Error) : Option Error :=
  match elem.byteSize d with
  | .error f => some (.fault f)
  | .ok _ => if mode = .exit then some (.fault (Site.loopRefused whole)) else body

mutual

/-- How the walk over the embedded content of a type fails. -/
def walkFault? (d : Dialect) (mode : Unwind) : WireType → Option Error
  | .string | .interface _ => mode.fault?
  | .struct name fields => memberFault? d mode name fields
  | .array elem dim => if elem.isEmbedded then elementFault? d mode (.array elem dim) elem (elem.walkFault? d mode) else none
  | .vector elem =>
    match (WireType.vector elem).spell d .stack with
    | .error f => some (.fault f)
    | .ok _ => mode.fault?.or (if elem.isEmbedded then elementFault? d mode (.vector elem) elem (elem.walkFault? d mode) else none)
  | .absent | .scalar _ | .enum _ _ _ => none

def memberFault? (d : Dialect) (mode : Unwind) (name : String) : List (String × WireType) → Option Error
  | [] => none
  | (field, t) :: rest =>
    (if t.isEmbedded then (t.walkFault? d mode).map (·.within [name, field]) else none).or (memberFault? d mode name rest)

end

end WireType

namespace Site

theorem embeddedString_failures (site : Site) (place : Place) (parent : String) (offset : Offset) :
    Stmt.failures site.dialect (site.embeddedString place parent offset) = site.mode.fault? := by
  simp [embeddedString]

theorem embeddedBinder_failures (site : Site) (name : String) (place : Place) (parent : String) (offset : Offset) :
    Stmt.failures site.dialect (site.embeddedBinder name place parent offset) = site.mode.fault? := by
  cases hr : site.reader <;> simp [embeddedBinder, hr]

theorem embeddedVector_failures (site : Site) (type : String) (place : Place) (parent : String) (offset : Offset) (child : String) :
    Stmt.failures site.dialect (site.embeddedVector type place parent offset child) = site.mode.fault? := by
  simp [embeddedVector]

theorem elementLoop_failures (site : Site) (whole elem : WireType) (depth : Nat) (bound : Bound)
    (body : String → ByteSize → Naming (List Stmt)) (s : Option NameScope) {failed : Option Error}
    (hb : ∀ index size s, Stmt.failures site.dialect (out (body index size) s) = failed) :
    Stmt.failures site.dialect (out (site.elementLoop whole elem depth bound body) s) =
      WireType.elementFault? site.dialect site.mode whole elem failed := by
  unfold elementLoop WireType.elementFault?
  cases elem.byteSize site.dialect with
  | error f => simp
  | ok size =>
    by_cases he : site.mode = .exit
    · simp [he]
    · simp [he, hb]

theorem elementLoop_unlabelled (site : Site) (whole elem : WireType) (depth : Nat) (bound : Bound)
    (body : String → ByteSize → Naming (List Stmt)) (s : Option NameScope) :
    Stmt.anyLabelled (out (site.elementLoop whole elem depth bound body) s) = false := by
  unfold elementLoop
  cases elem.byteSize site.dialect with
  | error f => rfl
  | ok size => by_cases he : site.mode = .exit <;> simp [he, Stmt.anyLabelled, Stmt.labelled]

mutual

/-- The failure of a walk depends on nothing but the type, the dialect and the mode. -/
theorem walk_failures (site : Site) : ∀ (t : WireType) (depth : Nat) (place : Place) (parent : String) (offset : Offset)
    (s : Option NameScope),
    Stmt.failures site.dialect (out (site.walk t depth place parent offset) s) = t.walkFault? site.dialect site.mode
  | .string, _, place, parent, offset, s => by
    simpa [walk, WireType.walkFault?] using site.embeddedString_failures place parent offset
  | .interface name, _, place, parent, offset, s => by
    simpa [walk, WireType.walkFault?] using site.embeddedBinder_failures name place parent offset
  | .struct name fields, depth, place, parent, offset, s => by
    simpa only [walk, WireType.walkFault?] using site.walkMembers_failures name fields depth place parent offset s
  | .array elem dim, depth, place, parent, offset, s => by
    cases he : elem.isEmbedded with
    | false => simp [walk, WireType.walkFault?, he]
    | true =>
      simp only [walk, WireType.walkFault?, he, if_true]
      exact site.elementLoop_failures _ _ _ _ _ _ fun index size s => walk_failures site elem _ _ _ _ s
  | .vector elem, depth, place, parent, offset, s => by
    simp only [walk, WireType.walkFault?]
    cases hs : (WireType.vector elem).spell site.dialect .stack with
    | error f => simp
    | ok spelling =>
      cases he : elem.isEmbedded with
      | false => simp [site.embeddedVector_failures]
      | true =>
        have hl := fun child s => site.elementLoop_failures (.vector elem) elem depth (.elementsOf place.vector)
          (fun index size => site.walk elem (depth + 1) (Place.element place.vector index) child
            { base := "0", terms := [.element index size] }) s
          fun index size s => walk_failures site elem _ _ _ _ s
        simp [site.embeddedVector_failures, hl]
  | .absent, _, _, _, _, _ | .scalar _, _, _, _, _, _ | .enum _ _ _, _, _, _, _, _ => by simp [walk, WireType.walkFault?]

theorem walkMembers_failures (site : Site) (name : String) : ∀ (fields : List (String × WireType)) (depth : Nat) (place : Place)
    (parent : String) (offset : Offset) (s : Option NameScope),
    Stmt.failures site.dialect (out (site.walkMembers name fields depth place parent offset) s) =
      WireType.memberFault? site.dialect site.mode name fields
  | [], _, _, _, _, _ => by simp [walkMembers, WireType.memberFault?]
  | (field, t) :: rest, depth, place, parent, offset, s => by
    cases he : t.isEmbedded with
    | false => simp [walkMembers, WireType.memberFault?, he, walkMembers_failures site name rest]
    | true =>
      simp [walkMembers, WireType.memberFault?, he, walkMembers_failures site name rest, walk_failures site t]

end

mutual

theorem walk_unlabelled (site : Site) : ∀ (t : WireType) (depth : Nat) (place : Place) (parent : String) (offset : Offset)
    (s : Option NameScope), Stmt.anyLabelled (out (site.walk t depth place parent offset) s) = false
  | .string, _, place, parent, offset, s => by simp [walk, embeddedString, Stmt.anyLabelled, Stmt.labelled]
  | .interface name, _, place, parent, offset, s => by
    cases hr : site.reader <;> simp [walk, embeddedBinder, hr, Stmt.anyLabelled, Stmt.labelled]
  | .struct name fields, depth, place, parent, offset, s => by
    simpa only [walk] using site.walkMembers_unlabelled name fields depth place parent offset s
  | .array elem dim, depth, place, parent, offset, s => by
    cases he : elem.isEmbedded with
    | false => simp [walk, he, Stmt.anyLabelled]
    | true =>
      simp only [walk, he, if_true]
      exact site.elementLoop_unlabelled _ _ _ _ _ _
  | .vector elem, depth, place, parent, offset, s => by
    simp only [walk]
    cases (WireType.vector elem).spell site.dialect .stack with
    | error f => simp [Stmt.anyLabelled, Stmt.labelled]
    | ok spelling =>
      cases he : elem.isEmbedded with
      | false => simp [embeddedVector, Stmt.handle, Stmt.anyLabelled, Stmt.labelled]
      | true => simp [embeddedVector, Stmt.handle, Stmt.anyLabelled, Stmt.labelled, site.elementLoop_unlabelled]
  | .absent, _, _, _, _, _ | .scalar _, _, _, _, _, _ | .enum _ _ _, _, _, _, _, _ => by simp [walk, Stmt.anyLabelled]

theorem walkMembers_unlabelled (site : Site) (name : String) : ∀ (fields : List (String × WireType)) (depth : Nat) (place : Place)
    (parent : String) (offset : Offset) (s : Option NameScope),
    Stmt.anyLabelled (out (site.walkMembers name fields depth place parent offset) s) = false
  | [], _, _, _, _, _ => by simp [walkMembers, Stmt.anyLabelled]
  | (field, t) :: rest, depth, place, parent, offset, s => by
    cases he : t.isEmbedded with
    | false => simp [walkMembers, he, walkMembers_unlabelled site name rest]
    | true =>
      simp [walkMembers, he, Stmt.anyLabelled, Stmt.labelled, walkMembers_unlabelled site name rest, walk_unlabelled site t]

end

theorem elementFault?_eq_none {d : Dialect} {mode : Unwind} {whole elem : WireType} {body : Option Error}
    (h : WireType.elementFault? d mode whole elem body = none) :
    elem.byteSize d = .ok (elem.sizeIn d) ∧ mode ≠ .exit ∧ body = none := by
  unfold WireType.elementFault? at h
  split at h
  · cases h
  · rename_i size hs
    split at h
    · cases h
    · rename_i hm
      exact ⟨WireType.sizeIn_of_byteSize hs ▸ hs, hm, h⟩

theorem elementLoop_out (site : Site) {whole elem : WireType} {depth : Nat} {bound : Bound}
    {body : String → ByteSize → Naming (List Stmt)} {s : Option NameScope} {failed : Option Error}
    (h : WireType.elementFault? site.dialect site.mode whole elem failed = none) :
    out (site.elementLoop whole elem depth bound body) s =
      [.loop (site.dialect.indexVar depth) bound (out (body (site.dialect.indexVar depth) (elem.sizeIn site.dialect)) s)] := by
  obtain ⟨hs, hm, -⟩ := elementFault?_eq_none h
  unfold elementLoop
  simp [hs, hm]

theorem embeddedString_operations (site : Site) (outcome : String → Bool) (place : Place) (parent : String) (offset : Offset) :
    Stmt.operations outcome (site.embeddedString place parent offset) = [.embeddedString parent offset] := by
  cases hr : site.reader <;> simp [embeddedString, hr, Stmt.operations, Stmt.operation, EmbeddedCall.operation]

theorem embeddedBinder_operations (site : Site) (outcome : String → Bool) (name : String) (place : Place) (parent : String)
    (offset : Offset) : Stmt.operations outcome (site.embeddedBinder name place parent offset) = [.embeddedBinder parent offset] := by
  cases hr : site.reader <;> simp [embeddedBinder, hr, Stmt.operations, Stmt.operation, EmbeddedCall.operation]

theorem embeddedVector_operations (site : Site) (outcome : String → Bool) (type : String) (place : Place) (parent : String)
    (offset : Offset) (child : String) :
    Stmt.operations outcome (site.embeddedVector type place parent offset child) = [.embeddedVector parent offset child] := by
  cases hr : site.reader <;>
    simp [embeddedVector, hr, Stmt.handle, Stmt.operations, Stmt.operation, EmbeddedCall.operation]

/-- The names under which a walk spells the vectors of a tree, beside those of their handles. -/
def labels (d : Dialect) (t : WireType) (depth : Nat) (place : Place) (handle : Path → String) : Labels String String :=
  { handle, vector := fun p => (t.placeOf d depth place p).vector }

mutual

/-- A walk that does not fail emits the plan of the type. -/
theorem walk_operations (site : Site) : ∀ (t : WireType) (depth : Nat) (place : Place) (parent : String) (offset : Offset)
    (s : Option NameScope), t.walkFault? site.dialect site.mode = none →
    ∃ handle : Path → String, ∀ outcome, Stmt.operations outcome (out (site.walk t depth place parent offset) s) =
      t.plan site.dialect depth (labels site.dialect t depth place handle) parent offset
  | .string, _, place, parent, offset, s, _ =>
    ⟨fun _ => "", by simp [walk, WireType.plan, site.embeddedString_operations]⟩
  | .interface name, _, place, parent, offset, s, _ =>
    ⟨fun _ => "", by simp [walk, WireType.plan, site.embeddedBinder_operations]⟩
  | .struct name fields, depth, place, parent, offset, s, h => by
    simp only [WireType.walkFault?] at h
    obtain ⟨handle, hh⟩ := walkMembers_operations site name fields 0 depth place parent offset s
      (fun p => ((WireType.struct name fields).placeOf site.dialect depth place p).vector) h
      (fun j field t p hj => by simp [WireType.placeOf, hj])
    exact ⟨handle, by simpa only [walk, WireType.plan, labels] using hh⟩
  | .array elem dim, depth, place, parent, offset, s, h => by
    cases he : elem.isEmbedded with
    | false => exact ⟨fun _ => "", by simp [walk, WireType.plan, he, Stmt.operations]⟩
    | true =>
      simp only [WireType.walkFault?, he, if_true] at h
      obtain ⟨handle, hh⟩ := walk_operations site elem (depth + 1)
        (Place.element place.text (site.dialect.indexVar depth)) parent
        (offset.step (.element (site.dialect.indexVar depth) (elem.sizeIn site.dialect))) s (elementFault?_eq_none h).2.2
      refine ⟨fun p => handle p.tail, fun outcome => ?_⟩
      simp only [walk, he, if_true, site.elementLoop_out h, Stmt.operations, Stmt.operation, hh, WireType.plan, List.append_nil]
      rfl
  | .vector elem, depth, place, parent, offset, s, h => by
    simp only [WireType.walkFault?] at h
    split at h
    · cases h
    · rename_i spelling hs
      obtain ⟨-, h⟩ := Option.or_eq_none_iff.mp h
      cases he : elem.isEmbedded with
      | false =>
        refine ⟨fun _ => out (site.nameFor place.text "child") s, fun outcome => ?_⟩
        simp [walk, hs, he, WireType.plan, site.embeddedVector_operations, labels]
      | true =>
        simp only [he, if_true] at h
        obtain ⟨handle, hh⟩ := walk_operations site elem (depth + 1)
          (Place.element place.vector (site.dialect.indexVar depth)) (out (site.nameFor place.text "child") s)
          { base := "0", terms := [.element (site.dialect.indexVar depth) (elem.sizeIn site.dialect)] }
          (scopeAfter (site.nameFor place.text "child") s) (elementFault?_eq_none h).2.2
        -- The vector's own handle stands at the empty path, those below it behind one element step.
        refine ⟨fun p => if p = [] then out (site.nameFor place.text "child") s else handle p.tail, fun outcome => ?_⟩
        simp only [walk, hs, he, if_true, out_bind, out_pure, site.elementLoop_out h, Stmt.operations_append,
          site.embeddedVector_operations, Stmt.operations, Stmt.operation, hh, WireType.plan, List.append_nil]
        rfl
  | .absent, _, _, _, _, _, _ | .scalar _, _, _, _, _, _, _ | .enum _ _ _, _, _, _, _, _, _ =>
    ⟨fun _ => "", by simp [walk, WireType.plan, Stmt.operations]⟩

theorem walkMembers_operations (site : Site) (name : String) : ∀ (fields : List (String × WireType))
    (i depth : Nat) (place : Place) (parent : String) (offset : Offset) (s : Option NameScope) (vec : Path → String),
    WireType.memberFault? site.dialect site.mode name fields = none →
    (∀ j field t p, fields[j]? = some (field, t) →
      vec (.member (i + j) :: p) = (WireType.placeOf site.dialect t depth (place.member field) p).vector) →
    ∃ handle : Path → String, ∀ outcome, Stmt.operations outcome (out (site.walkMembers name fields depth place parent offset) s) =
      WireType.memberPlan site.dialect name i fields depth ⟨handle, vec⟩ parent offset
  | [], _, _, _, _, _, _, _, _, _ => ⟨fun _ => "", by simp [walkMembers, WireType.memberPlan, Stmt.operations]⟩
  | (field, t) :: rest, i, depth, place, parent, offset, s, vec, h, hv => by
    obtain ⟨ht, hr⟩ := Option.or_eq_none_iff.mp h
    have hvrest : ∀ j f u p, rest[j]? = some (f, u) →
        vec (.member (i + 1 + j) :: p) = (WireType.placeOf site.dialect u depth (place.member f) p).vector := by
      intro j f u p hj
      rw [show i + 1 + j = i + (j + 1) by omega]
      exact hv (j + 1) f u p (by simpa using hj)
    cases he : t.isEmbedded with
    | false =>
      obtain ⟨handle, hh⟩ := walkMembers_operations site name rest (i + 1) depth place parent offset s vec hr hvrest
      exact ⟨handle, by simp [walkMembers, WireType.memberPlan, he, WireType.plan_of_not_embedded, hh]⟩
    | true =>
      simp only [he, if_true, Option.map_eq_none_iff] at ht
      obtain ⟨here, hhere⟩ := walk_operations site t depth (place.member field) parent
        (offset.step (.member name field)) s ht
      obtain ⟨others, hothers⟩ := walkMembers_operations site name rest (i + 1) depth place parent offset
        (scopeAfter (site.walk t depth (place.member field) parent (offset.step (.member name field))) s) vec hr hvrest
      refine ⟨fun p => if p.head? = some (.member i) then here p.tail else others p, fun outcome => ?_⟩
      simp only [walkMembers, he, if_true, out_bind, out_pure, scopeAfter_pure, Stmt.operations_append, Stmt.operations,
        Stmt.operation, hhere, hothers, WireType.memberPlan, List.append_nil]
      congr 1
      · have hbelow : vec ∘ (.member i :: ·) = fun p => (WireType.placeOf site.dialect t depth (place.member field) p).vector :=
          funext fun p => hv 0 field t p rfl
        simp only [Labels.below, labels, ← hbelow]
        simp [Function.comp_def]
      · refine WireType.memberPlan_congr site.dialect name (i + 1) rest depth parent offset fun j hj _ => ?_
        have hne : j ≠ i := by omega
        simp [Labels.below, hne]

end

theorem embedded_failures (site : Site) (t : WireType) (place : Place) (parent offset : String) (s : Option NameScope) :
    Stmt.failures site.dialect (out (site.embedded t place parent offset) s) =
      (t.missing?.map Error.fault).or (t.walkFault? site.dialect site.mode) := by
  unfold embedded
  cases t.missing? with
  | some f => rfl
  | none => simp [walk_failures]

theorem embedded_unlabelled (site : Site) (t : WireType) (place : Place) (parent offset : String) (s : Option NameScope) :
    Stmt.anyLabelled (out (site.embedded t place parent offset) s) = false := by
  unfold embedded
  cases t.missing? with
  | some f => rfl
  | none => exact site.walk_unlabelled t 0 place parent { base := offset } s

end Site

end Parcelgen

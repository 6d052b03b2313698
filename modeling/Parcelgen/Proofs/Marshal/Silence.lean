import Parcelgen.Proofs.Layout.Growth
import Parcelgen.Proofs.Marshal.Refusal

/-!
Walks that have nothing to do. A type has embedded content exactly when a string, vector or handle can be reached through members and array
elements (`isEmbedded_iff`). Without embedded content a walk emits nothing and takes no name; with it, a walk that succeeds prints something.
So a type may be skipped for its lack of embedded content, and for nothing else.
-/

namespace Parcelgen

open Naming

namespace WireType

/-- The parts of a type that lie in the same block: those reached through members and array elements. -/
inductive Holds : WireType → WireType → Prop
  | self {t} : Holds t t
  | member {name fields field t u} : (field, t) ∈ fields → Holds t u → Holds (.struct name fields) u
  | element {elem dim u} : Holds elem u → Holds (.array elem dim) u

/-- A string, vector or handle is reached through members and array elements. -/
def Embeds (t : WireType) : Prop := ∃ u, t.Holds u ∧ u.isReference = true

theorem isEmbedded_of_isReference {t : WireType} (h : t.isReference = true) : t.isEmbedded = true := by
  cases t with
  | string | vector _ | interface _ => simp [isEmbedded]
  | absent | scalar _ | array _ _ | struct _ _ | enum _ _ _ => cases h

theorem Holds.isEmbedded {t u : WireType} (h : t.Holds u) (hu : u.isReference = true) : t.isEmbedded = true := by
  induction h with
  | self => exact isEmbedded_of_isReference hu
  | member hfield _ ih =>
    rw [WireType.isEmbedded]
    exact isEmbedded_of_mem hfield (ih hu)
  | element _ ih =>
    rw [WireType.isEmbedded]
    exact ih hu

mutual

theorem embeds_of_isEmbedded : ∀ {t : WireType}, t.isEmbedded = true → t.Embeds
  | .string, _ | .vector _, _ | .interface _, _ => ⟨_, .self, rfl⟩
  | .array elem _, h => by
    rw [isEmbedded] at h
    obtain ⟨u, hholds, hu⟩ := embeds_of_isEmbedded h
    exact ⟨u, .element hholds, hu⟩
  | .struct _ fields, h => by
    rw [isEmbedded] at h
    obtain ⟨field, t, hfield, u, hholds, hu⟩ := exists_member_embeds h
    exact ⟨u, .member hfield hholds, hu⟩
  | .absent, h | .scalar _, h | .enum _ _ _, h => by simp [isEmbedded] at h

theorem exists_member_embeds : ∀ {fields : List (String × WireType)}, anyEmbedded fields = true →
    ∃ field t, (field, t) ∈ fields ∧ t.Embeds
  | [], h => by simp [anyEmbedded] at h
  | (field, t) :: rest, h => by
    rw [anyEmbedded, Bool.or_eq_true] at h
    rcases h with h | h
    · exact ⟨field, t, List.mem_cons_self, embeds_of_isEmbedded h⟩
    · obtain ⟨field', t', hmem, hembeds⟩ := exists_member_embeds h
      exact ⟨field', t', List.mem_cons_of_mem _ hmem, hembeds⟩

end

theorem isEmbedded_iff (t : WireType) : t.isEmbedded = true ↔ t.Embeds := by
  refine ⟨embeds_of_isEmbedded, ?_⟩
  rintro ⟨u, hholds, hu⟩
  exact hholds.isEmbedded hu

end WireType

namespace Site

mutual

theorem walk_of_not_embedded (site : Site) : ∀ {t : WireType} (depth : Nat) (place : Place) (parent : String) (offset : Offset),
    t.isEmbedded = false → site.walk t depth place parent offset = pure []
  | .absent, _, _, _, _, _ | .scalar _, _, _, _, _, _ | .enum _ _ _, _, _, _, _, _ => by rw [walk]
  | .string, _, _, _, _, h | .vector _, _, _, _, _, h | .interface _, _, _, _, _, h => by simp [WireType.isEmbedded] at h
  | .array elem dim, _, _, _, _, h => by
    rw [WireType.isEmbedded] at h
    rw [walk, h]
    rfl
  | .struct name fields, depth, place, parent, offset, h => by
    rw [WireType.isEmbedded] at h
    rw [walk, walkMembers_of_not_embedded site name depth place parent offset h]

theorem walkMembers_of_not_embedded (site : Site) (name : String) : ∀ {fields : List (String × WireType)} (depth : Nat) (place : Place)
    (parent : String) (offset : Offset), WireType.anyEmbedded fields = false →
    site.walkMembers name fields depth place parent offset = pure []
  | [], _, _, _, _, _ => by rw [walkMembers]
  | (field, t) :: rest, depth, place, parent, offset, h => by
    rw [WireType.anyEmbedded, Bool.or_eq_false_iff] at h
    rw [walkMembers, h.1, walkMembers_of_not_embedded site name depth place parent offset h.2]
    rfl

end

theorem embeddedString_inks (site : Site) (place : Place) (parent : String) (offset : Offset) :
    Layout.anyInks (Stmt.layoutAll site.dialect (site.embeddedString place parent offset)) = true := by
  cases hr : site.reader <;>
    simp [embeddedString, hr, Stmt.layoutAll, Stmt.layout, EmbeddedCall.layout, Layout.anyInks, Layout.inks]

theorem embeddedBinder_inks (site : Site) (name : String) (place : Place) (parent : String) (offset : Offset) :
    Layout.anyInks (Stmt.layoutAll site.dialect (site.embeddedBinder name place parent offset)) = true := by
  cases hr : site.reader <;>
    simp [embeddedBinder, hr, Stmt.layoutAll, Stmt.layout, EmbeddedCall.layout, Layout.anyInks, Layout.inks]

theorem embeddedVector_inks (site : Site) (type : String) (place : Place) (parent : String) (offset : Offset) (child : String) :
    Layout.anyInks (Stmt.layoutAll site.dialect (site.embeddedVector type place parent offset child)) = true := by
  simp [embeddedVector, Stmt.handle, Stmt.layoutAll, Stmt.layout, Layout.anyInks, Layout.inks]

mutual

/-- A walk through embedded content that does not fail has text to print. -/
theorem walk_inks (site : Site) : ∀ (t : WireType) (depth : Nat) (place : Place) (parent : String) (offset : Offset) (s : Option NameScope),
    t.isEmbedded = true → t.walkFault? site.dialect site.mode = none →
    Layout.anyInks (Stmt.layoutAll site.dialect (out (site.walk t depth place parent offset) s)) = true
  | .string, _, place, parent, offset, s, _, _ => by
    rw [walk, out_pure]
    exact site.embeddedString_inks place parent offset
  | .interface name, _, place, parent, offset, s, _, _ => by
    rw [walk, out_pure]
    exact site.embeddedBinder_inks name place parent offset
  | .struct name fields, depth, place, parent, offset, s, h, hf => by
    rw [WireType.isEmbedded] at h
    rw [WireType.walkFault?] at hf
    rw [walk]
    exact walkMembers_inks site name fields depth place parent offset s h hf
  | .array elem dim, depth, place, parent, offset, s, h, hf => by
    rw [WireType.isEmbedded] at h
    rw [WireType.walkFault?, if_pos h] at hf
    rw [walk, if_pos h, site.elementLoop_out hf]
    simp [Stmt.layoutAll, Stmt.layout, Layout.anyInks, Layout.inks]
  | .vector elem, depth, place, parent, offset, s, _, hf => by
    cases hs : (WireType.vector elem).spell site.dialect .stack with
    | error f => simp [WireType.walkFault?, hs] at hf
    | ok spelling =>
      -- The vector's own statements come first, with or without a loop over its elements behind them.
      cases he : elem.isEmbedded with
      | false => simp [walk, hs, he, site.embeddedVector_inks]
      | true => simp [walk, hs, he, Stmt.layoutAll_append, Layout.anyInks_append, site.embeddedVector_inks]
  | .absent, _, _, _, _, _, h, _ | .scalar _, _, _, _, _, _, h, _ | .enum _ _ _, _, _, _, _, _, h, _ => by simp [WireType.isEmbedded] at h

theorem walkMembers_inks (site : Site) (name : String) : ∀ (fields : List (String × WireType)) (depth : Nat) (place : Place) (parent : String)
    (offset : Offset) (s : Option NameScope), WireType.anyEmbedded fields = true →
    WireType.memberFault? site.dialect site.mode name fields = none →
    Layout.anyInks (Stmt.layoutAll site.dialect (out (site.walkMembers name fields depth place parent offset) s)) = true
  | [], _, _, _, _, _, h, _ => by simp [WireType.anyEmbedded] at h
  | (field, t) :: rest, depth, place, parent, offset, s, h, hf => by
    rw [WireType.memberFault?, Option.or_eq_none_iff] at hf
    obtain ⟨hhere, hrest⟩ := hf
    rw [walkMembers]
    cases ht : t.isEmbedded with
    | true =>
      rw [ht, if_pos rfl, Option.map_eq_none_iff] at hhere
      have hbody := walk_inks site t depth (place.member field) parent (offset.step (.member name field)) s ht hhere
      simp [out_bind, Stmt.layoutAll, Stmt.layout, Layout.anyInks, Layout.inks, hbody]
    | false =>
      rw [WireType.anyEmbedded, ht, Bool.false_or] at h
      simpa [out_bind] using walkMembers_inks site name rest depth place parent offset s h hrest

end

end Site

open WireType

theorem embedded_of_complete (site : Site) {t : WireType} (ht : t.Complete) (place : Place) (parent offset : String) :
    site.embedded t place parent offset = site.walk t 0 place parent { base := offset } := by
  rw [Site.embedded, ((complete_iff t).mp ht).2]

/-- On a sink that takes everything, a walk over a complete type ends with the walk's own fault, if it has one. -/
theorem embedded_runs (site : Site) {t : WireType} (ht : t.Complete) (place : Place) (parent offset : String) (s : Option NameScope)
    {p : Printer} (hp : p.Unfailing) :
    Layout.Runs p (Layout.runAll p (Stmt.layoutAll site.dialect (out (site.embedded t place parent offset) s)))
      (t.walkFault? site.dialect site.mode) := by
  have hlabels : Stmt.anyLabelled (out (site.embedded t place parent offset) s) = false := site.embedded_unlabelled t place parent offset s
  have hfault : Layout.failures (Stmt.layoutAll site.dialect (out (site.embedded t place parent offset) s)) =
      t.walkFault? site.dialect site.mode := by
    have hall := site.embedded_failures t place parent offset s
    rwa [((complete_iff t).mp ht).2] at hall
  rw [← hfault]
  exact (Stmt.layoutAll_level site.dialect _ 0 (by simp [hlabels])).runs p hp (Nat.zero_le _)

/-- Having embedded content means that a string, vector or handle is reached through members and array elements. Where none is, a walk over a
complete type succeeds on any sink, full or not, and leaves printer and names alone. Where a walk succeeds on a sink that does, it writes nothing
and takes no name only then. -/
theorem embedded_content_iff :
    (∀ t : WireType, t.isEmbedded = true ↔ t.Embeds) ∧
      ∀ (site : Site) (t : WireType) (place : Place) (parent offset : String) (s : Option NameScope) (p : Printer), t.Complete →
        let emit := site.embedded t place parent offset
        let outcome := Layout.runAll p (Stmt.layoutAll site.dialect (out emit s))
        (¬ t.Embeds → outcome.error = none ∧ outcome.printer = p ∧ scopeAfter emit s = s) ∧
          (outcome.error = none → outcome.printer.error = none →
            (outcome.printer.written = p.written ∧ scopeAfter emit s = s ↔ ¬ t.Embeds)) := by
  refine ⟨isEmbedded_iff, ?_⟩
  intro site t place parent offset s p ht emit outcome
  have hemit : emit = site.walk t 0 place parent { base := offset } := embedded_of_complete site ht place parent offset
  rw [← isEmbedded_iff]
  have hsilent : ¬ t.isEmbedded = true → outcome.error = none ∧ outcome.printer = p ∧ scopeAfter emit s = s := by
    intro hembedded
    have hnothing : emit = pure [] := hemit.trans (site.walk_of_not_embedded 0 place parent _ (by simpa using hembedded))
    have houtcome : outcome = { printer := p } := by
      show Layout.runAll p (Stmt.layoutAll site.dialect (out emit s)) = _
      rw [hnothing]
      rfl
    rw [houtcome, hnothing]
    exact ⟨rfl, rfl, rfl⟩
  refine ⟨hsilent, ?_⟩
  intro herror hsink
  constructor
  · rintro ⟨hwritten, -⟩ hembedded
    have hfault : t.walkFault? site.dialect site.mode = none := by
      rw [← site.walk_failures t 0 place parent { base := offset } s, ← hemit]
      exact Layout.failures_of_run _ herror
    have hinks := site.walk_inks t 0 place parent { base := offset } s hembedded hfault
    rw [← hemit] at hinks
    have hgrows := Layout.runAll_grows _ p hinks herror hsink
    rw [show (Layout.runAll p _).printer.written = p.written from hwritten] at hgrows
    exact Nat.lt_irrefl _ hgrows
  · intro hembedded
    obtain ⟨-, hprinter, hscope⟩ := hsilent hembedded
    exact ⟨congrArg Printer.written hprinter, hscope⟩

/-- A string below two arrays makes a walk print, although the rest of the record has no embedded content; a walk over the rest is silent, also
on a sink that is full. -/
theorem embedded_content_iff_rows :
    let cell : WireType := .struct "::Cell" [("n", .scalar .uint32), ("tags", .array (.scalar .uint8) "4")]
    let row : WireType := .struct "::Row" [("cells", .array cell "3"), ("names", .array (.array .string "3") "2")]
    let site : Site := { buffer := { name := "parcel" }, mode := .goto }
    let emit (t : WireType) := site.embedded t { text := "value" } "parent" "0"
    let outcome (p : Printer) (t : WireType) := Layout.runAll p (Stmt.layoutAll site.dialect (out (emit t) (some {})))
    row.Complete ∧ row.Embeds ∧ (outcome {} row).error = none ∧ (outcome {} row).printer.error = none ∧
      ¬((outcome {} row).printer.written = "" ∧ scopeAfter (emit row) (some {}) = some {}) ∧
      (outcome { limit := some 0 } (.array cell "3")).error = none ∧
      (outcome { limit := some 0 } (.array cell "3")).printer = { limit := some 0 } ∧
      scopeAfter (emit (.array cell "3")) (some {}) = some {} := by
  intro cell row site emit outcome
  have hrow : row.Complete := (complete_iff row).mpr (by decide)
  have hcells : (WireType.array cell "3").Complete := (complete_iff _).mpr (by decide)
  have hembeds : row.Embeds := ⟨.string, .member (List.mem_cons_of_mem _ List.mem_cons_self) (.element (.element .self)), rfl⟩
  have hnone : ¬ (WireType.array cell "3").Embeds := by
    rw [← isEmbedded_iff]
    decide
  have hfault : row.walkFault? site.dialect site.mode = none := by decide +kernel
  -- Both facts are stated for any type: at a fixed one, unfolding would run the script.
  have hruns {t : WireType} (ht : t.Complete) : Layout.Runs {} (outcome {} t) (t.walkFault? site.dialect site.mode) :=
    embedded_runs site ht { text := "value" } "parent" "0" (some {}) Printer.unfailing_new
  have hcontent {t : WireType} (p : Printer) (ht : t.Complete) :
      (¬ t.Embeds → (outcome p t).error = none ∧ (outcome p t).printer = p ∧ scopeAfter (emit t) (some {}) = some {}) ∧
        ((outcome p t).error = none → (outcome p t).printer.error = none →
          ((outcome p t).printer.written = p.written ∧ scopeAfter (emit t) (some {}) = some {} ↔ ¬ t.Embeds)) :=
    embedded_content_iff.2 site t { text := "value" } "parent" "0" (some {}) p ht
  have herror : (outcome {} row).error = none := (hruns hrow).error.trans hfault
  have hsink : (outcome {} row).printer.error = none := (hruns hrow).unfailing.error
  refine ⟨hrow, hembeds, herror, hsink, ?_, (hcontent { limit := some 0 } hcells).1 hnone⟩
  intro h
  exact ((hcontent {} hrow).2 herror hsink).mp h hembeds

end Parcelgen

import Parcelgen.Proofs.Generator.Outcome
import Parcelgen.Proofs.Layout.Indentation
import Parcelgen.Proofs.Layout.Truncation

/-!
What the printing calls do to their printer and its sink. Every one of them is back on the level it started from, however it ends, and started
deeper it prints the same lines further in; the calls that print a package end by asking for the sink's error, so text that a full sink did
not take is always reported.
-/

namespace Parcelgen

open Naming

namespace Generator

theorem inNamespace_settles (parts : List String) (body : List Layout) : ∃ ls, inNamespace parts body = ls ++ [.settle] := ⟨_, rfl⟩

theorem header_settles (g : Generator) (p : Package) : ∃ ls, g.header p = ls ++ [.settle] := by
  have hlast : g.header p = _ ++ ([.text ("#endif  // " ++ p.includeGuard ++ "\n")] ++ [.settle]) := rfl
  exact ⟨_, hlast.trans (List.append_assoc _ _ _).symm⟩

theorem source_settles (g : Generator) (p : Package) : ∃ ls, g.source p = ls ++ [.settle] := by
  obtain ⟨ls, hls⟩ := inNamespace_settles p.spaces
    ((if g.typeHelpers then p.embeddedStructs.map fun t => .within [t.name] (g.helpers t) else []) ++
      p.interfaces.map fun i => .within [i.name] (g.interfaceSource p i))
  refine ⟨.text ("#include \"" ++ p.name ++ ".h\"\n\n") :: ls, ?_⟩
  rw [source, hls]
  rfl

end Generator

/-- Headers and sources are never cut short in silence: on a sink with a limit the accepted text is the beginning of the whole text, and
success means that the whole text has no failure and fits. -/
theorem emission_reports_loss (g : Generator) (p : Package) : Layout.ReportsLoss (g.header p) ∧ Layout.ReportsLoss (g.source p) := by
  obtain ⟨header, hheader⟩ := g.header_settles p
  obtain ⟨source, hsource⟩ := g.source_settles p
  rw [hheader, hsource]
  exact ⟨Layout.reportsLoss_of_settled header, Layout.reportsLoss_of_settled source⟩

/-- The calls that print: for a variable, for the embedded content of a value, for a type, and for the two files of a package. -/
inductive Emission where
  | topLevel (site : Site) (t : WireType) (name : String) (names : Option NameScope)
  | embedded (site : Site) (t : WireType) (place : Place) (parent offset : String) (names : Option NameScope)
  | declaration (d : Dialect) (t : WireType)
  | header (g : Generator) (p : Package)
  | source (g : Generator) (p : Package)

namespace Emission

/-- What the call prints. -/
def script : Emission → List Layout
  | .topLevel site t name names => Stmt.layoutAll site.dialect (out (site.topLevel t name) names)
  | .embedded site t place parent offset names => Stmt.layoutAll site.dialect (out (site.embedded t place parent offset) names)
  | .declaration d t => t.declaration d
  | .header g p => g.header p
  | .source g p => g.source p

/-- No call has a label outside braces, so all of them may start at the margin. -/
theorem level (e : Emission) : Layout.Level 0 e.script := by
  cases e with
  | topLevel site t name names =>
    exact Stmt.layoutAll_level site.dialect _ 0 fun h => by rw [site.topLevel_unlabelled t name names] at h; cases h
  | embedded site t place parent offset names =>
    exact Stmt.layoutAll_level site.dialect _ 0 fun h => by rw [site.embedded_unlabelled t place parent offset names] at h; cases h
  | declaration d t => exact Generator.level_declaration d t 0
  | header g p => exact g.level_header p
  | source g p => exact g.level_source p

end Emission

/-- Every call leaves its printer on the level where it found it, whether it succeeds or fails, and never with an unindent too many; at the
start of a line of a sink without limit, what it prints is what it prints at the margin, with the printer's indentation in front of every line
that is not empty. -/
theorem emission_keeps_indentation (e : Emission) (p : Printer) :
    let after := (Layout.runAll p e.script).printer
    let atMargin := (Layout.runAll { p with depth := 0 } e.script).printer
    after.depth = p.depth ∧
    (after.error = p.error ∨ p.error = none ∧ after.error = some Printer.sinkFull) ∧
    (after.error = some (.fault Printer.unmatchedUnindent) → p.error = some (.fault Printer.unmatchedUnindent)) ∧
    (p.limit = none → p.atLineStart = true →
      (∃ rows, atMargin.written = p.written ++ Row.render p.unit 0 rows ∧ after.written = p.written ++ Row.render p.unit p.depth rows) ∧
      ('\n' ∉ p.unit.toList → ∃ text, atMargin.written = p.written ++ text ∧
        after.written = p.written ++ Row.padded (String.join (List.replicate p.depth p.unit)) text)) := by
  intro after atMargin
  have hrestored : Printer.Restored p p.depth after := Printer.restored_of_level e.level p (Nat.zero_le _)
  refine ⟨hrestored.depth, hrestored.error, ?_, ?_⟩
  · intro hunmatched
    rcases hrestored.error with h | ⟨-, h⟩
    · exact h ▸ hunmatched
    · rw [h] at hunmatched
      cases hunmatched
  · intro hlimit hstart
    obtain ⟨rows, hrows, hmargin, hafter⟩ := Row.exists_of_level e.level p hlimit hstart
    refine ⟨⟨rows, hmargin, hafter⟩, ?_⟩
    intro hunit
    exact ⟨Row.render p.unit 0 rows, hmargin, by rw [← Row.render_eq_padded hunit p.depth hrows]; exact hafter⟩

/-- A handle read two levels in, behind other text. -/
theorem emission_keeps_indentation_handle :
    let e : Emission := .topLevel { buffer := { name := "data" }, reader := true, mode := .return } (.interface "IStore") "store" none
    let p : Printer := { depth := 2, written := "// store\n" }
    let text := "\x7b\n    ::android::sp<::android::hardware::IBinder> _hidl_binder;\n" ++
      "    _hidl_err = data.readNullableStrongBinder(&_hidl_binder);\n    if (_hidl_err != ::android::OK) \x7b return _hidl_err; \x7d\n\n" ++
      "    store = IStore::asInterface(_hidl_binder);\n\x7d\n\n"
    p.limit = none ∧ p.atLineStart = true ∧ '\n' ∉ p.unit.toList ∧ (Layout.runAll p e.script).printer.depth = 2 ∧
      (Layout.runAll p e.script).printer.written = "// store\n" ++ Row.padded "        " text := by
  intro e p text
  have hunit : '\n' ∉ p.unit.toList := by decide
  have hpad : String.join (List.replicate p.depth p.unit) = "        " := by decide
  obtain ⟨hdepth, -, -, hshift⟩ := emission_keeps_indentation e p
  obtain ⟨printed, hmargin, hafter⟩ := (hshift rfl rfl).2 hunit
  have htext : (Layout.runAll { p with depth := 0 } e.script).printer.written = "// store\n" ++ text := by decide +kernel
  have hprinted : printed = text := String.append_right_inj _ |>.mp (hmargin.symm.trans htext)
  rw [hpad, hprinted] at hafter
  exact ⟨rfl, rfl, hunit, hdepth, hafter⟩

end Parcelgen

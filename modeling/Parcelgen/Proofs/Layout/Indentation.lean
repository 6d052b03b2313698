import Parcelgen.Proofs.Layout.Printing

/-!
Indentation of layout scripts. A script that keeps its level does so from every printer, whatever fails on the way: printing never moves the
level, and the steps that do come in pairs with nothing between them that could fail. For the same reason a script started `d` levels deeper
prints the same lines, each `d` levels deeper. Both follow from one fact, `Level.lockstep`: two runs that every step keeps alike end alike.
-/

namespace Parcelgen

namespace Layout

/-- A relation between printers on the same level of two runs, kept by every step that both of them take. -/
structure Lockstep (R : Nat → Printer → Printer → Prop) : Prop where
  print : ∀ {level p q} (s : String), R level p q → R level (p.print s) (q.print s)
  indent : ∀ {level p q}, R level p q → R (level + 1) p.indent q.indent
  unindent : ∀ {level p q}, R (level + 1) p q → R level p.unindent q.unindent
  error : ∀ {level p q}, R level p q → p.error = q.error

/-- Two runs that end alike. -/
structure Alike (R : Nat → Printer → Printer → Prop) (level : Nat) (o o' : Outcome) : Prop where
  printer : R level o.printer o'.printer
  error : o.error = o'.error

theorem runAll_text (p : Printer) (s : String) (ls : List Layout) : runAll p (.text s :: ls) = runAll (p.print s) ls := rfl

theorem runAll_indent (p : Printer) (ls : List Layout) : runAll p (.indent :: ls) = runAll p.indent ls := rfl

theorem runAll_unindent (p : Printer) (ls : List Layout) : runAll p (.unindent :: ls) = runAll p.unindent ls := rfl

theorem Alike.cons {R : Nat → Printer → Printer → Prop} {level : Nat} {p q : Printer} {l : Layout} {ls : List Layout}
    (h : Alike R level (run p l) (run q l)) (hls : ∀ p' q', R level p' q' → Alike R level (runAll p' ls) (runAll q' ls)) :
    Alike R level (runAll p (l :: ls)) (runAll q (l :: ls)) := by
  simp only [runAll, h.error]
  split
  · exact h
  · obtain ⟨hprinter, herror⟩ := hls _ _ h.printer
    exact ⟨hprinter, herror⟩

theorem Alike.scope {R : Nat → Printer → Printer → Prop} (hR : Lockstep R) {level : Nat} {p q : Printer} {opening closing after : String}
    {body : List Layout} (h : R level p q)
    (hbody : ∀ p' q', R (level + 1) p' q' → Alike R (level + 1) (runAll p' body) (runAll q' body)) :
    Alike R level (run p (.scope opening closing body after)) (run q (.scope opening closing body after)) := by
  obtain ⟨hinner, herror⟩ := hbody _ _ (hR.indent (hR.print (opening ++ "\n") h))
  have hclosed := hR.print (closing ++ "\n") (hR.unindent hinner)
  refine ⟨hR.print after hclosed, ?_⟩
  simp only [run, herror, hR.error hclosed]

/-- A script that keeps its level keeps every relation that its steps keep. -/
theorem Level.lockstep {R : Nat → Printer → Printer → Prop} (hR : Lockstep R) {room : Nat} {ls : List Layout} (h : Level room ls) :
    ∀ (level : Nat) (p q : Printer), room ≤ level → R level p q → Alike R level (runAll p ls) (runAll q ls) := by
  induction h with
  | nil => exact fun level p q _ hpq => ⟨hpq, rfl⟩
  | @text _ s _ _ ih =>
    intro level p q hroom hpq
    exact ih level _ _ hroom (hR.print s hpq)
  | @hanging _ s _ _ ih =>
    intro level p q hroom hpq
    simp only [runAll_indent, runAll_text, runAll_unindent]
    exact ih level _ _ hroom (hR.unindent (hR.unindent (hR.print s (hR.indent (hR.indent hpq)))))
  | @outdented room s _ _ ih =>
    intro level p q hroom hpq
    obtain ⟨above, rfl⟩ : ∃ above, level = above + 1 := ⟨level - 1, by omega⟩
    simp only [runAll_indent, runAll_text, runAll_unindent]
    exact ih (above + 1) _ _ hroom (hR.indent (hR.print s (hR.unindent hpq)))
  | scope _ _ ihbody ih =>
    intro level p q hroom hpq
    exact (Alike.scope hR hpq fun p' q' h => ihbody (level + 1) p' q' (by omega) h).cons fun p' q' h => ih level p' q' hroom h
  | @within _ path body _ _ _ ihbody ih =>
    intro level p q hroom hpq
    obtain ⟨hprinter, herror⟩ := ihbody level p q hroom hpq
    have hrun : Alike R level (run p (.within path body)) (run q (.within path body)) := ⟨hprinter, by simp only [run, herror]⟩
    exact hrun.cons fun p' q' h => ih level p' q' hroom h
  | @fail _ e _ _ ih =>
    intro level p q hroom hpq
    have hrun : Alike R level (run p (.fail e)) (run q (.fail e)) := ⟨hpq, rfl⟩
    exact hrun.cons fun p' q' h => ih level p' q' hroom h
  | @note _ e _ _ ih =>
    intro level p q hroom hpq
    have hrun : Alike R level (run p (.note e)) (run q (.note e)) := ⟨hpq, rfl⟩
    exact hrun.cons fun p' q' h => ih level p' q' hroom h
  | @settle _ _ _ ih =>
    intro level p q hroom hpq
    have hrun : Alike R level (run p .settle) (run q .settle) := ⟨hpq, hR.error hpq⟩
    exact hrun.cons fun p' q' h => ih level p' q' hroom h

end Layout

namespace Printer

theorem lines_oneLine (cs : List Char) : ∀ line ∈ lines cs, '\n' ∉ line := by
  fun_induction lines cs with
  | case1 => simp
  | case2 c cs hc ih => simpa using ih
  | case3 c cs hc line more hlines ih =>
    rw [hlines] at ih
    have hne : '\n' ≠ c := by
      rintro rfl
      simp at hc
    intro l hl
    rcases List.mem_cons.mp hl with rfl | hl
    · simp [hne, ih line (by simp)]
    · exact ih l (by simp [hl])
  | case4 c cs hc hlines ih =>
    have hne : '\n' ≠ c := by
      rintro rfl
      simp at hc
    simp [hne]

/-- `p` is on the level `level` with no error but that of `start`, or else that of a full sink. -/
structure Restored (start : Printer) (level : Nat) (p : Printer) : Prop where
  depth : p.depth = level
  error : p.error = start.error ∨ start.error = none ∧ p.error = some sinkFull

/-- A run beside itself. -/
theorem lockstep_restored (start : Printer) : Layout.Lockstep fun level p q => p = q ∧ Restored start level p where
  print {level p q} s := by
    rintro ⟨rfl, hdepth, herror⟩
    have hprints := Prints.print p s
    refine ⟨rfl, hprints.depth.trans hdepth, ?_⟩
    rcases hprints.error with h | ⟨hnone, hfull⟩
    · rw [h]
      exact herror
    · rcases herror with h | ⟨hstart, -⟩
      · exact .inr ⟨h.symm.trans hnone, hfull⟩
      · exact .inr ⟨hstart, hfull⟩
  indent := by
    rintro level p q ⟨rfl, hdepth, herror⟩
    exact ⟨rfl, congrArg (· + 1) hdepth, herror⟩
  unindent := by
    rintro level p q ⟨rfl, hdepth, herror⟩
    refine ⟨rfl, ?_⟩
    unfold Printer.unindent
    rw [hdepth]
    exact ⟨rfl, herror⟩
  error := by
    rintro level p q ⟨rfl, -⟩
    rfl

/-- Every printer is back on its level after such a script, however the script ends, and has not been taken out of its margin. -/
theorem restored_of_level {room : Nat} {ls : List Layout} (h : Layout.Level room ls) (p : Printer) (hroom : room ≤ p.depth) :
    Restored p p.depth (Layout.runAll p ls).printer :=
  (h.lockstep (lockstep_restored p) p.depth p p hroom ⟨rfl, rfl, .inl rfl⟩).printer.2

end Printer

/-- A printed line: how far inside the script it stands, and its text. -/
structure Row where
  level : Nat
  text : List Char
  oneLine : '\n' ∉ text

namespace Row

def blank : Row := ⟨0, [], by simp⟩

/-- The line in a script that starts `depth` levels deep; an empty line has no indentation. -/
def shown (unit : String) (depth : Nat) (r : Row) : String :=
  if r.text.isEmpty then "" else String.join (List.replicate (depth + r.level) unit) ++ String.ofList r.text

def render (unit : String) (depth : Nat) (rows : List Row) : String := "\n".intercalate (rows.map (shown unit depth))

/-- Text at the end of a line. A line gets its level with its first text. -/
def extend (r : Row) (level : Nat) (line : List Char) (h : '\n' ∉ line) : Row :=
  if r.text.isEmpty then ⟨level, line, h⟩ else ⟨r.level, r.text ++ line, by simp [r.oneLine, h]⟩

theorem shown_extend (unit : String) (depth : Nat) (r : Row) (level : Nat) {line : List Char} (h : '\n' ∉ line) (hline : line ≠ []) :
    (r.extend level line h).shown unit depth =
      r.shown unit depth ++ ((if r.text.isEmpty then String.join (List.replicate (depth + level) unit) else "") ++ String.ofList line) := by
  by_cases hr : r.text.isEmpty = true
  · simp [extend, shown, hr, hline]
  · have happend : (r.text ++ line).isEmpty = false := by simp [hline]
    simp only [extend, shown, hr, happend, Bool.false_eq_true, if_false, String.ofList_append, String.append_assoc, String.empty_append]

theorem render_snoc_extend (unit : String) (depth : Nat) (rows : List Row) {r r' : Row} {more : String}
    (h : r'.shown unit depth = r.shown unit depth ++ more) :
    render unit depth (rows ++ [r']) = render unit depth (rows ++ [r]) ++ more := by
  unfold render
  cases rows with
  | nil => simp [h]
  | cons row rows =>
    rw [List.map_append, List.map_append, String.intercalate_append_of_ne_nil (by simp) (by simp),
      String.intercalate_append_of_ne_nil (by simp) (by simp)]
    simp [h, String.append_assoc]

theorem render_snoc_blank (unit : String) (depth : Nat) (rows : List Row) (r : Row) :
    render unit depth (rows ++ [r] ++ [blank]) = render unit depth (rows ++ [r]) ++ "\n" := by
  unfold render
  rw [List.map_append, String.intercalate_append_of_ne_nil (by simp) (by simp)]
  simp [blank, shown]

/-- The printer that has printed `rows` and, so far, `row`, in a script that started `depth` levels deep behind the text `base`. -/
def printer (unit base : String) (depth level : Nat) (error : Option Error) (rows : List Row) (row : Row) : Printer :=
  { unit, depth := depth + level, atLineStart := row.text.isEmpty, error, written := base ++ render unit depth (rows ++ [row]) }

section

variable (unit base : String) (level : Nat) (rows : List Row) (row : Row)

theorem write_printer (depth : Nat) (s : String) : (printer unit base depth level none rows row).write s =
    { printer unit base depth level none rows row with written := base ++ render unit depth (rows ++ [row]) ++ s } := by
  simp [Printer.write, Printer.fits, printer]

theorem putLine_printer {line : List Char} (h : '\n' ∉ line) : ∃ row', ∀ depth,
    (printer unit base depth level none rows row).putLine line = printer unit base depth level none rows row' := by
  by_cases hline : line = []
  · subst hline
    exact ⟨row, fun depth => rfl⟩
  · refine ⟨row.extend level line h, fun depth => ?_⟩
    have hempty : line.isEmpty = false := by simp [hline]
    have hrow : (row.extend level line h).text.isEmpty = false := by
      unfold extend
      split <;> simp [hline]
    have htext := render_snoc_extend unit depth rows (shown_extend unit depth row level h hline)
    rw [printer, printer, hrow, htext]
    simp only [Printer.putLine, hempty, Bool.false_eq_true, if_false]
    by_cases hstart : row.text.isEmpty = true
    · simp [Printer.write, Printer.fits, Printer.indentation, hstart, String.append_assoc]
    · simp [Printer.write, Printer.fits, hstart, String.append_assoc]

theorem endLine_printer (depth : Nat) :
    (printer unit base depth level none rows row).endLine = printer unit base depth level none (rows ++ [row]) blank := by
  rw [Printer.endLine, write_printer, printer, printer, render_snoc_blank]
  simp [blank, String.append_assoc]

theorem putLines_printer {ls : List (List Char)} (h : ∀ line ∈ ls, '\n' ∉ line) : ∃ rows' row', ∀ depth,
    (printer unit base depth level none rows row).putLines ls = printer unit base depth level none rows' row' := by
  induction ls generalizing rows row with
  | nil => exact ⟨rows, row, fun depth => rfl⟩
  | cons line more ih =>
    obtain ⟨row', hrow'⟩ := putLine_printer unit base level rows row (h line (by simp))
    cases more with
    | nil => exact ⟨rows, row', hrow'⟩
    | cons next more =>
      obtain ⟨rows'', row'', hmore⟩ := ih (rows ++ [row']) blank fun l hl => h l (by simp [hl])
      refine ⟨rows'', row'', fun depth => ?_⟩
      rw [Printer.putLines, hrow', endLine_printer, hmore]
      simp

/-- What a text adds to the lines does not depend on how deep the script started. -/
theorem print_printer (error : Option Error) (s : String) : ∃ rows' row', ∀ depth,
    (printer unit base depth level error rows row).print s = printer unit base depth level error rows' row' := by
  cases error with
  | some e => exact ⟨rows, row, fun depth => rfl⟩
  | none => exact putLines_printer unit base level rows row (Printer.lines_oneLine s.toList)

end

/-- A run that starts `depth` levels deep beside one that starts at the margin. -/
theorem lockstep_printer (unit base : String) (depth : Nat) : Layout.Lockstep fun level p q =>
    ∃ error rows row, p = printer unit base depth level error rows row ∧ q = printer unit base 0 level error rows row where
  print {level p q} s := by
    rintro ⟨error, rows, row, rfl, rfl⟩
    obtain ⟨rows', row', h⟩ := print_printer unit base level rows row error s
    exact ⟨error, rows', row', h depth, h 0⟩
  indent := by
    rintro level p q ⟨error, rows, row, rfl, rfl⟩
    exact ⟨error, rows, row, rfl, rfl⟩
  unindent := by
    rintro level p q ⟨error, rows, row, rfl, rfl⟩
    refine ⟨error, rows, row, rfl, ?_⟩
    simp [printer, Printer.unindent]
  error := by
    rintro level p q ⟨error, rows, row, rfl, rfl⟩
    rfl

/-- A script that keeps its level prints the same lines from every depth. -/
theorem exists_of_level {ls : List Layout} (h : Layout.Level 0 ls) (p : Printer) (hlimit : p.limit = none) (hstart : p.atLineStart = true) :
    ∃ rows, rows ≠ [] ∧ (Layout.runAll { p with depth := 0 } ls).printer.written = p.written ++ render p.unit 0 rows ∧
      (Layout.runAll p ls).printer.written = p.written ++ render p.unit p.depth rows := by
  have hp : ∀ depth, { p with depth } = printer p.unit p.written depth 0 p.error [] blank := by
    intro depth
    simp [printer, blank, render, shown, hlimit, hstart]
  obtain ⟨⟨error, rows, row, hdeep, hmargin⟩, -⟩ := h.lockstep (lockstep_printer p.unit p.written p.depth) 0 p { p with depth := 0 }
    (Nat.zero_le _) ⟨p.error, [], blank, hp p.depth, hp 0⟩
  refine ⟨rows ++ [row], by simp, ?_, ?_⟩
  · rw [hmargin]
    rfl
  · rw [hdeep]
    rfl

/-- Text with `pad` in front of every line that is not empty. -/
def padded (pad text : String) : String :=
  String.ofList (['\n'].intercalate ((text.toList.splitOn '\n').map fun line => if line.isEmpty then line else pad.toList ++ line))

theorem toList_shown (unit : String) (depth : Nat) (r : Row) : (r.shown unit depth).toList =
    if r.text.isEmpty then [] else (List.replicate (depth + r.level) unit).flatMap String.toList ++ r.text := by
  unfold shown
  split
  · rfl
  · rw [String.toList_append, String.toList_join, String.toList_ofList]

theorem toList_render (unit : String) (depth : Nat) (rows : List Row) :
    (render unit depth rows).toList = ['\n'].intercalate (rows.map fun r => (r.shown unit depth).toList) := by
  rw [render, String.toList_intercalate, List.map_map]
  rfl

/-- Depth is indentation in front of a line, unless the line is empty. -/
theorem toList_shown_eq (unit : String) (depth : Nat) (r : Row) : (r.shown unit depth).toList =
    if (r.shown unit 0).toList.isEmpty then (r.shown unit 0).toList
    else (String.join (List.replicate depth unit)).toList ++ (r.shown unit 0).toList := by
  rw [toList_shown, toList_shown, String.toList_join]
  by_cases hr : r.text.isEmpty = true
  · simp [hr]
  · have hne : r.text ≠ [] := by simpa using hr
    simp [hne, ← List.replicate_append_replicate]

/-- With a unit that stays on its line, lines `depth` levels deep are the same lines with `depth` units in front of those not empty. -/
theorem render_eq_padded {unit : String} (hunit : '\n' ∉ unit.toList) (depth : Nat) {rows : List Row} (hrows : rows ≠ []) :
    render unit depth rows = padded (String.join (List.replicate depth unit)) (render unit 0 rows) := by
  have hline : ∀ line ∈ rows.map (fun r => (r.shown unit 0).toList), '\n' ∉ line := by
    intro line hline
    obtain ⟨r, -, rfl⟩ := List.mem_map.mp hline
    rw [toList_shown]
    split
    · simp
    · simp [hunit, r.oneLine]
  have hsplit : (render unit 0 rows).toList.splitOn '\n' = rows.map fun r => (r.shown unit 0).toList := by
    rw [toList_render]
    exact List.splitOn_intercalate '\n' hline (by simpa using hrows)
  apply String.toList_inj.mp
  rw [padded, hsplit, toList_render, String.toList_ofList, List.map_map]
  congr 1
  exact List.map_congr_left fun r _ => toList_shown_eq unit depth r

end Row

end Parcelgen

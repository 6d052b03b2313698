import Parcelgen.Proofs.Layout.Growth

/-!
Text may be printed in any pieces. On a sink that takes everything a printer goes through a text character by character (`put`), and all that
it carries from one to the next is whether a line starts there. So two texts printed one after the other are printed like the two joined, and
a script prints the same however its text is cut up (`Layout.Resplit`). Line by line, the indentation goes in front of what is not empty and
does not go on with a line begun before (`inserted`).
-/

namespace Parcelgen

namespace Printer

/-- One character more, on a sink that takes everything. -/
def put (p : Printer) (c : Char) : Printer :=
  if c = '\n' then { p with written := p.written ++ "\n", atLineStart := true }
  else { p with written := p.written ++ (if p.atLineStart then p.indentation else "") ++ String.ofList [c], atLineStart := false }

/-- A text with the indentation in front of every line that is not empty. The first line has none where it goes on with a line begun before. -/
def inserted (p : Printer) (s : String) : String :=
  String.ofList (['\n'].intercalate ((s.toList.splitOn '\n').mapIdx fun i line =>
    if line.isEmpty || (i == 0 && !p.atLineStart) then line else p.indentation.toList ++ line))

/-- Whether a line starts behind a text. -/
def startsAfter (p : Printer) (s : String) : Bool := (s.toList.getLast?.map (· == '\n')).getD p.atLineStart

theorem lines_eq_splitOn (cs : List Char) : lines cs = cs.splitOn '\n' := by
  fun_induction lines cs with
  | case1 => rfl
  | case2 c cs hc ih => rw [List.splitOn_cons_eq_if_modifyHead, if_pos hc, ih]
  | case3 c cs hc line more hlines ih => rw [List.splitOn_cons_eq_if_modifyHead, if_neg hc, ← ih, hlines, List.modifyHead_cons]
  | case4 c cs hc hlines ih => exact absurd hlines (lines_ne_nil cs)

section

variable {p : Printer}

theorem Unfailing.write_eq (h : p.Unfailing) (s : String) : p.write s = { p with written := p.written ++ s } := by
  simp [Printer.write, fits, h.error, h.limit]

theorem Unfailing.endLine_eq (h : p.Unfailing) : p.endLine = { p with written := p.written ++ "\n", atLineStart := true } := by
  rw [Printer.endLine, h.write_eq]

theorem Unfailing.putLine_eq (h : p.Unfailing) (line : List Char) : p.putLine line =
    { p with
      written := p.written ++ String.ofList (if line.isEmpty || !p.atLineStart then line else p.indentation.toList ++ line)
      atLineStart := line.isEmpty && p.atLineStart } := by
  unfold Printer.putLine
  cases hline : line.isEmpty with
  | true => simp [List.isEmpty_iff.mp hline]
  | false =>
    cases hstart : p.atLineStart with
    | true =>
      have hindented : ({ p with written := p.written ++ p.indentation } : Printer).Unfailing := ⟨h.error, h.limit⟩
      simp [h.write_eq, hindented.write_eq, String.append_assoc]
    | false => simp [h.write_eq]

theorem Unfailing.put (h : p.Unfailing) (c : Char) : (p.put c).Unfailing := by
  unfold Printer.put
  split
  · exact ⟨h.error, h.limit⟩
  · exact ⟨h.error, h.limit⟩

/-- The first character of a line can be put on its own. -/
theorem Unfailing.putLine_cons (h : p.Unfailing) {c : Char} (hc : c ≠ '\n') (line : List Char) :
    p.putLine (c :: line) = (p.put c).putLine line := by
  rw [h.putLine_eq, (h.put c).putLine_eq]
  simp only [Printer.put, hc, if_false]
  cases p.atLineStart <;> simp [← String.toList_inj]

theorem Unfailing.putLines_lines (h : p.Unfailing) (cs : List Char) : p.putLines (lines cs) = cs.foldl Printer.put p := by
  fun_induction lines cs generalizing p with
  | case1 => rfl
  | case2 c cs hc ih =>
    obtain rfl : c = '\n' := by simpa using hc
    have hput : p.endLine = p.put '\n' := by rw [h.endLine_eq, Printer.put, if_pos rfl]
    cases hlines : lines cs with
    | nil => exact absurd hlines (lines_ne_nil cs)
    | cons line more =>
      show p.endLine.putLines (line :: more) = _
      rw [hput, ← hlines, ih (h.put '\n'), List.foldl_cons]
  | case3 c cs hc line more hlines ih =>
    have hfirst := h.putLine_cons (by simpa using hc) line
    rw [List.foldl_cons, ← ih (h.put c), hlines]
    cases more with
    | nil => exact hfirst
    | cons next more =>
      show (p.putLine (c :: line)).endLine.putLines (next :: more) = ((p.put c).putLine line).endLine.putLines (next :: more)
      rw [hfirst]
  | case4 c cs hc hlines ih => exact absurd hlines (lines_ne_nil cs)

/-- Printing goes through the text character by character. -/
theorem Unfailing.print_eq_foldl (h : p.Unfailing) (s : String) : p.print s = s.toList.foldl Printer.put p := by
  rw [Printer.print, h.error]
  exact h.putLines_lines s.toList

theorem print_of_error (h : p.error ≠ none) (s : String) : p.print s = p := by
  rw [Printer.print, if_pos (Option.isSome_iff_ne_none.mpr h)]

/-- Two texts printed one after the other are printed like the two joined. -/
theorem print_append (hlimit : p.limit = none) (a b : String) : (p.print a).print b = p.print (a ++ b) := by
  by_cases herror : p.error = none
  · have h : p.Unfailing := ⟨herror, hlimit⟩
    rw [(h.print a).1.print_eq_foldl, h.print_eq_foldl, h.print_eq_foldl, String.toList_append, List.foldl_append]
  · simp only [print_of_error herror]

/-- Lines get the indentation as they are due to, the first of them by where it starts. -/
theorem Unfailing.putLines_written (h : p.Unfailing) {ls : List (List Char)} (hls : ls ≠ []) : (p.putLines ls).written =
    p.written ++ String.ofList (['\n'].intercalate (ls.mapIdx fun i line =>
      if line.isEmpty || (i == 0 && !p.atLineStart) then line else p.indentation.toList ++ line)) := by
  induction ls generalizing p with
  | nil => exact absurd rfl hls
  | cons line more ih =>
    cases more with
    | nil => simp [Printer.putLines, h.putLine_eq]
    | cons next more =>
      show ((p.putLine line).endLine.putLines (next :: more)).written = _
      have hline := (h.putLine line).1
      rw [ih hline.endLine.1 (by simp), hline.endLine_eq, h.putLine_eq]
      simp [Printer.indentation, ← String.toList_inj]

/-- Besides the text nothing changes but where the line stands. -/
theorem foldl_put (cs : List Char) (p : Printer) : ∃ text, cs.foldl Printer.put p =
    { p with written := p.written ++ text, atLineStart := (cs.getLast?.map (· == '\n')).getD p.atLineStart } := by
  induction cs generalizing p with
  | nil => exact ⟨"", by simp⟩
  | cons c cs ih =>
    obtain ⟨first, hfirst⟩ : ∃ first, p.put c = { p with written := p.written ++ first, atLineStart := c == '\n' } := by
      unfold Printer.put
      split
      · rename_i hc
        exact ⟨"\n", by simp [hc]⟩
      · rename_i hc
        exact ⟨(if p.atLineStart then p.indentation else "") ++ String.ofList [c], by simp [hc, ← String.toList_inj]⟩
    obtain ⟨text, htext⟩ := ih (p.put c)
    refine ⟨first ++ text, ?_⟩
    rw [List.foldl_cons, htext, hfirst]
    cases hlast : cs.getLast? <;> simp [List.getLast?_cons, hlast, String.append_assoc]

theorem Unfailing.print_eq (h : p.Unfailing) (s : String) :
    p.print s = { p with written := p.written ++ p.inserted s, atLineStart := p.startsAfter s } := by
  obtain ⟨text, htext⟩ := foldl_put s.toList p
  rw [← h.print_eq_foldl] at htext
  have hwritten : (p.print s).written = p.written ++ p.inserted s := by
    rw [Printer.print, h.error, inserted, ← lines_eq_splitOn]
    exact h.putLines_written (lines_ne_nil s.toList)
  rw [htext] at hwritten ⊢
  rw [(String.append_right_inj p.written).mp hwritten, startsAfter]

theorem print_empty (p : Printer) : p.print "" = p := by
  simp [Printer.print, lines, putLines, putLine]

theorem print_unlimited (hlimit : p.limit = none) (s : String) : (p.print s).limit = none := by
  by_cases herror : p.error = none
  · exact (Unfailing.print ⟨herror, hlimit⟩ s).1.limit
  · rwa [print_of_error herror]

theorem unindent_unlimited (hlimit : p.limit = none) : p.unindent.limit = none := by
  unfold unindent
  split <;> exact hlimit

end

end Printer

namespace Layout

mutual

/-- Scripts never put a limit on the sink. -/
theorem run_unlimited : ∀ (l : Layout) {p : Printer}, p.limit = none → (run p l).printer.limit = none
  | .text s, _, h => Printer.print_unlimited h s
  | .scope opening closing body after, _, h => by
    have hinner := runAll_unlimited body (p := (Printer.print _ (opening ++ "\n")).indent) (Printer.print_unlimited h _)
    exact Printer.print_unlimited (Printer.print_unlimited (Printer.unindent_unlimited hinner) _) after
  | .within _ body, _, h => runAll_unlimited body h
  | .unindent, _, h => Printer.unindent_unlimited h
  | .indent, _, h | .fail _, _, h | .note _, _, h | .settle, _, h => h

theorem runAll_unlimited : ∀ (ls : List Layout) {p : Printer}, p.limit = none → (runAll p ls).printer.limit = none
  | [], _, h => h
  | l :: ls, p, h => by
    have hfirst := run_unlimited l h
    rw [runAll]
    split
    · exact hfirst
    · exact runAll_unlimited ls hfirst

end

/-- Two scripts that differ in nothing but where their text is cut, also inside scopes. -/
inductive Resplit : List Layout → List Layout → Prop
  | refl (ls) : Resplit ls ls
  | symm {ls ls'} : Resplit ls ls' → Resplit ls' ls
  | trans {ls ls' ls''} : Resplit ls ls' → Resplit ls' ls'' → Resplit ls ls''
  | empty (ls) : Resplit (.text "" :: ls) ls
  | join (a b ls) : Resplit (.text a :: .text b :: ls) (.text (a ++ b) :: ls)
  | cons (l) {ls ls'} : Resplit ls ls' → Resplit (l :: ls) (l :: ls')
  | scope (opening closing after) {body body'} (ls) : Resplit body body' →
      Resplit (.scope opening closing body after :: ls) (.scope opening closing body' after :: ls)
  | within (path) {body body'} (ls) : Resplit body body' → Resplit (.within path body :: ls) (.within path body' :: ls)

theorem runAll_congr_head {p : Printer} {l l' : Layout} (h : run p l = run p l') (ls : List Layout) :
    runAll p (l :: ls) = runAll p (l' :: ls) := by
  rw [runAll, runAll, h]

/-- Where text is cut makes no difference to what a script leaves behind. -/
theorem Resplit.runAll_eq {ls ls' : List Layout} (h : Resplit ls ls') : ∀ {p : Printer}, p.limit = none → runAll p ls = runAll p ls' := by
  induction h with
  | refl ls => exact fun _ => rfl
  | symm _ ih => exact fun hlimit => (ih hlimit).symm
  | trans _ _ ih ih' => exact fun hlimit => (ih hlimit).trans (ih' hlimit)
  | empty ls =>
    intro p hlimit
    show runAll (p.print "") ls = runAll p ls
    rw [Printer.print_empty]
  | join a b ls =>
    intro p hlimit
    show runAll ((p.print a).print b) ls = runAll (p.print (a ++ b)) ls
    rw [Printer.print_append hlimit]
  | cons l _ ih =>
    intro p hlimit
    simp only [runAll, ih (run_unlimited l hlimit)]
  | scope opening closing after ls _ ih =>
    intro p hlimit
    have hbody := ih (p := (p.print (opening ++ "\n")).indent) (Printer.print_unlimited hlimit _)
    exact runAll_congr_head (by rw [run, run, hbody]) ls
  | within path ls _ ih =>
    intro p hlimit
    exact runAll_congr_head (by rw [run, run, ih hlimit]) ls

end Layout

/-- On a sink without limit, two texts printed one after the other leave the printer as the two joined do. While nothing has gone wrong, a text
is written with the indentation in front of each of its lines that starts in it, or where a line starts, and is not empty; afterwards nothing
is. So the cuts in the text of a script never show in what it prints. -/
theorem print_in_pieces (p : Printer) (hlimit : p.limit = none) :
    (∀ a b, (p.print a).print b = p.print (a ++ b)) ∧
      (∀ s, p.error = none → p.print s = { p with written := p.written ++ p.inserted s, atLineStart := p.startsAfter s }) ∧
      (∀ s, p.error ≠ none → p.print s = p) ∧
      ∀ ls ls', Layout.Resplit ls ls' → Layout.runAll p ls = Layout.runAll p ls' :=
  ⟨Printer.print_append hlimit, fun s herror => Printer.Unfailing.print_eq ⟨herror, hlimit⟩ s, fun s herror => Printer.print_of_error herror s,
    fun _ _ hsplit => hsplit.runAll_eq hlimit⟩

/-- A statement cut in the middle of a line, with an empty line and the start of another behind it. -/
theorem print_in_pieces_statement :
    let p : Printer := { depth := 1, atLineStart := false, written := "x = " }
    p.limit = none ∧ p.error = none ∧ (p.print "call(").print "3);\n\nreturn" = p.print "call(3);\n\nreturn" ∧
      (p.print "call(3);\n\nreturn").written = "x = call(3);\n\n    return" := by
  intro p
  obtain ⟨happend, hprint, -, -⟩ := print_in_pieces p rfl
  have hinserted : p.written ++ p.inserted "call(3);\n\nreturn" = "x = call(3);\n\n    return" := by decide +kernel
  exact ⟨rfl, rfl, happend "call(" "3);\n\nreturn", (congrArg Printer.written (hprint "call(3);\n\nreturn" rfl)).trans hinserted⟩

/-- An unindent too many silences a printer, whatever the sink would take. -/
theorem print_silenced_by_unindent :
    let p := ({} : Printer).unindent
    p.limit = none ∧ (p.print "a").written ≠ p.written ++ p.inserted "a" := by
  intro p
  exact ⟨rfl, by decide +kernel⟩

end Parcelgen

import Parcelgen.Proofs.Layout.Printing

/-!
Scripts on a sink that takes only so many bytes, beside the same scripts on a sink that takes everything. As long as every write fits, the
two printers are in step. The first write that does not fit stops the limited one for good, while the other goes on; so what was accepted
is always the beginning of the whole text, and a script that ends by asking for the sink's error cannot hide a loss.
-/

namespace Parcelgen

namespace Printer

/-- `q` comes after `p`: text is only added, and none once something has gone wrong. -/
structure Advances (p q : Printer) : Prop where
  written : ∃ more, q.written = p.written ++ more
  sticky : p.error.isSome = true → q.error.isSome = true ∧ q.written = p.written

theorem Prints.advances {p q : Printer} (h : Prints p q) : Advances p q := ⟨h.written, fun he => ⟨h.sticky he, h.silent he⟩⟩

namespace Advances

theorem refl (p : Printer) : Advances p p := (Prints.refl p).advances

theorem trans {p q r : Printer} (hpq : Advances p q) (hqr : Advances q r) : Advances p r := by
  obtain ⟨first, hfirst⟩ := hpq.written
  obtain ⟨second, hsecond⟩ := hqr.written
  refine ⟨⟨first ++ second, by rw [hsecond, hfirst, String.append_assoc]⟩, ?_⟩
  intro he
  obtain ⟨he, hq⟩ := hpq.sticky he
  obtain ⟨he, hr⟩ := hqr.sticky he
  exact ⟨he, hr.trans hq⟩

theorem print (p : Printer) (s : String) : Advances p (p.print s) := (Prints.print p s).advances

theorem indent (p : Printer) : Advances p p.indent := ⟨⟨"", by simp [Printer.indent]⟩, fun he => ⟨he, rfl⟩⟩

theorem unindent (p : Printer) : Advances p p.unindent := by
  unfold Printer.unindent
  split
  · exact ⟨⟨"", by simp⟩, fun _ => ⟨by simp, rfl⟩⟩
  · exact ⟨⟨"", by simp⟩, fun he => ⟨he, rfl⟩⟩

end Advances

/-- Everything written so far fits the limit, and `p` differs from `q` in nothing but that limit. -/
structure InStep (limit : Nat) (p q : Printer) : Prop where
  same : p = { q with limit := some limit }
  unlimited : q.limit = none
  fits : q.written.utf8ByteSize ≤ limit

/-- `p` has met the limit, and the text of `q` is beyond it. -/
structure Stopped (limit : Nat) (p q : Printer) : Prop where
  error : p.error.isSome = true
  written : ∃ lost, q.written = p.written ++ lost
  beyond : limit < q.written.utf8ByteSize

theorem Stopped.advance {limit : Nat} {p p' q q' : Printer} (h : Stopped limit p q) (hp : Advances p p') (hq : Advances q q') :
    Stopped limit p' q' := by
  obtain ⟨lost, hlost⟩ := h.written
  obtain ⟨more, hmore⟩ := hq.written
  obtain ⟨he, hw⟩ := hp.sticky h.error
  refine ⟨he, ⟨lost ++ more, by rw [hmore, hlost, hw, String.append_assoc]⟩, ?_⟩
  rw [hmore, String.utf8ByteSize_append]
  exact Nat.lt_add_right _ h.beyond

/-- `p` prints with a limit what `q` prints without one. -/
def Trails (limit : Nat) (p q : Printer) : Prop := InStep limit p q ∨ Stopped limit p q

namespace Trails

variable {limit : Nat} {p q : Printer}

theorem write (h : Trails limit p q) (s : String) : Trails limit (p.write s) (q.write s) := by
  rcases h with ⟨rfl, hl, hf⟩ | h
  · by_cases he : q.error.isSome = true
    · exact .inl ⟨by simp [Printer.write, he], by simp [Printer.write, he, hl], by simpa [Printer.write, he] using hf⟩
    · have hq : q.write s = { q with written := q.written ++ s } := by simp [Printer.write, he, fits, hl]
      have hsize : (q.written ++ s).utf8ByteSize = q.written.utf8ByteSize + s.utf8ByteSize := String.utf8ByteSize_append
      rw [hq]
      by_cases hs : q.written.utf8ByteSize + s.utf8ByteSize ≤ limit
      · exact .inl ⟨by simp [Printer.write, he, fits, hs], hl, hsize ▸ hs⟩
      · have hp : Printer.write { q with limit := some limit } s = { q with limit := some limit, error := some sinkFull } := by
          simp [Printer.write, he, fits, hs]
        rw [hp]
        exact .inr ⟨rfl, ⟨s, rfl⟩, by rw [hsize]; omega⟩
  · exact .inr (h.advance (Prints.write p s).advances (Prints.write q s).advances)

theorem lineStart (h : Trails limit p q) (b : Bool) : Trails limit { p with atLineStart := b } { q with atLineStart := b } := by
  rcases h with ⟨rfl, hl, hf⟩ | h
  · exact .inl ⟨rfl, hl, hf⟩
  · exact .inr (h.advance (Prints.lineStart p b).advances (Prints.lineStart q b).advances)

theorem putLine (h : Trails limit p q) (line : List Char) : Trails limit (p.putLine line) (q.putLine line) := by
  rcases h with ⟨rfl, hl, hf⟩ | h
  · have hq : Trails limit { q with limit := some limit } q := .inl ⟨rfl, hl, hf⟩
    unfold Printer.putLine
    split
    · exact hq
    · refine (write ?_ _).lineStart false
      show Trails limit (if q.atLineStart = true then Printer.write { q with limit := some limit } q.indentation else _)
        (if q.atLineStart = true then q.write q.indentation else q)
      split
      · exact hq.write _
      · exact hq
  · exact .inr (h.advance (Prints.putLine p line).advances (Prints.putLine q line).advances)

theorem endLine (h : Trails limit p q) : Trails limit p.endLine q.endLine := (h.write "\n").lineStart true

theorem putLines (h : Trails limit p q) (ls : List (List Char)) : Trails limit (p.putLines ls) (q.putLines ls) := by
  fun_induction Printer.putLines p ls generalizing q with
  | case1 p => exact h
  | case2 p line => exact h.putLine line
  | case3 p line more hmore ih =>
    rw [Printer.putLines]
    · exact ih (h.putLine line).endLine
    · exact hmore

theorem print (h : Trails limit p q) (s : String) : Trails limit (p.print s) (q.print s) := by
  rcases h with ⟨rfl, hl, hf⟩ | h
  · have hq : Trails limit { q with limit := some limit } q := .inl ⟨rfl, hl, hf⟩
    unfold Printer.print
    dsimp only
    split
    · exact hq
    · exact hq.putLines _
  · exact .inr (h.advance (.print p s) (.print q s))

theorem indent (h : Trails limit p q) : Trails limit p.indent q.indent := by
  rcases h with ⟨rfl, hl, hf⟩ | h
  · exact .inl ⟨rfl, hl, hf⟩
  · exact .inr (h.advance (.indent p) (.indent q))

theorem unindent (h : Trails limit p q) : Trails limit p.unindent q.unindent := by
  rcases h with ⟨rfl, hl, hf⟩ | h
  · unfold Printer.unindent
    dsimp only
    split
    · exact .inl ⟨rfl, hl, hf⟩
    · exact .inl ⟨rfl, hl, hf⟩
  · exact .inr (h.advance (.unindent p) (.unindent q))

end Trails

end Printer

namespace Layout

open Printer (Advances InStep Stopped Trails)

mutual

theorem run_advances : ∀ (l : Layout) (p : Printer), Advances p (run p l).printer
  | .text s, p => .print p s
  | .indent, p => .indent p
  | .unindent, p => .unindent p
  | .scope _ _ body after, p =>
    ((Advances.print p _).trans (.indent _)).trans
      ((runAll_advances body _).trans ((Advances.unindent _).trans ((Advances.print _ _).trans (.print _ after))))
  | .within _ body, p => runAll_advances body p
  | .fail _, p | .note _, p | .settle, p => .refl p

theorem runAll_advances : ∀ (ls : List Layout) (p : Printer), Advances p (runAll p ls).printer
  | [], p => .refl p
  | l :: ls, p => by
    simp only [runAll]
    split
    · exact run_advances l p
    · exact (run_advances l p).trans (runAll_advances ls _)

end

/-- In step the two runs end alike; once the limited one has stopped, how it ends says nothing about the other. -/
def Outcome.Trails (limit : Nat) (cut full : Outcome) : Prop :=
  InStep limit cut.printer full.printer ∧ cut.error = full.error ∨ Stopped limit cut.printer full.printer

theorem Outcome.Trails.printer {limit : Nat} {cut full : Outcome} (h : cut.Trails limit full) :
    Printer.Trails limit cut.printer full.printer := by
  rcases h with ⟨h, -⟩ | h
  · exact .inl h
  · exact .inr h

/-- What does not look at the sink ends alike on both sides. -/
theorem Outcome.Trails.of_printer {limit : Nat} {cut full : Outcome} (h : Printer.Trails limit cut.printer full.printer)
    (he : InStep limit cut.printer full.printer → cut.error = full.error) : cut.Trails limit full := by
  rcases h with h | h
  · exact .inl ⟨h, he h⟩
  · exact .inr h

mutual

theorem run_trails {limit : Nat} : ∀ (l : Layout) {p q : Printer}, Trails limit p q → (run p l).Trails limit (run q l)
  | .text s, _, _, h => .of_printer (h.print s) fun _ => rfl
  | .indent, _, _, h => .of_printer h.indent fun _ => rfl
  | .unindent, _, _, h => .of_printer h.unindent fun _ => rfl
  | .scope opening closing body after, p, q, h => by
    rcases runAll_trails body (h.print (opening ++ "\n")).indent with ⟨hstep, herror⟩ | hstop
    · have hclosed : Trails limit _ _ := (Trails.unindent (.inl hstep)).print (closing ++ "\n")
      rcases hclosed with hclosed | hclosed
      · refine .of_printer (Trails.print (.inl hclosed) after) fun _ => ?_
        show ((runAll (p.print (opening ++ "\n")).indent body).error <|> _) = (_ <|> _)
        rw [herror, hclosed.same]
      · exact .inr (hclosed.advance (.print _ after) (.print _ after))
    · -- The limit was met inside; nothing that follows is written on this side.
      have hclosed := hstop.advance ((Advances.unindent _).trans (.print _ (closing ++ "\n")))
        ((Advances.unindent _).trans (.print _ (closing ++ "\n")))
      exact .inr (hclosed.advance (.print _ after) (.print _ after))
  | .within path body, p, q, h => by
    rcases runAll_trails body h with ⟨hstep, herror⟩ | hstop
    · refine .inl ⟨hstep, ?_⟩
      show (runAll p body).error.map _ = (runAll q body).error.map _
      rw [herror]
    · exact .inr hstop
  | .fail _, _, _, h => .of_printer h fun _ => rfl
  | .note _, _, _, h => .of_printer h fun _ => rfl
  | .settle, p, q, h => by
    refine .of_printer h fun hstep => ?_
    show p.error = q.error
    rw [show p = _ from hstep.same]
    rfl

theorem runAll_trails {limit : Nat} : ∀ (ls : List Layout) {p q : Printer}, Trails limit p q → (runAll p ls).Trails limit (runAll q ls)
  | [], _, _, h => .of_printer h fun _ => rfl
  | l :: ls, p, q, h => by
    rcases run_trails l h with ⟨hstep, herror⟩ | hstop
    · simp only [runAll, herror]
      split
      · exact .inl ⟨hstep, herror⟩
      · exact runAll_trails ls (.inl hstep)
    · -- Either side may go on after the first script or end with it.
      have hp : Advances (run p l).printer (runAll p (l :: ls)).printer := by
        simp only [runAll]
        split
        · exact .refl _
        · exact runAll_advances ls _
      have hq : Advances (run q l).printer (runAll q (l :: ls)).printer := by
        simp only [runAll]
        split
        · exact .refl _
        · exact runAll_advances ls _
      exact .inr (hstop.advance hp hq)

end

theorem error_of_settled {p : Printer} {ls : List Layout} (h : (runAll p (ls ++ [.settle])).error = none) :
    (runAll p (ls ++ [.settle])).printer.error = none := by
  obtain ⟨herror, hprinter, -⟩ := runAll_append p ls [.settle]
  rw [herror, Option.or_eq_none_iff] at h
  obtain ⟨hls, hsettle⟩ := h
  rw [hprinter hls]
  cases hsink : (runAll p ls).printer.error with
  | none => simp [runAll, run, hsink]
  | some e => simp [runAll, run, hsink] at hsettle

/-- On a sink with a limit the accepted text is the beginning of the whole text, and the script succeeds exactly when it does so without a
limit and the whole text fits. -/
def ReportsLoss (script : List Layout) : Prop :=
  ∀ (unit : String) (depth limit : Nat),
    let full := runAll { unit, depth } script
    let cut := runAll { unit, depth, limit := some limit } script
    (∃ lost, full.printer.written = cut.printer.written ++ lost) ∧
      (cut.error = none ↔ full.error = none ∧ full.printer.written.utf8ByteSize ≤ limit)

/-- A script that asks for the sink's error at its end reports every loss. -/
theorem reportsLoss_of_settled (ls : List Layout) : ReportsLoss (ls ++ [.settle]) := by
  intro unit depth limit full cut
  have hstart : Trails limit { unit, depth, limit := some limit } { unit, depth } := .inl ⟨rfl, rfl, Nat.zero_le _⟩
  have htrails : cut.Trails limit full := runAll_trails (ls ++ [.settle]) hstart
  rcases htrails with ⟨hstep, herror⟩ | hstop
  · refine ⟨⟨"", ?_⟩, ?_⟩
    · rw [hstep.same]
      simp
    · rw [herror]
      exact ⟨fun hfull => ⟨hfull, hstep.fits⟩, fun h => h.1⟩
  · refine ⟨hstop.written, ?_, ?_⟩
    · intro hcut
      have hsink : cut.printer.error = none := error_of_settled hcut
      have hstopped := hstop.error
      rw [hsink] at hstopped
      cases hstopped
    · rintro ⟨-, hfits⟩
      exact absurd hfits (Nat.not_le_of_lt hstop.beyond)

end Layout

end Parcelgen

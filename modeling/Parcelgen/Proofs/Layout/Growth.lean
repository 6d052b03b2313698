import Parcelgen.Proofs.Layout.Truncation

/-!
Printing is heard: a script with some text in it makes the output longer (`runAll_grows`), unless it fails before it comes to the text or the
sink does.
-/

namespace Parcelgen

namespace Printer

/-- Unless the sink has failed by then, `q` has written more than `p`. -/
def Grows (p q : Printer) : Prop := q.error = none → p.written.length < q.written.length

variable {p q r : Printer}

theorem Advances.length_le (h : Advances p q) : p.written.length ≤ q.written.length := by
  obtain ⟨more, hmore⟩ := h.written
  rw [hmore, String.length_append]
  exact Nat.le_add_right _ _

theorem Advances.error_eq_none (h : Advances p q) (hq : q.error = none) : p.error = none := by
  cases hp : p.error with
  | none => rfl
  | some e =>
    obtain ⟨hsome, -⟩ := h.sticky (by rw [hp]; rfl)
    rw [hq] at hsome
    cases hsome

theorem Grows.advance (h : Grows p q) (hr : Advances q r) : Grows p r := by
  intro he
  exact Nat.lt_of_lt_of_le (h (hr.error_eq_none he)) hr.length_le

theorem Advances.grow (h : Advances p q) (hr : Grows q r) : Grows p r := by
  intro he
  exact Nat.lt_of_le_of_lt h.length_le (hr he)

theorem write_grows (p : Printer) {s : String} (hs : s ≠ "") : Grows p (p.write s) := by
  intro he
  have hp : p.error = none := (Prints.write p s).advances.error_eq_none he
  have hlength : 0 < s.length := Nat.pos_of_ne_zero fun h => hs (String.length_eq_zero_iff.mp h)
  by_cases hfits : p.fits s = true
  · have hwrite : p.write s = { p with written := p.written ++ s } := by simp [Printer.write, hp, hfits]
    rw [hwrite, String.length_append]
    omega
  · have hwrite : (p.write s).error = some sinkFull := by simp [Printer.write, hp, hfits]
    rw [hwrite] at he
    cases he

theorem putLine_grows (p : Printer) {line : List Char} (hline : line ≠ []) : Grows p (p.putLine line) := by
  have hempty : line.isEmpty = false := by simpa using hline
  have hs : String.ofList line ≠ "" := by
    intro h
    exact hline (by simpa using congrArg String.toList h)
  unfold Printer.putLine
  rw [if_neg (by simp [hempty])]
  have hindent : Advances p (if p.atLineStart = true then p.write p.indentation else p) := by
    split
    · exact (Prints.write p _).advances
    · exact .refl p
  exact (hindent.grow (write_grows _ hs)).advance (Prints.lineStart _ false).advances

theorem endLine_grows (p : Printer) : Grows p p.endLine := (write_grows p (by decide)).advance (Prints.lineStart _ true).advances

theorem lines_ne_nil (cs : List Char) : lines cs ≠ [] := by
  fun_cases lines cs <;> simp

/-- Lines are heard if the first of them is not empty, or if it ends. -/
theorem putLines_grows (p : Printer) {line : List Char} {more : List (List Char)} (h : line ≠ [] ∨ more ≠ []) :
    Grows p (p.putLines (line :: more)) := by
  cases more with
  | nil =>
    rcases h with h | h
    · exact putLine_grows p h
    · exact absurd rfl h
  | cons next more =>
    show Grows p ((p.putLine line).endLine.putLines (next :: more))
    exact ((Prints.putLine p line).advances.grow (endLine_grows _)).advance (Prints.putLines _ _).advances

theorem print_grows (p : Printer) {s : String} (hs : s ≠ "") : Grows p (p.print s) := by
  intro he
  have hp : p.error = none := (Advances.print p s).error_eq_none he
  have hprint : p.print s = p.putLines (lines s.toList) := by simp [Printer.print, hp]
  rw [hprint] at he ⊢
  cases hchars : s.toList with
  | nil => exact absurd (String.toList_eq_nil_iff.mp hchars) hs
  | cons c cs =>
    rw [hchars, lines] at he
    rw [lines]
    split at he
    · rename_i hc
      rw [if_pos hc]
      exact putLines_grows p (.inr (lines_ne_nil cs)) he
    · rename_i hc
      rw [if_neg hc]
      cases hlines : lines cs with
      | nil => exact absurd hlines (lines_ne_nil cs)
      | cons line more =>
        rw [hlines] at he
        exact putLines_grows p (.inl (by simp)) he

end Printer

namespace Layout

open Printer (Advances Grows)

mutual

/-- The script has text in it, or braces. -/
def inks : Layout → Bool
  | .text s => s != ""
  | .scope _ _ _ _ => true
  | .within _ body => anyInks body
  | .indent | .unindent | .fail _ | .note _ | .settle => false

def anyInks : List Layout → Bool
  | [] => false
  | l :: ls => inks l || anyInks ls

end

theorem anyInks_append (as bs : List Layout) : anyInks (as ++ bs) = (anyInks as || anyInks bs) := by
  induction as with
  | nil => rfl
  | cons a as ih => rw [List.cons_append, anyInks, anyInks, ih, Bool.or_assoc]

mutual

theorem run_grows : ∀ (l : Layout) (p : Printer), inks l = true → (run p l).error = none → Grows p (run p l).printer
  | .text s, p, h, _ => Printer.print_grows p (by simpa [inks] using h)
  | .scope opening closing body after, p, _, _ => by
    have hopening : Grows p (p.print (opening ++ "\n")) := Printer.print_grows p (by simp)
    exact hopening.advance ((Advances.indent _).trans
      ((runAll_advances body _).trans ((Advances.unindent _).trans ((Advances.print _ _).trans (.print _ after)))))
  | .within path body, p, h, he => by
    rw [run, Option.map_eq_none_iff] at he
    exact runAll_grows body p (by simpa [inks] using h) he
  | .indent, _, h, _ | .unindent, _, h, _ | .fail _, _, h, _ | .note _, _, h, _ | .settle, _, h, _ => by simp [inks] at h

/-- A script that is run to its end is heard when there is text in it. -/
theorem runAll_grows : ∀ (ls : List Layout) (p : Printer), anyInks ls = true → (runAll p ls).error = none → Grows p (runAll p ls).printer
  | [], _, h, _ => by simp [anyInks] at h
  | l :: ls, p, h, he => by
    rw [anyInks, Bool.or_eq_true] at h
    rw [runAll] at he ⊢
    split at he
    · rename_i hsome
      rw [he] at hsome
      cases hsome
    · rename_i hnone
      rw [if_neg hnone]
      rcases h with h | h
      · exact (run_grows l p h (by simpa using hnone)).advance (runAll_advances ls _)
      · exact (run_advances l p).grow (runAll_grows ls _ h he)

end

end Layout

end Parcelgen

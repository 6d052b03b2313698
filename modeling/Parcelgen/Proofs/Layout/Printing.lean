import Parcelgen.Proofs.Layout.Outcome

/-!
What printing does to a printer in any state: text is added at the end, the level stays, and the only error that can be new is that of a
full sink. Once there is an error nothing more is written.
-/

namespace Parcelgen

namespace Printer

/-- `q` is `p` after some printing. -/
structure Prints (p q : Printer) : Prop where
  written : ∃ more, q.written = p.written ++ more
  silent : p.error.isSome = true → q.written = p.written
  error : q.error = p.error ∨ p.error = none ∧ q.error = some sinkFull
  depth : q.depth = p.depth

namespace Prints

theorem refl (p : Printer) : Prints p p := ⟨⟨"", by simp⟩, fun _ => rfl, .inl rfl, rfl⟩

/-- An error is never taken back. -/
theorem sticky {p q : Printer} (h : Prints p q) (he : p.error.isSome = true) : q.error.isSome = true := by
  rcases h.error with hq | ⟨hp, -⟩
  · rw [hq]
    exact he
  · rw [hp] at he
    cases he

theorem trans {p q r : Printer} (hpq : Prints p q) (hqr : Prints q r) : Prints p r := by
  obtain ⟨first, hfirst⟩ := hpq.written
  obtain ⟨second, hsecond⟩ := hqr.written
  refine ⟨⟨first ++ second, by rw [hsecond, hfirst, String.append_assoc]⟩, ?_, ?_, hqr.depth.trans hpq.depth⟩
  · intro he
    rw [hqr.silent (hpq.sticky he), hpq.silent he]
  · rcases hqr.error with hr | ⟨hq, hr⟩
    · rw [hr]
      exact hpq.error
    · rcases hpq.error with hp | ⟨hp, -⟩
      · exact .inr ⟨hp.symm.trans hq, hr⟩
      · exact .inr ⟨hp, hr⟩

theorem write (p : Printer) (s : String) : Prints p (p.write s) := by
  unfold Printer.write
  split
  · exact refl p
  · rename_i he
    split
    · exact ⟨⟨s, rfl⟩, fun h => absurd h he, .inl rfl, rfl⟩
    · exact ⟨⟨"", by simp⟩, fun _ => rfl, .inr ⟨by simpa using he, rfl⟩, rfl⟩

theorem lineStart (p : Printer) (b : Bool) : Prints p { p with atLineStart := b } := ⟨⟨"", by simp⟩, fun _ => rfl, .inl rfl, rfl⟩

theorem putLine (p : Printer) (line : List Char) : Prints p (p.putLine line) := by
  unfold Printer.putLine
  split
  · exact refl p
  · refine .trans ?_ ((write _ _).trans (lineStart _ _))
    split
    · exact write p _
    · exact refl p

theorem endLine (p : Printer) : Prints p p.endLine := (write p "\n").trans (lineStart _ _)

theorem putLines (p : Printer) (ls : List (List Char)) : Prints p (p.putLines ls) := by
  fun_induction Printer.putLines p ls with
  | case1 p => exact refl p
  | case2 p line => exact putLine p line
  | case3 p line more _ ih => exact (putLine p line).trans ((endLine _).trans ih)

theorem print (p : Printer) (s : String) : Prints p (p.print s) := by
  unfold Printer.print
  split
  · exact refl p
  · exact putLines p _

end Prints

end Printer

end Parcelgen

import Parcelgen.Proofs.Layout.Printing

/-!
Kinds of errors. Printing can only fail with an error of the sink or with an unindent that has no match; every other kind of error that a run
ends with was put into the script, and it is then the script's first failure (`runAll_spares`). This holds on any sink and in any state.
-/

namespace Parcelgen

/-- The kind of the error's own fault. -/
def Error.kind? (e : Error) : Option FaultKind := e.fault?.map (·.kind)

@[simp] theorem Error.kind?_fault (f : Fault) : (Error.fault f).kind? = some f.kind := rfl

@[simp] theorem Error.kind?_within (e : Error) (path : List String) : (e.within path).kind? = e.kind? := by
  cases e <;> rfl

namespace Printer

/-- The error that the printer remembers, if any, is not of the given kind. -/
def Spares (kind : FaultKind) (p : Printer) : Prop := ∀ e, p.error = some e → e.kind? ≠ some kind

variable {kind : FaultKind} {p : Printer}

theorem Prints.spares {q : Printer} (h : Prints p q) (hkind : kind ≠ .write) (hp : p.Spares kind) : q.Spares kind := by
  intro e he
  rcases h.error with heq | ⟨-, heq⟩
  · rw [heq] at he
    exact hp e he
  · rw [heq] at he
    cases he
    exact fun h => hkind (Option.some.inj h).symm

theorem Spares.unindent (hp : p.Spares kind) (hkind : kind ≠ .invalidInput) : p.unindent.Spares kind := by
  unfold Printer.unindent
  split
  · intro e he
    cases hpe : p.error with
    | some e' =>
      simp only [hpe] at he
      cases he
      exact hp e hpe
    | none =>
      simp only [hpe] at he
      cases he
      exact fun h => hkind (Option.some.inj h).symm
  · exact hp

end Printer

namespace Layout

open Printer (Prints Spares)

variable {kind : FaultKind}

mutual

/-- An error of a kind that printing does not raise is the failure of the script itself. -/
theorem run_spares (hwrite : kind ≠ .write) (hindent : kind ≠ .invalidInput) : ∀ (l : Layout) {p : Printer}, p.Spares kind →
    (run p l).printer.Spares kind ∧ ∀ e, (run p l).error = some e → e.kind? = some kind → failure? l = some e
  | .text s, p, hp => ⟨(Prints.print p s).spares hwrite hp, fun e he => by cases he⟩
  | .indent, p, hp => ⟨hp, fun e he => by cases he⟩
  | .unindent, p, hp => ⟨hp.unindent hindent, fun e he => by cases he⟩
  | .scope opening closing body after, p, hp => by
    have hopened : (p.print (opening ++ "\n")).indent.Spares kind := (Prints.print p _).spares hwrite hp
    obtain ⟨hinner, hbody⟩ := runAll_spares hwrite hindent body hopened
    have hclosed := (Prints.print _ (closing ++ "\n")).spares hwrite (hinner.unindent hindent)
    refine ⟨(Prints.print _ after).spares hwrite hclosed, fun e he hkind => ?_⟩
    rw [run, Option.orElse_eq_orElse, Option.orElse_eq_or, Option.or_eq_some_iff] at he
    rcases he with he | ⟨-, he⟩
    · exact hbody e he hkind
    · exact absurd hkind (hclosed e he)
  | .within path body, p, hp => by
    obtain ⟨hinner, hbody⟩ := runAll_spares hwrite hindent body hp
    refine ⟨hinner, fun e he hkind => ?_⟩
    obtain ⟨e', he', rfl⟩ := Option.map_eq_some_iff.mp he
    rw [Error.kind?_within] at hkind
    rw [failure?, hbody e' he' hkind, Option.map_some]
  | .fail e, p, hp => ⟨hp, fun e' he' _ => he'⟩
  | .note _, p, hp => ⟨hp, fun e he => by cases he⟩
  | .settle, p, hp => ⟨hp, fun e he hkind => absurd hkind (hp e he)⟩

theorem runAll_spares (hwrite : kind ≠ .write) (hindent : kind ≠ .invalidInput) : ∀ (ls : List Layout) {p : Printer}, p.Spares kind →
    (runAll p ls).printer.Spares kind ∧ ∀ e, (runAll p ls).error = some e → e.kind? = some kind → failures ls = some e
  | [], p, hp => ⟨hp, fun e he => by cases he⟩
  | l :: ls, p, hp => by
    obtain ⟨hfirst, hl⟩ := run_spares hwrite hindent l hp
    rw [runAll]
    split
    · refine ⟨hfirst, fun e he hkind => ?_⟩
      rw [failures, hl e he hkind, Option.some_or]
    · rename_i hnone
      obtain ⟨hrest, hls⟩ := runAll_spares hwrite hindent ls hfirst
      refine ⟨hrest, fun e he hkind => ?_⟩
      rw [failures, failure?_of_run l (by simpa using hnone), Option.none_or]
      exact hls e he hkind

end

end Layout

end Parcelgen

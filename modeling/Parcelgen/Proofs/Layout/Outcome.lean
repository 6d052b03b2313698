import Parcelgen.Layout.Script

/-!
Outcomes of layout scripts. Where a script fails can be read off it without running it (`failures`): on a sink that takes everything, the
error of a run is the script's first failure. This needs the script to go back to the level it started from and never to leave the margin,
which `Level` says.
-/

namespace Parcelgen

namespace Printer

/-- The sink takes everything and nothing has gone wrong so far. -/
structure Unfailing (p : Printer) : Prop where
  error : p.error = none
  limit : p.limit = none

theorem unfailing_new : ({} : Printer).Unfailing := ⟨rfl, rfl⟩

theorem Unfailing.write {p : Printer} (h : p.Unfailing) (s : String) :
    (p.write s).Unfailing ∧ (p.write s).depth = p.depth := by
  obtain ⟨he, hl⟩ := h
  have hfits : p.fits s = true := by simp [fits, hl]
  have hw : p.write s = { p with written := p.written ++ s } := by simp [Printer.write, he, hfits]
  rw [hw]
  exact ⟨⟨he, hl⟩, rfl⟩

theorem Unfailing.putLine {p : Printer} (h : p.Unfailing) (line : List Char) :
    (p.putLine line).Unfailing ∧ (p.putLine line).depth = p.depth := by
  unfold Printer.putLine
  split
  · exact ⟨h, rfl⟩
  · have hp : (if p.atLineStart = true then p.write p.indentation else p).Unfailing ∧
        (if p.atLineStart = true then p.write p.indentation else p).depth = p.depth := by
      split
      · exact h.write _
      · exact ⟨h, rfl⟩
    obtain ⟨hu, hd⟩ := hp.1.write (String.ofList line)
    exact ⟨⟨hu.error, hu.limit⟩, hd.trans hp.2⟩

theorem Unfailing.endLine {p : Printer} (h : p.Unfailing) :
    p.endLine.Unfailing ∧ p.endLine.depth = p.depth := by
  obtain ⟨hu, hd⟩ := h.write "\n"
  exact ⟨⟨hu.error, hu.limit⟩, hd⟩

theorem Unfailing.putLines {p : Printer} (h : p.Unfailing) (ls : List (List Char)) :
    (p.putLines ls).Unfailing ∧ (p.putLines ls).depth = p.depth := by
  fun_induction Printer.putLines p ls with
  | case1 p => exact ⟨h, rfl⟩
  | case2 p line => exact h.putLine line
  | case3 p line more _ ih =>
    obtain ⟨hl, dl⟩ := h.putLine line
    obtain ⟨he, de⟩ := hl.endLine
    obtain ⟨hm, dm⟩ := ih he
    exact ⟨hm, dm.trans (de.trans dl)⟩

theorem Unfailing.print {p : Printer} (h : p.Unfailing) (s : String) :
    (p.print s).Unfailing ∧ (p.print s).depth = p.depth := by
  unfold Printer.print
  rw [h.error]
  exact h.putLines _

theorem Unfailing.unindent {p : Printer} (h : p.Unfailing) {n : Nat} (hd : p.depth = n + 1) :
    p.unindent.Unfailing ∧ p.unindent.depth = n := by
  unfold Printer.unindent
  rw [hd]
  exact ⟨⟨h.error, h.limit⟩, rfl⟩

end Printer

namespace Layout

mutual

/-- The failure that a script runs into, whatever it prints. -/
def failure? : Layout → Option Error
  | .scope _ _ body _ => failures body
  | .within path body => (failures body).map (·.within path)
  | .fail e => some e
  | .text _ | .indent | .unindent | .note _ | .settle => none

/-- The first failure of a list of scripts. -/
def failures : List Layout → Option Error
  | [] => none
  | l :: ls => (failure? l).or (failures ls)

end

@[simp] theorem failures_append (as bs : List Layout) : failures (as ++ bs) = (failures as).or (failures bs) := by
  induction as with
  | nil => simp [failures]
  | cons a as ih => simp [failures, ih, Option.or_assoc]

theorem failures_eq_none_iff {ls : List Layout} : failures ls = none ↔ ∀ l ∈ ls, failure? l = none := by
  induction ls with
  | nil => simp [failures]
  | cons l ls ih => simp [failures, Option.or_eq_none_iff, ih]

theorem failures_flatMap_eq_none_iff {α : Type} {f : α → List Layout} {xs : List α} :
    failures (xs.flatMap f) = none ↔ ∀ x ∈ xs, failures (f x) = none := by
  induction xs with
  | nil => simp [failures]
  | cons x xs ih => simp [Option.or_eq_none_iff, ih]

mutual

/-- A run without an error has met no failure, whatever the printer. -/
theorem failure?_of_run {p : Printer} : ∀ l : Layout, (run p l).error = none → failure? l = none
  | .scope _ _ body _, h => by
    simp only [run, Option.orElse_eq_orElse, Option.orElse_eq_or, Option.or_eq_none_iff] at h
    exact failures_of_run body h.1
  | .within path body, h => by
    simp only [run, Option.map_eq_none_iff] at h
    simp only [failure?, failures_of_run body h, Option.map_none]
  | .fail e, h => by simp [run] at h
  | .text _, _ | .indent, _ | .unindent, _ | .note _, _ | .settle, _ => by simp [failure?]

theorem failures_of_run {p : Printer} : ∀ ls : List Layout, (runAll p ls).error = none → failures ls = none
  | [], _ => rfl
  | l :: ls, h => by
    simp only [runAll] at h
    split at h
    · rename_i hs
      rw [h] at hs
      cases hs
    · rename_i hs
      have hl : failure? l = none := failure?_of_run l (by simpa using hs)
      have hr : failures ls = none := failures_of_run ls h
      rw [failures, hl, hr]
      rfl

end

/-- Scripts that end on the level they start from and, started at least `room` levels deep, never leave the margin. -/
inductive Level : Nat → List Layout → Prop
  | nil {room} : Level room []
  | text {room s ls} : Level room ls → Level room (.text s :: ls)
  | hanging {room s ls} : Level room ls → Level room (.indent :: .indent :: .text s :: .unindent :: .unindent :: ls)
  | outdented {room s ls} : Level (room + 1) ls → Level (room + 1) (.unindent :: .text s :: .indent :: ls)
  | scope {room opening closing body after ls} :
      Level (room + 1) body → Level room ls → Level room (.scope opening closing body after :: ls)
  | within {room path body ls} : Level room body → Level room ls → Level room (.within path body :: ls)
  | fail {room e ls} : Level room ls → Level room (.fail e :: ls)
  | note {room e ls} : Level room ls → Level room (.note e :: ls)
  | settle {room ls} : Level room ls → Level room (.settle :: ls)

theorem Level.append {room : Nat} {as bs : List Layout} (ha : Level room as) (hb : Level room bs) : Level room (as ++ bs) := by
  induction ha with
  | nil => exact hb
  | text _ ih => exact .text (ih hb)
  | hanging _ ih => exact .hanging (ih hb)
  | outdented _ ih => exact .outdented (ih hb)
  | scope hbody _ _ ih => exact .scope hbody (ih hb)
  | within hbody _ _ ih => exact .within hbody (ih hb)
  | fail _ ih => exact .fail (ih hb)
  | note _ ih => exact .note (ih hb)
  | settle _ ih => exact .settle (ih hb)

theorem Level.succ {room : Nat} {ls : List Layout} (h : Level room ls) : Level (room + 1) ls := by
  induction h with
  | nil => exact .nil
  | text _ ih => exact .text ih
  | hanging _ ih => exact .hanging ih
  | outdented _ ih => exact .outdented ih
  | scope _ _ ihb ih => exact .scope ihb ih
  | within _ _ ihb ih => exact .within ihb ih
  | fail _ ih => exact .fail ih
  | note _ ih => exact .note ih
  | settle _ ih => exact .settle ih

theorem Level.flatMap {α : Type} {room : Nat} {f : α → List Layout} {xs : List α} (h : ∀ x ∈ xs, Level room (f x)) :
    Level room (xs.flatMap f) := by
  induction xs with
  | nil => exact .nil
  | cons x xs ih => exact (h x (by simp)).append (ih fun y hy => h y (by simp [hy]))

theorem Level.map {α : Type} {room : Nat} {f : α → Layout} {xs : List α} (h : ∀ x ∈ xs, Level room [f x]) : Level room (xs.map f) := by
  rw [List.map_eq_flatMap]
  exact Level.flatMap h

/-- What a run on an unfailing sink leaves behind, compared with where it started. -/
structure Runs (p : Printer) (o : Outcome) (failed : Option Error) : Prop where
  error : o.error = failed
  unfailing : o.printer.Unfailing
  depth : o.printer.depth = p.depth

theorem runAll_append (p : Printer) (as bs : List Layout) :
    (runAll p (as ++ bs)).error = (runAll p as).error.or (runAll (runAll p as).printer bs).error ∧
      ((runAll p as).error = none → (runAll p (as ++ bs)).printer = (runAll (runAll p as).printer bs).printer) ∧
      ((runAll p as).error ≠ none → (runAll p (as ++ bs)).printer = (runAll p as).printer) := by
  induction as generalizing p with
  | nil => simp [runAll]
  | cons a as ih =>
    obtain ⟨he, hn, hs⟩ := ih (run p a).printer
    simp only [List.cons_append, runAll]
    by_cases ha : (run p a).error.isSome = true
    · obtain ⟨e, hae⟩ := Option.isSome_iff_exists.mp ha
      simp [hae]
    · simp only [ha, Bool.false_eq_true, if_false]
      exact ⟨he, hn, hs⟩

/-- A run in front of another: its failure ends both. -/
theorem Runs.append {p : Printer} {as bs : List Layout} (ha : Runs p (runAll p as) (failures as))
    (hb : ∀ q : Printer, q.Unfailing → q.depth = p.depth → Runs q (runAll q bs) (failures bs)) :
    Runs p (runAll p (as ++ bs)) (failures (as ++ bs)) := by
  obtain ⟨hae, hau, had⟩ := ha
  obtain ⟨hbe, hbu, hbd⟩ := hb _ hau had
  obtain ⟨he, hn, hs⟩ := runAll_append p as bs
  have herr : (runAll p (as ++ bs)).error = failures (as ++ bs) := by rw [he, hae, hbe, failures_append]
  cases hf : (runAll p as).error with
  | none =>
    rw [← hn hf] at hbu hbd
    exact ⟨herr, hbu, hbd.trans had⟩
  | some e =>
    rw [← hs (by simp [hf])] at hau had
    exact ⟨herr, hau, had⟩

/-- A script that is one step long. -/
theorem Runs.single {p : Printer} {l : Layout} (h : Runs p (run p l) (failure? l)) : Runs p (runAll p [l]) (failures [l]) := by
  obtain ⟨he, hu, hd⟩ := h
  have hr : (runAll p [l]).error = (run p l).error ∧ (runAll p [l]).printer = (run p l).printer := by
    simp only [runAll]
    cases he : (run p l).error <;> simp [he]
  refine ⟨?_, hr.2 ▸ hu, hr.2 ▸ hd⟩
  rw [hr.1, he]
  simp [failures]

theorem runs_text {p : Printer} (hp : p.Unfailing) (s : String) : Runs p (run p (.text s)) (failure? (.text s)) := by
  obtain ⟨hu, hd⟩ := hp.print s
  exact ⟨rfl, hu, hd⟩

theorem runs_hanging {p : Printer} (hp : p.Unfailing) (s : String) :
    Runs p (runAll p (hanging s)) (failures (hanging s)) := by
  have hi : p.indent.indent.Unfailing := ⟨hp.error, hp.limit⟩
  obtain ⟨hu, hd⟩ := hi.print s
  obtain ⟨hu, hd⟩ := hu.unindent (n := p.depth + 1) hd
  obtain ⟨hu, hd⟩ := hu.unindent (n := p.depth) hd
  exact ⟨rfl, hu, hd⟩

theorem runs_outdented {p : Printer} (hp : p.Unfailing) {n : Nat} (hd : p.depth = n + 1) (s : String) :
    Runs p (runAll p (outdented s)) (failures (outdented s)) := by
  obtain ⟨hu, hn⟩ := hp.unindent hd
  obtain ⟨hu, hs⟩ := hu.print s
  refine ⟨rfl, ⟨hu.error, hu.limit⟩, ?_⟩
  calc ((p.unindent.print s).indent).depth = (p.unindent.print s).depth + 1 := rfl
    _ = p.depth := by rw [hs, hn, hd]

theorem runs_scope {p : Printer} (hp : p.Unfailing) {opening closing after : String} {body : List Layout}
    (hb : ∀ q : Printer, q.Unfailing → q.depth = p.depth + 1 → Runs q (runAll q body) (failures body)) :
    Runs p (run p (.scope opening closing body after)) (failure? (.scope opening closing body after)) := by
  obtain ⟨hu, hd⟩ := hp.print (opening ++ "\n")
  obtain ⟨he, hu, hd'⟩ := hb (p.print (opening ++ "\n")).indent ⟨hu.error, hu.limit⟩ (congrArg (· + 1) hd)
  obtain ⟨hu, hd'⟩ := hu.unindent (n := p.depth) (hd'.trans (congrArg (· + 1) hd))
  obtain ⟨hu, hc⟩ := hu.print (closing ++ "\n")
  have hclosed := hu.error
  obtain ⟨hu, ha⟩ := hu.print after
  refine ⟨?_, hu, ha.trans (hc.trans hd')⟩
  simp only [run, failure?, he, hclosed]
  cases failures body <;> rfl

/-- On a sink that takes everything, a script fails with its first failure and keeps its level. -/
theorem Level.runs {room : Nat} {ls : List Layout} (h : Level room ls) :
    ∀ p : Printer, p.Unfailing → room ≤ p.depth → Runs p (runAll p ls) (failures ls) := by
  induction h with
  | nil => exact fun p hp _ => ⟨rfl, hp, rfl⟩
  | text _ ih => exact fun p hp hr => (runs_text hp _).single.append fun q hq hd => ih q hq (hd ▸ hr)
  | @hanging _ s ls _ ih =>
    intro p hp hr
    show Runs p (runAll p (Layout.hanging s ++ ls)) (failures (Layout.hanging s ++ ls))
    exact (runs_hanging hp s).append fun q hq hd => ih q hq (hd ▸ hr)
  | @outdented room s ls _ ih =>
    intro p hp hr
    obtain ⟨n, hn⟩ : ∃ n, p.depth = n + 1 := ⟨p.depth - 1, by omega⟩
    show Runs p (runAll p (Layout.outdented s ++ ls)) (failures (Layout.outdented s ++ ls))
    exact (runs_outdented hp hn s).append fun q hq hd => ih q hq (hd ▸ hr)
  | scope _ _ ihb ih =>
    intro p hp hr
    exact (runs_scope hp fun q hq hd => ihb q hq (by omega)).single.append fun q hq hd => ih q hq (hd ▸ hr)
  | @within room path body ls _ _ ihb ih =>
    intro p hp hr
    obtain ⟨he, hu, hd⟩ := ihb p hp hr
    have hw : Runs p (run p (.within path body)) (failure? (.within path body)) :=
      ⟨by simp only [run, failure?, he], hu, hd⟩
    exact hw.single.append fun q hq hd => ih q hq (hd ▸ hr)
  | @fail room e ls _ ih =>
    intro p hp hr
    have hf : Runs p (run p (.fail e)) (failure? (.fail e)) := ⟨rfl, hp, rfl⟩
    exact hf.single.append fun q hq hd => ih q hq (hd ▸ hr)
  | @note room e ls _ ih =>
    intro p hp hr
    have hn : Runs p (run p (.note e)) (failure? (.note e)) := ⟨rfl, hp, rfl⟩
    exact hn.single.append fun q hq hd => ih q hq (hd ▸ hr)
  | @settle room ls _ ih =>
    intro p hp hr
    have hs : Runs p (run p .settle) (failure? .settle) := ⟨hp.error, hp, rfl⟩
    exact hs.single.append fun q hq hd => ih q hq (hd ▸ hr)

end Layout

end Parcelgen

import Parcelgen.Generator.Output

/-!
Batches of packages with one task for each package. The tasks share two things: whether they were told to stop, and the first error that
one of them came back with. A task looks once whether to stop, before it generates; the task whose error is kept tells all others to stop.
What a task does next depends on its stage alone, so a run is given by a schedule, the list of the tasks that move one after another.

Tasks start in any order, as many at a time as there are workers. Every schedule comes to an end, and what it ends with is what generating
the packages one after another gives, up to which of the failing packages is reported.
-/

namespace Parcelgen

theorem mapM_eq_ok_iff {ε α β : Type} {f : α → Except ε β} {as : List α} {bs : List β} :
    as.mapM f = .ok bs ↔ as.map f = bs.map .ok := by
  induction as generalizing bs with
  | nil =>
    rw [List.mapM_nil]
    constructor
    · intro h
      cases h
      rfl
    · intro h
      obtain rfl : bs = [] := List.map_eq_nil_iff.mp h.symm
      rfl
  | cons a as ih =>
    rw [List.mapM_cons, List.map_cons]
    constructor
    · intro h
      cases ha : f a with
      | error e =>
        rw [ha] at h
        cases h
      | ok b =>
        cases has : as.mapM f with
        | error e =>
          rw [ha, has] at h
          cases h
        | ok rest =>
          rw [ha, has] at h
          cases h
          rw [ih.mp has, List.map_cons]
    · intro h
      obtain ⟨b, rest, rfl, hb, hrest⟩ := List.map_eq_cons_iff.mp h.symm
      rw [← hb, ih.mpr hrest.symm]
      rfl

namespace Batch

/-- Why a task comes back without an output. -/
inductive Stop where
  | cancelled
  | failed (e : Error)

def Stop.error : Stop → Error
  | .cancelled => .plain "context canceled"
  | .failed e => e

/-- How far a task is. -/
inductive Stage where
  | waiting
  | started
  | generating
  | storing (out : Output)
  | returned (why : Stop)
  /-- Its error is the one that was kept. -/
  | cancelling
  | finished

namespace Stage

def isWaiting : Stage → Bool
  | .waiting => true
  | _ => false

def isFinished : Stage → Bool
  | .finished => true
  | _ => false

/-- An upper bound for the moves that are left. -/
def left : Stage → Nat
  | .waiting => 5
  | .started => 4
  | .generating => 3
  | .storing _ => 1
  | .returned _ => 2
  | .cancelling => 1
  | .finished => 0

end Stage

/-- What all tasks read and write. -/
structure Shared where
  cancelled : Bool := false
  kept : Option Stop := none

/-- The task of one package, with its place in the list of outputs. -/
structure Task where
  package : Package
  stage : Stage := .waiting
  slot : Option Output := none

/-- One move of a task, and what is shared afterwards. -/
def Task.next (g : Generator) (shared : Shared) (task : Task) : Option (Shared × Task) :=
  match task.stage with
  | .waiting => some (shared, { task with stage := .started })
  | .started => some (shared, { task with stage := if shared.cancelled then .returned .cancelled else .generating })
  | .generating =>
    match g.generated task.package with
    | .ok out => some (shared, { task with stage := .storing out })
    | .error e => some (shared, { task with stage := .returned (.failed e) })
  | .storing out => some (shared, { task with stage := .finished, slot := some out })
  | .returned why =>
    match shared.kept with
    | none => some ({ shared with kept := some why }, { task with stage := .cancelling })
    | some _ => some (shared, { task with stage := .finished })
  | .cancelling => some ({ shared with cancelled := true }, { task with stage := .finished })
  | .finished => none

end Batch

structure Batch where
  shared : Batch.Shared
  tasks : List Batch.Task

namespace Batch

def ofPackages (cancelled : Bool) (ps : List Package) : Batch := ⟨{ cancelled }, ps.map ({ package := · })⟩

/-- The tasks that take up a worker. -/
def running (b : Batch) : Nat := b.tasks.countP fun t => !t.stage.isWaiting && !t.stage.isFinished

/-- One move of the task at a place. A task starts only while a worker is free. -/
def move (g : Generator) (workers : Nat) (b : Batch) (i : Nat) : Option Batch :=
  match b.tasks[i]? with
  | none => none
  | some task =>
    if task.stage.isWaiting && workers ≤ b.running then none
    else (task.next g b.shared).map fun r => ⟨r.1, b.tasks.set i r.2⟩

def run (g : Generator) (workers : Nat) (b : Batch) : List Nat → Option Batch
  | [] => some b
  | i :: schedule => (b.move g workers i).bind fun b' => b'.run g workers schedule

def isDone (b : Batch) : Bool := b.tasks.all (·.stage.isFinished)

/-- The kept error, or what stands in the places for the outputs. -/
def result (b : Batch) : Except Stop (List (Option Output)) :=
  match b.shared.kept with
  | some why => .error why
  | none => .ok (b.tasks.map (·.slot))

variable {g : Generator} {workers : Nat} {b b' : Batch}

/-! Moves. -/

theorem move_at {pre post : List Task} {task : Task} (h : b.tasks = pre ++ task :: post) :
    b.move g workers pre.length =
      if task.stage.isWaiting && workers ≤ b.running then none
      else (task.next g b.shared).map fun r => ⟨r.1, pre ++ r.2 :: post⟩ := by
  unfold move
  rw [h]
  simp

/-- A move changes one task, and what is shared as that task says. -/
theorem exists_of_move {i : Nat} (h : b.move g workers i = some b') :
    ∃ pre task post task', b.tasks = pre ++ task :: post ∧ task.next g b.shared = some (b'.shared, task') ∧
      b'.tasks = pre ++ task' :: post := by
  cases htask : b.tasks[i]? with
  | none => simp [move, htask] at h
  | some task =>
    obtain ⟨hi, rfl⟩ := List.getElem?_eq_some_iff.mp htask
    have hsplit : b.tasks = b.tasks.take i ++ b.tasks[i] :: b.tasks.drop (i + 1) := by simp
    have hlength : (b.tasks.take i).length = i := by simp; omega
    have hmove : b.move g workers (b.tasks.take i).length = _ := move_at hsplit
    rw [hlength, h] at hmove
    split at hmove
    · cases hmove
    · obtain ⟨r, hr, hb⟩ := Option.map_eq_some_iff.mp hmove.symm
      subst hb
      exact ⟨_, _, _, r.2, hsplit, hr, rfl⟩

/-- What every move keeps is kept by runs. -/
theorem run_keeps (P : Batch → Prop) (hmove : ∀ {b c i}, move g workers b i = some c → P b → P c) {schedule : List Nat}
    (h : b.run g workers schedule = some b') (hb : P b) : P b' := by
  induction schedule generalizing b with
  | nil =>
    cases h
    exact hb
  | cons i schedule ih =>
    obtain ⟨c, hc, hrun⟩ := Option.bind_eq_some_iff.mp h
    exact ih hrun (hmove hc hb)

/-! Runs end, and can always be brought to their end. -/

/-- An upper bound for the moves that are left to tasks. -/
def leftAll : List Task → Nat
  | [] => 0
  | t :: ts => t.stage.left + leftAll ts

theorem leftAll_append (ts us : List Task) : leftAll (ts ++ us) = leftAll ts + leftAll us := by
  induction ts with
  | nil => simp [leftAll]
  | cons t ts ih => simp [leftAll, ih, Nat.add_assoc]

theorem leftAll_ofPackages (cancelled : Bool) (ps : List Package) : leftAll (ofPackages cancelled ps).tasks = 5 * ps.length := by
  unfold ofPackages
  induction ps with
  | nil => rfl
  | cons p ps ih =>
    simp only [List.map_cons, leftAll, Stage.left, List.length_cons] at ih ⊢
    omega

theorem Task.left_of_next {s s' : Shared} {t t' : Task} (h : t.next g s = some (s', t')) : t'.stage.left < t.stage.left := by
  obtain ⟨package, stage, slot⟩ := t
  cases stage with
  | waiting | storing out | cancelling =>
    cases h
    simp [Stage.left]
  | started =>
    cases h
    dsimp only
    split <;> simp [Stage.left]
  | generating =>
    simp only [Task.next] at h
    split at h <;> cases h <;> simp [Stage.left]
  | returned why =>
    simp only [Task.next] at h
    split at h <;> cases h <;> simp [Stage.left]
  | finished => cases h

theorem left_of_move {i : Nat} (h : b.move g workers i = some b') : leftAll b'.tasks < leftAll b.tasks := by
  obtain ⟨pre, task, post, task', hb, hnext, hb'⟩ := exists_of_move h
  have hless := Task.left_of_next hnext
  rw [hb, hb', leftAll_append, leftAll_append, leftAll, leftAll]
  omega

theorem length_add_left_of_run {schedule : List Nat} (h : b.run g workers schedule = some b') :
    schedule.length + leftAll b'.tasks ≤ leftAll b.tasks := by
  induction schedule generalizing b with
  | nil =>
    cases h
    simp
  | cons i schedule ih =>
    obtain ⟨c, hc, hrun⟩ := Option.bind_eq_some_iff.mp h
    have hmove := left_of_move hc
    have hrest := ih hrun
    rw [List.length_cons]
    omega

theorem Task.next_of_unfinished (s : Shared) {t : Task} (h : t.stage.isFinished = false) : ∃ r, t.next g s = some r := by
  obtain ⟨package, stage, slot⟩ := t
  cases stage with
  | waiting | started | storing out | cancelling => exact ⟨_, rfl⟩
  | generating =>
    simp only [Task.next]
    split <;> exact ⟨_, rfl⟩
  | returned why =>
    simp only [Task.next]
    split <;> exact ⟨_, rfl⟩
  | finished => cases h

/-- A task that is not finished can move, unless it waits for a worker. -/
theorem move_of_unfinished {t : Task} (ht : t ∈ b.tasks) (hopen : t.stage.isFinished = false)
    (hfree : t.stage.isWaiting = true → b.running < workers) : ∃ i c, b.move g workers i = some c := by
  obtain ⟨pre, post, hb⟩ := List.append_of_mem ht
  obtain ⟨r, hr⟩ := Task.next_of_unfinished (g := g) b.shared hopen
  refine ⟨pre.length, ⟨r.1, pre ++ r.2 :: post⟩, ?_⟩
  rw [move_at hb, if_neg, hr, Option.map_some]
  simp only [Bool.and_eq_true, decide_eq_true_eq, not_and, Nat.not_le]
  exact hfree

/-- As long as a task is not finished, some task can move: if no task runs, all workers are free. -/
theorem move_of_not_done (hworkers : 0 < workers) (h : b.isDone = false) : ∃ i c, b.move g workers i = some c := by
  by_cases hrunning : ∃ t ∈ b.tasks, t.stage.isWaiting = false ∧ t.stage.isFinished = false
  · obtain ⟨t, ht, hstarted, hopen⟩ := hrunning
    refine move_of_unfinished ht hopen fun hwaiting => ?_
    rw [hstarted] at hwaiting
    cases hwaiting
  · obtain ⟨t, ht, hopen⟩ := List.all_eq_false.mp h
    refine move_of_unfinished ht (by simpa using hopen) fun _ => ?_
    have hnone : b.running = 0 := by
      refine List.countP_eq_zero.mpr fun u hu hrun => hrunning ⟨u, hu, ?_⟩
      simpa using hrun
    rw [hnone]
    exact hworkers

theorem exists_run_done (hworkers : 0 < workers) (b : Batch) : ∃ schedule c, b.run g workers schedule = some c ∧ c.isDone = true := by
  -- by the moves that are left: a batch that is not done can move, and then has fewer
  induction hn : leftAll b.tasks using Nat.strongRecOn generalizing b with
  | ind n ih =>
    cases hdone : b.isDone with
    | true => exact ⟨[], b, rfl, hdone⟩
    | false =>
      obtain ⟨i, c, hc⟩ := move_of_not_done (g := g) hworkers hdone
      obtain ⟨schedule, d, hrun, hd⟩ := ih _ (hn ▸ left_of_move hc) c rfl
      exact ⟨i :: schedule, d, by rw [run, hc, Option.bind_some, hrun], hd⟩

/-! What the tasks know. -/

/-- The first error is kept for good. -/
theorem kept_of_next {s s' : Shared} {t t' : Task} {why : Stop} (h : t.next g s = some (s', t')) (hs : s.kept = some why) :
    s'.kept = some why := by
  obtain ⟨package, stage, slot⟩ := t
  cases stage with
  | waiting | started | storing out | cancelling =>
    cases h
    exact hs
  | generating =>
    simp only [Task.next] at h
    split at h <;> cases h <;> exact hs
  | returned first =>
    simp only [Task.next, hs] at h
    cases h
    exact hs
  | finished => cases h

theorem kept_of_run {schedule : List Nat} {why : Stop} (h : b.run g workers schedule = some b') (hb : b.shared.kept = some why) :
    b'.shared.kept = some why := by
  refine run_keeps (·.shared.kept = some why) (fun hmove hkept => ?_) h hb
  obtain ⟨pre, task, post, task', -, hnext, -⟩ := exists_of_move hmove
  exact kept_of_next hnext hkept

/-- What a stage says about the package of a task, given the error that was kept so far. A task gives up only after another one failed. -/
def Task.Sound (g : Generator) (kept : Option Stop) (t : Task) : Prop :=
  match t.stage with
  | .waiting | .started | .generating => True
  | .storing out => g.generated t.package = .ok out
  | .returned .cancelled | .cancelling => kept.isSome = true
  | .returned (.failed e) => g.generated t.package = .error e
  | .finished => kept.isSome = true ∨ ∃ out, t.slot = some out ∧ g.generated t.package = .ok out

theorem Task.Sound.mono {kept kept' : Option Stop} {t : Task} (h : t.Sound g kept) (hkept : kept.isSome = true → kept'.isSome = true) :
    t.Sound g kept' := by
  obtain ⟨package, stage, slot⟩ := t
  cases stage with
  | waiting | started | generating => trivial
  | storing out => exact h
  | returned why =>
    cases why with
    | cancelled => exact hkept h
    | failed e => exact h
  | cancelling => exact hkept h
  | finished => exact h.imp_left hkept

/-- Tasks are told to stop only by the error that was kept, and that is the error of a package. -/
structure Shared.Sound (g : Generator) (ps : List Package) (s : Shared) : Prop where
  cancelled : s.cancelled = true → s.kept.isSome = true
  kept : ∀ why, s.kept = some why → ∃ p ∈ ps, ∃ e, g.generated p = .error e ∧ why = .failed e

theorem Task.next_sound {ps : List Package} {s s' : Shared} {t t' : Task} (h : t.next g s = some (s', t')) (hp : t.package ∈ ps)
    (hs : s.Sound g ps) (ht : t.Sound g s.kept) : s'.Sound g ps ∧ t'.Sound g s'.kept ∧ t'.package = t.package := by
  obtain ⟨package, stage, slot⟩ := t
  cases stage with
  | waiting =>
    cases h
    exact ⟨hs, trivial, rfl⟩
  | started =>
    cases h
    cases hc : s.cancelled with
    | true => exact ⟨hs, hs.cancelled hc, rfl⟩
    | false => exact ⟨hs, trivial, rfl⟩
  | generating =>
    simp only [Task.next] at h
    split at h
    · rename_i out hout
      cases h
      exact ⟨hs, hout, rfl⟩
    · rename_i e he
      cases h
      exact ⟨hs, he, rfl⟩
  | storing out =>
    cases h
    exact ⟨hs, .inr ⟨out, rfl, ht⟩, rfl⟩
  | returned why =>
    cases hkept : s.kept with
    | some first =>
      simp only [Task.next, hkept] at h
      cases h
      exact ⟨hs, .inl (by simp [hkept]), rfl⟩
    | none =>
      simp only [Task.next, hkept] at h
      cases h
      refine ⟨⟨fun _ => rfl, fun first hfirst => ?_⟩, rfl, rfl⟩
      cases hfirst
      cases why with
      | cancelled =>
        rw [hkept] at ht
        cases ht
      | failed e => exact ⟨package, hp, e, ht, rfl⟩
  | cancelling =>
    cases h
    exact ⟨⟨fun _ => ht, hs.kept⟩, .inl ht, rfl⟩
  | finished => cases h

structure Sound (g : Generator) (ps : List Package) (b : Batch) : Prop where
  packages : b.tasks.map (·.package) = ps
  shared : b.shared.Sound g ps
  tasks : ∀ t ∈ b.tasks, t.Sound g b.shared.kept

theorem sound_ofPackages (g : Generator) (ps : List Package) : (ofPackages false ps).Sound g ps where
  packages := by simp [ofPackages, Function.comp_def]
  shared := ⟨nofun, nofun⟩
  tasks t ht := by
    obtain ⟨p, -, rfl⟩ := List.mem_map.mp ht
    trivial

theorem Sound.move {ps : List Package} {i : Nat} (hmove : b.move g workers i = some b') (h : b.Sound g ps) : b'.Sound g ps := by
  obtain ⟨pre, task, post, task', hb, hnext, hb'⟩ := exists_of_move hmove
  have hin : task ∈ b.tasks := by simp [hb]
  have hp : task.package ∈ ps := h.packages ▸ List.mem_map_of_mem hin
  obtain ⟨hshared, htask, hpackage⟩ := Task.next_sound hnext hp h.shared (h.tasks task hin)
  refine ⟨?_, hshared, fun t ht => ?_⟩
  · rw [← h.packages, hb, hb']
    simp [hpackage]
  · have hcases : t = task' ∨ t ∈ b.tasks := by
      rw [hb'] at ht
      rw [hb]
      grind
    rcases hcases with rfl | hold
    · exact htask
    · refine (h.tasks t hold).mono fun hkept => ?_
      obtain ⟨why, hwhy⟩ := Option.isSome_iff_exists.mp hkept
      rw [kept_of_next hnext hwhy]
      rfl

theorem result_of_kept {why : Stop} (h : b.shared.kept = some why) : b.result = .error why := by
  rw [result, h]

/-- Finished tasks have the outputs of their packages in their places, if no error was kept. -/
theorem exists_outputs {ts : List Task} (hsound : ∀ t ∈ ts, t.Sound g none) (hdone : ∀ t ∈ ts, t.stage.isFinished = true) :
    ∃ outs : List Output, (ts.map (·.package)).map g.generated = outs.map .ok ∧ ts.map (·.slot) = outs.map some := by
  induction ts with
  | nil => exact ⟨[], rfl, rfl⟩
  | cons t ts ih =>
    obtain ⟨ht, hts⟩ := List.forall_mem_cons.mp hsound
    obtain ⟨hfinished, hrest⟩ := List.forall_mem_cons.mp hdone
    obtain ⟨outs, hgenerated, hslots⟩ := ih hts hrest
    obtain ⟨package, stage, slot⟩ := t
    cases stage with
    | finished =>
      obtain hkept | ⟨out, hslot, hout⟩ := ht
      · cases hkept
      · refine ⟨out :: outs, ?_, ?_⟩
        · simp only [List.map_cons, hout, hgenerated]
        · rw [List.map_cons, List.map_cons, hslot, hslots]
    | waiting | started | generating | storing out | returned why | cancelling => cases hfinished

/-- A batch that is done has the outputs of all packages, or the error of one. -/
theorem Sound.result {ps : List Package} (h : b.Sound g ps) (hdone : b.isDone = true) :
    (∃ outs : List Output, ps.map g.generated = outs.map .ok ∧ b.result = .ok (outs.map some)) ∨
      ∃ p ∈ ps, ∃ e, g.generated p = .error e ∧ b.result = .error (.failed e) := by
  cases hkept : b.shared.kept with
  | some why =>
    obtain ⟨p, hp, e, he, rfl⟩ := h.shared.kept why hkept
    exact .inr ⟨p, hp, e, he, result_of_kept hkept⟩
  | none =>
    obtain ⟨outs, hgenerated, hslots⟩ := exists_outputs (fun t ht => hkept ▸ h.tasks t ht) (List.all_eq_true.mp hdone)
    rw [h.packages] at hgenerated
    exact .inl ⟨outs, hgenerated, by rw [Batch.result, hkept, hslots]⟩

/-! The packages one after another. -/

/-- The only task that has started can always move. -/
theorem move_alone (hworkers : 0 < workers) {s s' : Shared} {pre post : List Task} {t t' : Task}
    (hpre : ∀ u ∈ pre, u.stage.isFinished = true) (hpost : ∀ u ∈ post, u.stage.isWaiting = true) (hnext : t.next g s = some (s', t')) :
    (⟨s, pre ++ t :: post⟩ : Batch).move g workers pre.length = some ⟨s', pre ++ t' :: post⟩ := by
  rw [move_at rfl, if_neg, hnext, Option.map_some]
  intro hfull
  obtain ⟨hwaiting, hbusy⟩ := Bool.and_eq_true_iff.mp hfull
  have hnone : (⟨s, pre ++ t :: post⟩ : Batch).running = 0 := by
    refine List.countP_eq_zero.mpr fun u hu => ?_
    grind
  simp [hnone] at hbusy
  omega

theorem exists_run_of_next (hworkers : 0 < workers) {s s' : Shared} (pre : List Task) {post : List Task} {t t' : Task} {Q : Batch → Prop}
    (hpre : ∀ u ∈ pre, u.stage.isFinished = true) (hpost : ∀ u ∈ post, u.stage.isWaiting = true) (hnext : t.next g s = some (s', t'))
    (h : ∃ schedule c, (⟨s', pre ++ t' :: post⟩ : Batch).run g workers schedule = some c ∧ Q c) :
    ∃ schedule c, (⟨s, pre ++ t :: post⟩ : Batch).run g workers schedule = some c ∧ Q c := by
  obtain ⟨schedule, c, hrun, hc⟩ := h
  exact ⟨pre.length :: schedule, c, by rw [run, move_alone hworkers hpre hpost hnext, Option.bind_some, hrun], hc⟩

/-- Whatever is still to be done, a batch ends with the error that was kept. -/
theorem exists_run_of_kept (hworkers : 0 < workers) (why : Stop) (h : b.shared.kept = some why) :
    ∃ schedule c, b.run g workers schedule = some c ∧ c.isDone = true ∧ c.result.mapError Stop.error = .error why.error := by
  obtain ⟨schedule, c, hrun, hdone⟩ := exists_run_done (g := g) hworkers b
  refine ⟨schedule, c, hrun, hdone, ?_⟩
  rw [result_of_kept (kept_of_run hrun h)]
  rfl

theorem isWaiting_of_mem_map (ps : List Package) : ∀ u ∈ ps.map ({ package := · } : Package → Task), u.stage.isWaiting = true := by
  intro u hu
  obtain ⟨p, -, rfl⟩ := List.mem_map.mp hu
  rfl

theorem exists_run_in_order (hworkers : 0 < workers) (ps : List Package) (pre : List Task)
    (hpre : ∀ u ∈ pre, u.stage.isFinished = true) :
    ∃ schedule c, (⟨{}, pre ++ ps.map ({ package := · })⟩ : Batch).run g workers schedule = some c ∧ c.isDone = true ∧
      c.result.mapError Stop.error = (ps.mapM g.generated).map fun outs => pre.map (·.slot) ++ outs.map some := by
  induction ps generalizing pre with
  | nil =>
    refine ⟨[], _, rfl, by simpa [isDone] using hpre, ?_⟩
    show Except.ok ((pre ++ []).map Task.slot) = Except.ok (pre.map Task.slot ++ [])
    rw [List.append_nil, List.append_nil]
  | cons p ps ih =>
    have hpost := isWaiting_of_mem_map ps
    have hstart : Task.next g {} { package := p } = some ({}, { package := p, stage := .started }) := rfl
    have hlook : Task.next g {} { package := p, stage := .started } = some ({}, { package := p, stage := .generating }) := rfl
    rw [List.map_cons, List.mapM_cons]
    refine exists_run_of_next hworkers pre hpre hpost hstart (exists_run_of_next hworkers pre hpre hpost hlook ?_)
    cases hp : g.generated p with
    | ok out =>
      have hgenerate : Task.next g {} { package := p, stage := .generating } = some ({}, { package := p, stage := .storing out }) := by
        simp only [Task.next, hp]
      refine exists_run_of_next hworkers pre hpre hpost hgenerate (exists_run_of_next hworkers pre hpre hpost rfl ?_)
      have hpre' : ∀ u ∈ pre ++ [{ package := p, stage := .finished, slot := some out }], u.stage.isFinished = true := by
        intro u hu
        rcases List.mem_append.mp hu with hu | hu
        · exact hpre u hu
        · rw [List.mem_singleton.mp hu]
          rfl
      obtain ⟨schedule, c, hrun, hdone, hresult⟩ := ih _ hpre'
      refine ⟨schedule, c, by simpa using hrun, hdone, hresult.trans ?_⟩
      cases ps.mapM g.generated <;> simp [Except.map, bind, Except.bind, pure, Except.pure]
    | error e =>
      have hgenerate : Task.next g {} { package := p, stage := .generating } =
          some ({}, { package := p, stage := .returned (.failed e) }) := by
        simp only [Task.next, hp]
      refine exists_run_of_next hworkers pre hpre hpost hgenerate (exists_run_of_next hworkers pre hpre hpost rfl ?_)
      exact exists_run_of_kept hworkers (.failed e) rfl

/-- What is answered for a batch is what one of its schedules ends with. -/
theorem exists_run_generateAll (g : Generator) (hworkers : 0 < workers) (cancelled : Bool) (ps : List Package) :
    ∃ schedule c, (ofPackages cancelled ps).run g workers schedule = some c ∧ c.isDone = true ∧
      c.result.mapError Stop.error = (g.generateAll cancelled ps).map (List.map some) := by
  cases cancelled with
  | false => simpa [Generator.generateAll, ofPackages] using exists_run_in_order (g := g) hworkers ps [] nofun
  | true =>
    cases ps with
    | nil => exact ⟨[], _, rfl, rfl, rfl⟩
    | cons p ps =>
      -- the first task finds the batch cancelled, and that error is kept
      have hpost := isWaiting_of_mem_map ps
      have hlook : Task.next g { cancelled := true } { package := p, stage := .started } =
          some ({ cancelled := true }, { package := p, stage := .returned .cancelled }) := rfl
      refine exists_run_of_next hworkers [] nofun hpost rfl (exists_run_of_next hworkers [] nofun hpost hlook ?_)
      refine exists_run_of_next hworkers [] nofun hpost rfl ?_
      exact exists_run_of_kept hworkers .cancelled rfl

theorem generateAll_of_outputs {ps : List Package} {outs : List Output} (h : ps.map g.generated = outs.map .ok) :
    g.generateAll false ps = .ok outs := by
  show ps.mapM g.generated = .ok outs
  exact mapM_eq_ok_iff.mpr h

/-- Generating packages side by side is generating them one after another. Whichever tasks move when, a run has at most five moves for
each package and can go on until all tasks are finished. Then the result is the list of outputs in the order of the packages, if every
package can be generated, and otherwise the error of a package that cannot. The error of a task that was told to stop is never the
result. What `generateAll` answers, also for a batch that was cancelled beforehand, is among the results. -/
theorem schedules_agree (g : Generator) (workers : Nat) (hworkers : 0 < workers) (ps : List Package) :
    (∀ schedule b, (ofPackages false ps).run g workers schedule = some b →
      schedule.length ≤ 5 * ps.length ∧
      (b.isDone = false → ∃ i c, b.move g workers i = some c) ∧
      (b.isDone = true →
        ((∀ p ∈ ps, ∃ out, g.generated p = .ok out) →
          ∃ outs : List Output, ps.map g.generated = outs.map .ok ∧ b.result = .ok (outs.map some) ∧ g.generateAll false ps = .ok outs) ∧
        ((∃ p ∈ ps, ∃ e, g.generated p = .error e) → ∃ p ∈ ps, ∃ e, g.generated p = .error e ∧ b.result = .error (.failed e)))) ∧
    ∀ cancelled, ∃ schedule b, (ofPackages cancelled ps).run g workers schedule = some b ∧ b.isDone = true ∧
      b.result.mapError Stop.error = (g.generateAll cancelled ps).map (List.map some) := by
  refine ⟨fun schedule b hrun => ⟨?_, move_of_not_done hworkers, fun hdone => ?_⟩, ?_⟩
  · have hmoves := length_add_left_of_run hrun
    rw [leftAll_ofPackages] at hmoves
    omega
  · have hsound : b.Sound g ps := run_keeps (Sound g ps) Sound.move hrun (sound_ofPackages g ps)
    rcases hsound.result hdone with ⟨outs, hall, hresult⟩ | ⟨p, hp, e, he, hresult⟩
    · refine ⟨fun _ => ⟨outs, hall, hresult, generateAll_of_outputs hall⟩, ?_⟩
      rintro ⟨p, hp, e, he⟩
      have hmem := List.mem_map_of_mem (f := g.generated) hp
      rw [hall, he] at hmem
      obtain ⟨out, -, hout⟩ := List.mem_map.mp hmem
      cases hout
    · refine ⟨fun hall => ?_, fun _ => ⟨p, hp, e, he, hresult⟩⟩
      obtain ⟨out, hout⟩ := hall p hp
      rw [he] at hout
      cases hout
  · intro cancelled
    exact exists_run_generateAll g hworkers cancelled ps

/-- Two workers, three packages. The second fails while the first is being generated, and the third, which would fail too, finds the batch
cancelled. -/
theorem schedules_agree_cancelled :
    let g : Generator := { ({} : Options) with dialect := {} }
    let ps : List Package := [{ name := "clock" }, { name := "" }, { name := "bag", types := [.absent] }]
    let schedule := [1, 0, 1, 1, 1, 0, 1, 0, 2, 2, 2, 0]
    (∃ p ∈ ps, ∃ e, g.generated p = .error e) ∧
      ∃ b, (ofPackages false ps).run g 2 schedule = some b ∧ b.isDone = true ∧
        ∃ p ∈ ps, ∃ e, g.generated p = .error e ∧ b.result = .error (.failed e) := by
  intro g ps schedule
  have hends : ((ofPackages false ps).run g 2 schedule).any isDone = true := by decide +kernel
  have hfails : ∃ e, g.generated { name := "" } = .error e := ⟨_, rfl⟩
  obtain ⟨b, hrun, hdone⟩ := (Option.any_eq_true ..).mp hends
  have hfailing : ∃ p ∈ ps, ∃ e, g.generated p = .error e := ⟨{ name := "" }, by simp [ps], hfails⟩
  obtain ⟨-, -, hresult⟩ := (schedules_agree g 2 (by decide) ps).1 schedule b hrun
  exact ⟨hfailing, b, hrun, hdone, (hresult hdone).2 hfailing⟩

end Batch

end Parcelgen

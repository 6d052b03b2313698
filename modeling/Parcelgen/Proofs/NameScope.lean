import Mathlib.Data.List.Nodup
import Mathlib.Data.List.Perm.Subperm
import Parcelgen.NameScope

/-!
Names taken from a scope are new. The search for a number stops after as many numbers as there are used names, which is enough: the name
itself is used, so not all of these numbered names can be. So a search without that bound would stop too, and at the same name
(`fresh_firstFree`), whatever was reserved and claimed before (`claims_first_free`).
-/

namespace Parcelgen

namespace NameScope

def candidate (name : String) (i : Nat) : String := name ++ "_" ++ toString i

theorem candidate_injective (name : String) {i j : Nat} (h : candidate name i = candidate name j) : i = j := by
  have hlist := congrArg String.toList h
  simp only [candidate, String.toList_append, List.append_assoc, List.append_cancel_left_eq] at hlist
  have hdigits := congrArg (fun ds => Nat.ofDigitChars 10 ds 0) hlist
  simpa using hdigits

theorem candidate_ne (name : String) (i : Nat) : candidate name i ≠ name := by
  intro h
  have hlength := congrArg String.length h
  simp only [candidate, String.length_append] at hlength
  have hdash : "_".length = 1 := rfl
  omega

theorem numbered_succ (used : List String) (name : String) (fuel i : Nat) :
    numbered used name (fuel + 1) i = if candidate name i ∈ used then numbered used name fuel (i + 1) else candidate name i := by
  by_cases hu : candidate name i ∈ used
  · rw [if_pos hu, numbered]
    exact if_pos (List.contains_iff_mem.mpr hu)
  · rw [if_neg hu, numbered]
    exact if_neg fun hc => hu (List.contains_iff_mem.mp hc)

/-- The search passes over used names only, and ends at a free one unless it runs out of numbers. -/
theorem numbered_eq (used : List String) (name : String) (fuel i : Nat) :
    ∃ j, i ≤ j ∧ numbered used name fuel i = candidate name j ∧ (∀ k, i ≤ k → k < j → candidate name k ∈ used) ∧
      (candidate name j ∈ used → j = i + fuel) := by
  induction fuel generalizing i with
  | zero => exact ⟨i, Nat.le_refl i, rfl, fun k hk hj => by omega, fun _ => rfl⟩
  | succ fuel ih =>
    by_cases hu : candidate name i ∈ used
    · obtain ⟨j, hij, heq, hpassed, hend⟩ := ih (i + 1)
      refine ⟨j, by omega, by rw [numbered_succ, if_pos hu, heq], ?_, fun h => by have := hend h; omega⟩
      intro k hk hj
      rcases Nat.lt_or_eq_of_le hk with hlt | rfl
      · exact hpassed k hlt hj
      · exact hu
    · exact ⟨i, Nat.le_refl i, by rw [numbered_succ, if_neg hu], fun k hk hj => by omega, fun h => absurd h hu⟩

/-- Not all of a used name and its first numbered names are used. -/
theorem exists_candidate_not_mem {used : List String} {name : String} (h : name ∈ used) :
    ∃ k, 1 ≤ k ∧ k < 1 + used.length ∧ candidate name k ∉ used := by
  apply Classical.byContradiction
  intro hall
  have hmem : ∀ k, 1 ≤ k → k < 1 + used.length → candidate name k ∈ used := fun k h1 hk =>
    Classical.byContradiction fun hn => hall ⟨k, h1, hk, hn⟩
  have hnodup : (name :: (List.range' 1 used.length).map (candidate name)).Nodup := by
    refine List.nodup_cons.mpr ⟨?_, List.Nodup.map (fun _ _ => candidate_injective name) List.nodup_range'⟩
    rintro hn
    obtain ⟨k, -, hk⟩ := List.mem_map.mp hn
    exact candidate_ne name k hk
  have hsub : name :: (List.range' 1 used.length).map (candidate name) ⊆ used := by
    refine List.cons_subset.mpr ⟨h, ?_⟩
    intro x hx
    obtain ⟨k, hk, rfl⟩ := List.mem_map.mp hx
    obtain ⟨h1, hk⟩ := List.mem_range'_1.mp hk
    exact hmem k h1 hk
  have hlength := (List.subperm_of_subset hnodup hsub).length_le
  simp only [List.length_cons, List.length_map, List.length_range'] at hlength
  omega

/-- A used name gets the least number that makes it free. -/
theorem fresh_of_mem {s : NameScope} {name : String} (h : name ∈ s.used) :
    ∃ j, 1 ≤ j ∧ s.fresh name = candidate name j ∧ candidate name j ∉ s.used ∧ ∀ k, 1 ≤ k → k < j → candidate name k ∈ s.used := by
  obtain ⟨j, h1, heq, hpassed, hend⟩ := numbered_eq s.used name s.used.length 1
  obtain ⟨k, hk1, hk, hfree⟩ := exists_candidate_not_mem h
  refine ⟨j, h1, ?_, ?_, hpassed⟩
  · rw [fresh, if_pos (List.contains_iff_mem.mpr h), heq]
  · intro hj
    exact hfree (hpassed k hk1 (by have := hend hj; omega))

theorem fresh_of_not_mem {s : NameScope} {name : String} (h : name ∉ s.used) : s.fresh name = name := by
  rw [fresh, if_neg (by simpa using h)]

theorem fresh_not_mem (s : NameScope) (name : String) : s.fresh name ∉ s.used := by
  by_cases hu : name ∈ s.used
  · obtain ⟨j, -, heq, hfree, -⟩ := fresh_of_mem hu
    rwa [heq]
  · rwa [fresh_of_not_mem hu]

/-- The search that tries one number after the other, from `i` on and without a bound, comes to an end with the name `found`. -/
inductive Stops (taken : List String) (name : String) : Nat → String → Prop
  | found {i} : candidate name i ∉ taken → Stops taken name i (candidate name i)
  | next {i found} : candidate name i ∈ taken → Stops taken name (i + 1) found → Stops taken name i found

theorem stops_of_passed {taken : List String} {name : String} {i j : Nat} (hij : i ≤ j) (hfree : candidate name j ∉ taken)
    (hpassed : ∀ k, i ≤ k → k < j → candidate name k ∈ taken) : Stops taken name i (candidate name j) := by
  -- By induction on the numbers that are still to be passed over.
  induction hsteps : j - i generalizing i with
  | zero =>
    obtain rfl : i = j := by omega
    exact .found hfree
  | succ steps ih =>
    refine .next (hpassed i (Nat.le_refl i) (by omega)) (ih (by omega) ?_ (by omega))
    intro k hk hkj
    exact hpassed k (by omega) hkj

/-- What is due to a claim for `asked` where the names `taken` are in use. -/
structure FirstFree (taken : List String) (asked given : String) : Prop where
  new : given ∉ taken
  own : asked ∉ taken → given = asked
  numbered : asked ∈ taken → Stops taken asked 1 given ∧
    ∃ i, 1 ≤ i ∧ given = candidate asked i ∧ ∀ j, 1 ≤ j → j < i → candidate asked j ∈ taken

theorem fresh_firstFree {s : NameScope} {taken : List String} (h : ∀ n, n ∈ s.used ↔ n ∈ taken) (name : String) :
    FirstFree taken name (s.fresh name) := by
  refine ⟨?_, ?_, ?_⟩
  · rw [← h]
    exact s.fresh_not_mem name
  · rw [← h]
    exact fresh_of_not_mem
  · intro hin
    obtain ⟨j, h1, heq, hfree, hpassed⟩ := fresh_of_mem ((h name).mpr hin)
    simp only [h] at hfree hpassed
    rw [heq]
    exact ⟨stops_of_passed h1 hfree hpassed, j, h1, rfl, hpassed⟩

/-- The calls that a scope takes. -/
inductive Call where
  | reserve (names : List String)
  | claim (name : String)
deriving Repr, DecidableEq

/-- A call that has been made, with what it gave. -/
inductive Entry where
  | reserved (names : List String)
  | claimed (asked given : String)
deriving Repr, DecidableEq

namespace Entry

def call : Entry → Call
  | reserved names => .reserve names
  | claimed asked _ => .claim asked

/-- The names that cannot be given any more. -/
def names : Entry → List String
  | reserved names => names
  | claimed _ given => [given]

end Entry

def perform (s : NameScope) : Call → Entry × NameScope
  | .reserve names => (.reserved names, s.reserve names)
  | .claim name => (.claimed name (s.take name).1, (s.take name).2)

/-- The calls made one after the other, each on the scope that the one before it left. -/
def history (s : NameScope) : List Call → List Entry
  | [] => []
  | c :: cs => (s.perform c).1 :: (s.perform c).2.history cs

/-- A scope remembers what has been reserved and given, and nothing else. -/
theorem mem_used_perform (s : NameScope) (c : Call) (n : String) :
    n ∈ (s.perform c).2.used ↔ n ∈ s.used ++ (s.perform c).1.names := by
  cases c with
  | reserve names => simp [perform, reserve, Entry.names, or_comm]
  | claim name => simp [perform, take, Entry.names, or_comm]

theorem history_call (s : NameScope) (calls : List Call) : (s.history calls).map Entry.call = calls := by
  induction calls generalizing s with
  | nil => rfl
  | cons c cs ih =>
    rw [history, List.map_cons, ih]
    cases c <;> rfl

/-- A claim gets what is due where the names used at the start and those of all entries before it are in use. -/
theorem history_firstFree {s : NameScope} {taken : List String} (h : ∀ n, n ∈ s.used ↔ n ∈ taken) {calls : List Call}
    {before after : List Entry} {asked given : String} (hsplit : s.history calls = before ++ .claimed asked given :: after) :
    FirstFree (taken ++ before.flatMap Entry.names) asked given := by
  induction calls generalizing s taken before with
  | nil => cases before <;> cases hsplit
  | cons c cs ih =>
    cases before with
    | nil =>
      obtain ⟨hentry, -⟩ := List.cons.inj hsplit
      cases c with
      | reserve names => cases hentry
      | claim name =>
        cases hentry
        exact fresh_firstFree (fun n => by simp [h]) _
    | cons e before =>
      obtain ⟨rfl, hrest⟩ := List.cons.inj hsplit
      have hused : ∀ n, n ∈ (s.perform c).2.used ↔ n ∈ taken ++ (s.perform c).1.names := by
        intro n
        rw [mem_used_perform, List.mem_append, List.mem_append, h]
      have hdue := ih hused hrest
      rwa [List.append_assoc, ← List.flatMap_cons] at hdue

/-- However reservations and claims follow one another, every claim gets a name that is new among those reserved and given before: the name it
asks for or, when that is in use, the one with the least number from 1 on that is free, which the unbounded search comes to. -/
theorem claims_first_free (s : NameScope) (calls : List Call) :
    (s.history calls).map Entry.call = calls ∧
      ∀ before asked given after, s.history calls = before ++ .claimed asked given :: after →
        FirstFree (s.used ++ before.flatMap Entry.names) asked given :=
  ⟨s.history_call calls, fun _ _ _ _ hsplit => history_firstFree (fun _ => Iff.rfl) hsplit⟩

/-- Numbered names that were reserved or claimed as plain names are passed over, and can be asked for themselves. -/
theorem claims_first_free_passing :
    let calls : List Call := [.claim "a", .reserve ["a_1", "b"], .claim "a_2", .claim "a_2", .claim "a", .claim "a"]
    let given : List Entry := [.claimed "a" "a", .reserved ["a_1", "b"], .claimed "a_2" "a_2", .claimed "a_2" "a_2_1", .claimed "a" "a_3"]
    history {} calls = given ++ [.claimed "a" "a_4"] ∧ FirstFree ["a", "a_1", "b", "a_2", "a_2_1", "a_3"] "a" "a_4" := by
  intro calls given
  have hhistory : history {} calls = given ++ [.claimed "a" "a_4"] := by decide +kernel
  exact ⟨hhistory, (claims_first_free {} calls).2 given "a" "a_4" [] hhistory⟩

end NameScope

end Parcelgen

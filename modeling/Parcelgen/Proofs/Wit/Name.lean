import Parcelgen.Proofs.Wit.Trace
import Parcelgen.Wit.Load

/-!
The names of packages that come from resolves. A package name is read only if its words are letters and digits joined by dashes, and writing
it in snake case adds underscores at most. So the name of a package can be part of a file name (`slash_notMem_name_of_loadPackage`).
-/

namespace Parcelgen.Wit

/-- Stands in package names, as they are read or in snake case. -/
def inName (c : Char) : Bool := c.isAlphanum || c == '-' || c == '_'

/-- What a decoding gives, if it gives something. -/
def Yields {α : Type} (x : Decoding α) (P : α → Prop) : Prop := ∀ t a t', x.run t = some (a, t') → P a

namespace Yields

variable {α β : Type}

theorem pure {a : α} {P : α → Prop} (h : P a) : Yields (Pure.pure a) P := by
  intro t b t' hrun
  cases hrun
  exact h

theorem bind {x : Decoding α} {k : α → Decoding β} {Q : α → Prop} {P : β → Prop} (hx : Yields x Q) (hk : ∀ a, Q a → Yields (k a) P) :
    Yields (x >>= k) P := by
  intro t b t' hrun
  rw [StateT.run_bind] at hrun
  obtain ⟨⟨a, mid⟩, hxrun, hkrun⟩ := Option.bind_eq_some_iff.mp hrun
  exact hk a (hx t a mid hxrun) mid b t' hkrun

theorem any (x : Decoding α) : Yields x fun _ => True := fun _ _ _ _ => trivial

theorem mapM {f : α → Decoding β} {P : β → Prop} (hf : ∀ a, Yields (f a) P) (as : List α) : Yields (as.mapM f) fun bs => ∀ b ∈ bs, P b := by
  induction as with
  | nil =>
    rw [List.mapM_nil]
    exact pure (by simp)
  | cons a as ih =>
    rw [List.mapM_cons]
    refine (hf a).bind fun b hb => ih.bind fun bs hbs => pure ?_
    exact List.forall_mem_cons.mpr ⟨hb, hbs⟩

end Yields

theorem toNat_lt_of_inName {c : Char} (h : inName c = true) : c.toNat < 0x80 := by
  change ((decide (65 ≤ c.val ∧ c.val ≤ 90) || (decide (97 ≤ c.val) && decide (c.val ≤ 122))) ||
    (decide (48 ≤ c.val) && decide (c.val ≤ 57)) || c == '-' || c == '_') = true at h
  simp only [Bool.or_eq_true, Bool.and_eq_true, decide_eq_true_eq, UInt32.le_iff_toNat_le, beq_iff_eq] at h
  change ((((65 ≤ c.toNat ∧ c.toNat ≤ 90) ∨ (97 ≤ c.toNat ∧ c.toNat ≤ 122)) ∨ (48 ≤ c.toNat ∧ c.toNat ≤ 57)) ∨ c = '-') ∨ c = '_' at h
  rcases h with (((h | h) | h) | rfl) | rfl
  · omega
  · omega
  · omega
  · decide
  · decide

end Parcelgen.Wit

import Mathlib.Logic.ExistsUnique
import Parcelgen.Proofs.Marshal.Path
import Parcelgen.Proofs.Package.Validate

/-!
Lists of types that are closed and ordered: whatever occurs in a type of the list stands in front of it. A type may join such a list when
what it is made of is closed over the list already.
-/

namespace Parcelgen

namespace WireType

/-- The structs and enums that occur in the type, the type itself among them, are in `known`, and its handles in `handles`. -/
def ClosedOver (known : List WireType) (handles : List String) (t : WireType) : Prop :=
  ∀ q u, t.at? q = some u → (u.isNamedType = true → u ∈ known) ∧ ∀ n, u = .interface n → n ∈ handles

namespace ClosedOver

variable {known more : List WireType} {handles others : List String}

theorem mono (hsub : known ⊆ more) (hhandles : handles ⊆ others) {t : WireType} (h : ClosedOver known handles t) :
    ClosedOver more others t :=
  fun q u hu => ⟨fun hn => hsub ((h q u hu).1 hn), fun n hn => hhandles ((h q u hu).2 n hn)⟩

/-- A type is closed when it is known itself, or has no name, and the types right below it are closed. -/
theorem of_children {t : WireType} (hself : t.isNamedType = true → t ∈ known) (hhandle : ∀ n, t = .interface n → n ∈ handles)
    (hbelow : ∀ step u, t.child? step = some u → ClosedOver known handles u) : ClosedOver known handles t := by
  intro q u hu
  cases q with
  | nil =>
    rw [at?_nil] at hu
    cases hu
    exact ⟨hself, hhandle⟩
  | cons step q =>
    obtain ⟨v, hv, hq⟩ := at?_cons_eq_some hu
    exact hbelow step v hv q u hq

theorem array {elem : WireType} (h : ClosedOver known handles elem) (dim : String) : ClosedOver known handles (.array elem dim) := by
  refine .of_children (by simp [isNamedType]) (by simp) fun step u hu => ?_
  cases step <;> cases hu
  exact h

theorem vector {elem : WireType} (h : ClosedOver known handles elem) : ClosedOver known handles (.vector elem) := by
  refine .of_children (by simp [isNamedType]) (by simp) fun step u hu => ?_
  cases step <;> cases hu
  exact h

theorem interface {name : String} (h : name ∈ handles) : ClosedOver known handles (.interface name) :=
  .of_children (by simp [isNamedType]) (fun n hn => by cases hn; exact h) fun step u hu => by cases step <;> cases hu

/-- A type that joins the known ones. -/
theorem snoc {t : WireType} (hbelow : ∀ step u, t.child? step = some u → ClosedOver known handles u) (hhandle : ∀ n, t ≠ .interface n) :
    ClosedOver (known ++ [t]) handles t :=
  .of_children (fun _ => by simp) (fun n hn => absurd hn (hhandle n)) fun step u hu =>
    (hbelow step u hu).mono (List.subset_append_left _ _) (List.Subset.refl _)

end ClosedOver

/-- Everything that occurs in a type of the list, below the type itself, stands in front of it. -/
def Ordered (ts : List WireType) : Prop :=
  ∀ (i : Nat) (t : WireType), ts[i]? = some t →
    ∀ (q : Path) (u : WireType), q ≠ [] → t.at? q = some u → u.isNamedType = true → ∃ j < i, ts[j]? = some u

theorem Ordered.snoc {ts : List WireType} (h : Ordered ts) {t : WireType} {handles : List String}
    (hbelow : ∀ step u, t.child? step = some u → ClosedOver ts handles u) : Ordered (ts ++ [t]) := by
  intro i u hi q v hq hv hn
  rcases Nat.lt_or_ge i ts.length with hlt | hge
  · rw [List.getElem?_append_left hlt] at hi
    obtain ⟨j, hj, hjv⟩ := h i u hi q v hq hv hn
    exact ⟨j, hj, by rw [List.getElem?_append_left (Nat.lt_trans hj hlt), hjv]⟩
  · rw [List.getElem?_append_right hge] at hi
    obtain rfl : u = t := List.mem_singleton.mp (List.mem_of_getElem? hi)
    obtain ⟨step, q, rfl⟩ := List.exists_cons_of_ne_nil hq
    obtain ⟨w, hw, hwv⟩ := at?_cons_eq_some hv
    obtain ⟨j, hj⟩ := List.mem_iff_getElem?.mp ((hbelow step w hw q v hwv).1 hn)
    obtain ⟨hlt, -⟩ := List.getElem?_eq_some_iff.mp hj
    exact ⟨j, by omega, by rw [List.getElem?_append_left hlt, hj]⟩

end WireType

/-- With keys that do not repeat, a member of the list has the only place with its key. -/
theorem existsUnique_getElem? {α β : Type} {key : α → β} {xs : List α} (h : (xs.map key).Nodup) {a : α} (ha : a ∈ xs) :
    ∃! i : Nat, ∃ b, xs[i]? = some b ∧ key b = key a := by
  obtain ⟨i, hi⟩ := List.mem_iff_getElem?.mp ha
  refine ⟨i, ⟨a, hi, rfl⟩, ?_⟩
  rintro j ⟨b, hj, hb⟩
  obtain ⟨hlt, -⟩ := List.getElem?_eq_some_iff.mp hj
  refine (List.getElem?_inj (by rwa [List.length_map]) h).mp ?_
  rw [List.getElem?_map, List.getElem?_map, hi, hj, Option.map_some, Option.map_some, hb]

theorem Package.qualify_injective (p : Package) : Function.Injective p.qualify := by
  intro a b hab
  unfold qualify at hab
  split at hab <;> simpa [← String.toList_inj] using hab

end Parcelgen

import Parcelgen.WireType.Basic

/-!
Places in type trees. A path leads from the root of a tree to a node below it, through members and elements. The references of a tree are
the paths of its strings, vectors and handles, in the order in which they are declared: a vector comes before what its elements hold.
-/

namespace Parcelgen

inductive Step where
  /-- Into the member at a position of a struct. -/
  | member (position : Nat)
  /-- Into the elements of an array or vector. -/
  | element
deriving Repr, DecidableEq

abbrev Path := List Step

/-- Members come in the order of their positions. -/
def Step.before : Step → Step → Prop
  | .member i, .member j => i < j
  | _, _ => False

/-- A node comes before those below it, and below a struct those of earlier members come first. -/
abbrev Path.Before : Path → Path → Prop := List.Lex Step.before

namespace WireType

def child? : WireType → Step → Option WireType
  | .struct _ fields, .member i => fields[i]?.map Prod.snd
  | .array elem _, .element | .vector elem, .element => some elem
  | _, _ => none

def at? : WireType → Path → Option WireType
  | t, [] => some t
  | t, s :: p => (t.child? s).bind (·.at? p)

/-- The value lies, in part, outside the block that holds it. -/
def isReference : WireType → Bool
  | .string | .vector _ | .interface _ => true
  | _ => false

mutual

def references : WireType → List Path
  | .string | .interface _ => [[]]
  | .vector elem => [] :: elem.references.map (.element :: ·)
  | .array elem _ => elem.references.map (.element :: ·)
  | .struct _ fields => memberReferences 0 fields
  | .absent | .scalar _ | .enum _ _ _ => []

def memberReferences : Nat → List (String × WireType) → List Path
  | _, [] => []
  | i, (_, t) :: rest => t.references.map (.member i :: ·) ++ memberReferences (i + 1) rest

end

@[simp] theorem at?_nil (t : WireType) : t.at? [] = some t := by cases t <;> rfl

@[simp] theorem at?_cons (t : WireType) (s : Step) (p : Path) : t.at? (s :: p) = (t.child? s).bind (·.at? p) := by
  cases t <;> rfl

/-- The ways to go down one step. -/
theorem child?_cases {t u : WireType} {s : Step} (h : t.child? s = some u) :
    (∃ name fields i field, t = .struct name fields ∧ s = .member i ∧ fields[i]? = some (field, u)) ∨
      (∃ dim, t = .array u dim ∧ s = .element) ∨ (t = .vector u ∧ s = .element) := by
  unfold child? at h
  split at h
  · obtain ⟨⟨field, v⟩, hf, rfl⟩ := Option.map_eq_some_iff.mp h
    exact .inl ⟨_, _, _, field, rfl, rfl, hf⟩
  · cases h
    exact .inr (.inl ⟨_, rfl, rfl⟩)
  · cases h
    exact .inr (.inr ⟨rfl, rfl⟩)
  · cases h

theorem at?_cons_eq_some {t u : WireType} {s : Step} {p : Path} (h : t.at? (s :: p) = some u) :
    ∃ v, t.child? s = some v ∧ v.at? p = some u := by
  rw [at?_cons] at h
  exact Option.bind_eq_some_iff.mp h

theorem mem_memberReferences_position {fields : List (String × WireType)} {i : Nat} {p : Path} (h : p ∈ memberReferences i fields) :
    ∃ j q, p = .member j :: q ∧ i ≤ j := by
  induction fields generalizing i with
  | nil => simp [memberReferences] at h
  | cons f fields ih =>
    simp only [memberReferences, List.mem_append, List.mem_map] at h
    rcases h with ⟨q, _, rfl⟩ | h
    · exact ⟨i, q, rfl, Nat.le_refl i⟩
    · obtain ⟨j, q, rfl, hj⟩ := ih h
      exact ⟨j, q, rfl, by omega⟩

mutual

/-- The references of a tree are all its strings, vectors and handles. -/
theorem mem_references : ∀ (t : WireType) (p : Path), p ∈ t.references ↔ ∃ u, t.at? p = some u ∧ u.isReference = true
  | .absent, p | .scalar _, p | .enum _ _ _, p => by
    cases p <;> simp [references, isReference, child?]
  | .string, p | .interface _, p => by
    cases p <;> simp [references, isReference, child?]
  | .vector elem, [] => by simp [references, isReference]
  | .vector elem, .element :: p => by
    simpa [references, child?] using mem_references elem p
  | .vector elem, .member i :: p => by simp [references, child?]
  | .array elem dim, [] => by simp [references, isReference]
  | .array elem dim, .element :: p => by
    simpa [references, child?] using mem_references elem p
  | .array elem dim, .member i :: p => by simp [references, child?]
  | .struct name fields, [] => by
    simp only [references, at?_nil, Option.some.injEq]
    refine ⟨fun h => ?_, fun ⟨u, hu, hr⟩ => by subst hu; simp [isReference] at hr⟩
    obtain ⟨j, q, hq, _⟩ := mem_memberReferences_position h
    cases hq
  | .struct name fields, .element :: p => by
    simp only [references, at?_cons, child?, Option.bind_none, reduceCtorEq, false_and, exists_false, iff_false]
    intro h
    obtain ⟨j, q, hq, _⟩ := mem_memberReferences_position h
    cases hq
  | .struct name fields, .member i :: p => by
    have h := mem_memberReferences fields 0 i p
    simp only [references, at?_cons, child?]
    rw [show Step.member i = .member (0 + i) by rw [Nat.zero_add], h]
    cases fields[i]? <;> simp

theorem mem_memberReferences : ∀ (fields : List (String × WireType)) (i j : Nat) (p : Path),
    .member (i + j) :: p ∈ memberReferences i fields ↔
      ∃ f u, fields[j]?.map Prod.snd = some f ∧ f.at? p = some u ∧ u.isReference = true
  | [], i, j, p => by simp [memberReferences]
  | (f, t) :: rest, i, 0, p => by
    simp only [memberReferences, Nat.add_zero, List.mem_append, List.mem_map, List.cons.injEq, true_and, exists_eq_right,
      List.getElem?_cons_zero, Option.map_some, Option.some.injEq]
    rw [mem_references t p]
    refine ⟨fun h => ?_, fun ⟨_, u, hf, hu⟩ => .inl ⟨u, hf ▸ hu⟩⟩
    rcases h with ⟨u, hu⟩ | h
    · exact ⟨t, u, rfl, hu⟩
    · obtain ⟨j, q, hq, hj⟩ := mem_memberReferences_position h
      simp only [List.cons.injEq, Step.member.injEq] at hq
      omega
  | (f, t) :: rest, i, j + 1, p => by
    have ih := mem_memberReferences rest (i + 1) j p
    rw [show i + 1 + j = i + (j + 1) by omega] at ih
    simp only [memberReferences, List.mem_append, List.mem_map, List.cons.injEq, Step.member.injEq, List.getElem?_cons_succ]
    rw [ih]
    refine ⟨fun h => ?_, .inr⟩
    rcases h with ⟨q, _, hq, _⟩ | h
    · omega
    · exact h

end

theorem pairwise_before_map {ps : List Path} (s : Step) (h : ps.Pairwise Path.Before) : (ps.map (s :: ·)).Pairwise Path.Before :=
  List.pairwise_map.mpr (h.imp .cons)

mutual

/-- References are listed in the order of their declarations, so none is listed twice. -/
theorem references_pairwise : ∀ t : WireType, t.references.Pairwise Path.Before
  | .absent | .scalar _ | .enum _ _ _ => by simp [references]
  | .string | .interface _ => by simp [references]
  | .vector elem => by
    simp only [references, List.pairwise_cons, List.mem_map]
    refine ⟨?_, pairwise_before_map _ (references_pairwise elem)⟩
    rintro p ⟨q, _, rfl⟩
    exact .nil
  | .array elem _ => pairwise_before_map _ (references_pairwise elem)
  | .struct _ fields => memberReferences_pairwise 0 fields

theorem memberReferences_pairwise : ∀ (i : Nat) (fields : List (String × WireType)), (memberReferences i fields).Pairwise Path.Before
  | _, [] => by simp [memberReferences]
  | i, (_, t) :: rest => by
    simp only [memberReferences, List.pairwise_append]
    refine ⟨pairwise_before_map _ (references_pairwise t), memberReferences_pairwise (i + 1) rest, ?_⟩
    intro p hp q hq
    obtain ⟨p, _, rfl⟩ := List.mem_map.mp hp
    obtain ⟨j, q, rfl, hj⟩ := mem_memberReferences_position hq
    exact .rel hj

end

mutual

/-- A tree that needs no walk has no references. -/
theorem references_of_not_embedded : ∀ t : WireType, t.isEmbedded = false → t.references = []
  | .absent, _ | .scalar _, _ | .enum _ _ _, _ => by simp [references]
  | .string, h | .vector _, h | .interface _, h => by simp [isEmbedded] at h
  | .array elem _, h => by
    simp only [isEmbedded] at h
    simp [references, references_of_not_embedded elem h]
  | .struct _ fields, h => by
    simp only [isEmbedded] at h
    exact memberReferences_of_not_embedded 0 fields h

theorem memberReferences_of_not_embedded : ∀ (i : Nat) (fields : List (String × WireType)),
    anyEmbedded fields = false → memberReferences i fields = []
  | _, [], _ => by simp [memberReferences]
  | i, (_, t) :: rest, h => by
    simp only [anyEmbedded, Bool.or_eq_false_iff] at h
    simp [memberReferences, references_of_not_embedded t h.1, memberReferences_of_not_embedded (i + 1) rest h.2]

end

/-- No vector lies strictly above the node at `p`. -/
def NoVectorAbove (t : WireType) (p : Path) : Prop :=
  ∀ q r elem, p = q ++ r → r ≠ [] → t.at? q ≠ some (.vector elem)

/-- The vector at `q` is the innermost one above the node at `q ++ r`. -/
structure Innermost (t : WireType) (q r : Path) : Prop where
  vector : ∃ elem, t.at? q = some (.vector elem)
  below : r ≠ []
  between : ∀ r₁ r₂ elem, r = r₁ ++ r₂ → r₁ ≠ [] → r₂ ≠ [] → t.at? (q ++ r₁) ≠ some (.vector elem)

theorem NoVectorAbove.cons {t u : WireType} {s : Step} {p : Path} (hc : t.child? s = some u) (ht : ∀ elem, t ≠ .vector elem)
    (h : u.NoVectorAbove p) : t.NoVectorAbove (s :: p) := by
  intro q r elem hq hr
  cases q with
  | nil => simpa using ht elem
  | cons s' q =>
    obtain ⟨rfl, hp⟩ := List.cons.inj hq
    simpa [hc] using h q r elem hp hr

theorem Innermost.root {elem : WireType} {p : Path} (h : elem.NoVectorAbove p) : (WireType.vector elem).Innermost [] (.element :: p) := by
  refine ⟨⟨elem, by simp⟩, by simp, ?_⟩
  intro r₁ r₂ e hr h₁ h₂
  cases r₁ with
  | nil => exact absurd rfl h₁
  | cons s r₁ =>
    obtain ⟨rfl, hp⟩ := List.cons.inj hr
    simpa [child?] using h r₁ r₂ e hp h₂

theorem Innermost.cons {t u : WireType} {s : Step} {q r : Path} (hc : t.child? s = some u) (h : u.Innermost q r) :
    t.Innermost (s :: q) r := by
  obtain ⟨⟨elem, he⟩, hb, hn⟩ := h
  refine ⟨⟨elem, by simpa [hc] using he⟩, hb, ?_⟩
  intro r₁ r₂ e hr h₁ h₂
  simpa [hc] using hn r₁ r₂ e hr h₁ h₂

end WireType

end Parcelgen

import Parcelgen.Proofs.Marshal.Declarable

/-!
When moving a variable is refused. A walk looks only at parts with embedded content, and asks different things of them: a vector must have a
spelling of its own, an array that is looped over only the type inside all its dimensions. So nested arrays pass where a member is walked
through, while a variable that is one does not, and a vector of arrays never does. `transfer_succeeds_iff` puts the conditions together.
-/

namespace Parcelgen

open Naming

theorem Unwind.fault?_eq_none_iff (mode : Unwind) : mode.fault? = none ↔ mode ∈ Unwind.all := by
  cases mode <;> simp [Unwind.fault?, Unwind.all]

namespace WireType

/-- The type, its element if it is a vector or an array, the element of that, and so on. -/
def chain : WireType → List WireType
  | .vector elem => .vector elem :: elem.chain
  | .array elem dim => .array elem dim :: elem.chain
  | t => [t]

theorem chain_eq_cons (t : WireType) : t.chain = t :: t.chain.tail := by cases t <;> rfl

/-- The type has a spelling as a variable of its own. -/
def Renders (d : Dialect) (t : WireType) : Prop := ∃ s, t.spell d .stack = .ok s

theorem isAbsent_of_spell {d : Dialect} {t : WireType} {s : Spelling} (h : t.spell d .stack = .ok s) : t.isAbsent = false := by
  cases t with
  | absent => cases h
  | _ => rfl

theorem spell_vector_eq_ok_iff {d : Dialect} {elem : WireType} {s : Spelling} :
    (vector elem).spell d .stack = .ok s ↔
      ∃ e, elem.spell d .stack = .ok e ∧ e.suffix = "" ∧ s = { name := d.vectorTemplate ++ "<" ++ e.name ++ ">" } := by
  cases helem : elem.spell d .stack with
  | error f => cases hb : elem.isAbsent <;> simp [spell, hb, helem, bind, Except.bind]
  | ok e =>
    by_cases hsuffix : e.suffix = ""
    · simp only [spell, isAbsent_of_spell helem, helem, hsuffix, bind, Except.bind, byReference, Except.ok.injEq]
      simpa [hsuffix] using eq_comm
    · simp [spell, isAbsent_of_spell helem, helem, hsuffix, bind, Except.bind, throw, throwThe, MonadExceptOf.throw]

theorem spell_array_eq_ok_iff {d : Dialect} {elem : WireType} {dim : String} {s : Spelling} :
    (array elem dim).spell d .stack = .ok s ↔
      ∃ e, elem.spell d .stack = .ok e ∧ e.suffix = "" ∧ s = { name := e.name, suffix := "[" ++ dim ++ "]" } := by
  cases helem : elem.spell d .stack with
  | error f => cases hb : elem.isAbsent <;> simp [spell, hb, helem, bind, Except.bind]
  | ok e =>
    by_cases hsuffix : e.suffix = ""
    · simp only [spell, isAbsent_of_spell helem, helem, hsuffix, bind, Except.bind, byElement, Except.ok.injEq]
      simpa [hsuffix] using eq_comm
    · simp [spell, isAbsent_of_spell helem, helem, hsuffix, bind, Except.bind, throw, throwThe, MonadExceptOf.throw]

/-- Arrays are the types with a declarator suffix, also when their dimension is empty. -/
theorem suffix_of_spell_stack {d : Dialect} {t : WireType} {s : Spelling} (h : t.spell d .stack = .ok s) :
    s.suffix = "" ↔ t.isArray = false := by
  cases t with
  | absent => cases h
  | scalar k =>
    simp only [spell] at h
    split at h
    · cases h
      simp [isArray]
    · cases h
  | string | struct _ _ | enum _ _ _ | interface _ =>
    cases h
    simp [isArray]
  | vector elem =>
    obtain ⟨e, -, -, rfl⟩ := spell_vector_eq_ok_iff.mp h
    simp [isArray]
  | array elem dim =>
    obtain ⟨e, -, -, rfl⟩ := spell_array_eq_ok_iff.mp h
    simp [isArray, ← String.toList_inj]

theorem renders_of_element {d : Dialect} {t elem : WireType} {shape : Spelling → Spelling}
    (h : ∀ s, t.spell d .stack = .ok s ↔ ∃ e, elem.spell d .stack = .ok e ∧ e.suffix = "" ∧ s = shape e) :
    t.Renders d ↔ elem.Renders d ∧ elem.isArray = false := by
  constructor
  · rintro ⟨s, hs⟩
    obtain ⟨e, he, hsuffix, -⟩ := (h s).mp hs
    exact ⟨⟨e, he⟩, (suffix_of_spell_stack he).mp hsuffix⟩
  · rintro ⟨⟨e, he⟩, harray⟩
    exact ⟨shape e, (h _).mpr ⟨e, he, (suffix_of_spell_stack he).mpr harray, rfl⟩⟩

theorem renders_vector {d : Dialect} {elem : WireType} : (vector elem).Renders d ↔ elem.Renders d ∧ elem.isArray = false :=
  renders_of_element fun _ => spell_vector_eq_ok_iff

theorem renders_array {d : Dialect} {elem : WireType} {dim : String} :
    (array elem dim).Renders d ↔ elem.Renders d ∧ elem.isArray = false := renders_of_element fun _ => spell_array_eq_ok_iff

/-- Along its chain of elements, no part of the type is missing, no array stands directly under an array or a vector, and a scalar at the end
is a known one. -/
structure Spellable (t : WireType) : Prop where
  present : ∀ u ∈ t.chain, u.isAbsent = false
  flat : ∀ u ∈ t.chain.tail, u.isArray = false
  scalar : ∀ s, t.chain.getLast? = some (.scalar s) → s.isKnown = true

/-- One more vector or array in front of the chain. -/
theorem spellable_cons {t elem : WireType} (hchain : t.chain = t :: elem.chain) (hpresent : t.isAbsent = false) :
    t.Spellable ↔ elem.Spellable ∧ elem.isArray = false := by
  have hlast : t.chain.getLast? = elem.chain.getLast? := by rw [hchain, chain_eq_cons elem, List.getLast?_cons_cons]
  constructor
  · rintro ⟨hp, hflat, hscalar⟩
    rw [hchain] at hp
    rw [hchain, List.tail_cons, chain_eq_cons elem] at hflat
    exact ⟨⟨fun u hu => hp u (List.mem_cons_of_mem t hu), fun u hu => hflat u (List.mem_cons_of_mem elem hu), hlast ▸ hscalar⟩,
      hflat elem List.mem_cons_self⟩
  · rintro ⟨⟨hp, hflat, hscalar⟩, harray⟩
    refine ⟨?_, ?_, hlast ▸ hscalar⟩
    · rw [hchain]
      exact List.forall_mem_cons.mpr ⟨hpresent, hp⟩
    · rw [hchain, List.tail_cons, chain_eq_cons elem]
      exact List.forall_mem_cons.mpr ⟨harray, hflat⟩

theorem spellable_of_leaf {t : WireType} (hchain : t.chain = [t]) (hpresent : t.isAbsent = false)
    (hscalar : ∀ s, t = .scalar s → s.isKnown = true) : t.Spellable := by
  refine ⟨?_, ?_, ?_⟩
  · rw [hchain]
    simpa using hpresent
  · rw [hchain]
    simp
  · intro s hs
    rw [hchain] at hs
    exact hscalar s (by simpa using hs)

theorem renders_iff (d : Dialect) : ∀ t : WireType, t.Renders d ↔ t.Spellable
  | .absent => by
    constructor
    · rintro ⟨s, h⟩
      cases h
    · intro h
      cases h.present .absent List.mem_cons_self
  | .scalar k => by
    constructor
    · rintro ⟨s, h⟩
      refine spellable_of_leaf rfl rfl fun k' hk' => ?_
      cases hk'
      simp only [spell] at h
      split at h
      · assumption
      · cases h
    · intro h
      have hk : k.isKnown = true := h.scalar k rfl
      exact ⟨{ name := k.ctype }, by simp [spell, hk, byValue]⟩
  | .string | .struct _ _ | .enum _ _ _ | .interface _ =>
    ⟨fun _ => spellable_of_leaf rfl rfl fun _ h => (by cases h), fun _ => ⟨_, rfl⟩⟩
  | .vector elem => renders_vector.trans ((and_congr_left' (renders_iff d elem)).trans (spellable_cons rfl rfl).symm)
  | .array elem dim => renders_array.trans ((and_congr_left' (renders_iff d elem)).trans (spellable_cons rfl rfl).symm)

/-- No part of the tree is missing. -/
def Complete (t : WireType) : Prop := ∀ q, t.at? q ≠ some .absent

theorem complete_of_child {t u : WireType} {s : Step} (h : t.Complete) (hc : t.child? s = some u) : u.Complete := by
  intro q hq
  exact h (s :: q) (by simpa [hc] using hq)

theorem complete_of_children {t : WireType} (hroot : t.isAbsent = false) (h : ∀ s u, t.child? s = some u → u.Complete) : t.Complete := by
  intro q hq
  cases q with
  | nil =>
    obtain rfl : t = .absent := by simpa using hq
    cases hroot
  | cons s q =>
    obtain ⟨u, hu, hq⟩ := at?_cons_eq_some hq
    exact h s u hu q hq

theorem complete_struct_iff {name : String} {fields : List (String × WireType)} :
    (struct name fields).Complete ↔ ∀ f ∈ fields, f.2.Complete := by
  constructor
  · intro h f hf
    obtain ⟨i, hi, rfl⟩ := List.getElem_of_mem hf
    exact complete_of_child h (s := .member i) (by simp [child?, hi])
  · intro h
    refine complete_of_children rfl fun s u hu => ?_
    rcases child?_cases hu with ⟨_, _, i, field, heq, -, hi⟩ | ⟨_, heq, -⟩ | ⟨heq, -⟩
    · cases heq
      exact h _ (List.mem_of_getElem? hi)
    · cases heq
    · cases heq

theorem complete_element_iff {t : WireType} (elem : WireType) (hroot : t.isAbsent = false)
    (h : ∀ s u, t.child? s = some u ↔ s = .element ∧ u = elem) : t.Complete ↔ elem.Complete := by
  constructor
  · intro ht
    exact complete_of_child ht ((h _ _).mpr ⟨rfl, rfl⟩)
  · intro he
    refine complete_of_children hroot fun s u hu => ?_
    rw [((h s u).mp hu).2]
    exact he

mutual

theorem complete_iff : ∀ t : WireType, t.Complete ↔ t.isAbsent = false ∧ t.missing? = none
  | .absent => ⟨fun h => absurd rfl (h []), fun h => by cases h.1⟩
  | .scalar _ | .string | .enum _ _ _ | .interface _ =>
    ⟨fun _ => ⟨rfl, by simp [missing?]⟩, fun _ => complete_of_children rfl fun s u hu => by cases s <;> cases hu⟩
  | .vector elem => by
    rw [complete_element_iff elem rfl fun s u => by cases s <;> simp [child?, eq_comm], complete_iff elem]
    have hroot : (vector elem).isAbsent = false := rfl
    cases he : elem.isAbsent <;> simp [missing?, he, hroot]
  | .array elem dim => by
    rw [complete_element_iff elem rfl fun s u => by cases s <;> simp [child?, eq_comm], complete_iff elem]
    have hroot : (array elem dim).isAbsent = false := rfl
    cases he : elem.isAbsent <;> simp [missing?, he, hroot]
  | .struct name fields => by
    rw [complete_struct_iff, completeMembers_iff name fields, missing?]
    exact (and_iff_right rfl).symm

theorem completeMembers_iff (name : String) : ∀ fields : List (String × WireType),
    (∀ f ∈ fields, f.2.Complete) ↔ missingMember? name fields = none
  | [] => by simp [missingMember?]
  | (field, t) :: rest => by
    rw [List.forall_mem_cons, completeMembers_iff name rest, complete_iff t]
    cases ht : t.isAbsent <;> cases hm : t.missing? <;> simp [missingMember?, ht, hm]

end

/-- The parts of a type that the walk over its embedded content comes to. It goes through members and elements, and leaves out what has no
embedded content. -/
inductive Meets : WireType → WireType → Prop
  | self {t} : t.isEmbedded = true → Meets t t
  | member {name fields field t u} : (field, t) ∈ fields → Meets t u → Meets (.struct name fields) u
  | arrayElement {elem dim u} : Meets elem u → Meets (.array elem dim) u
  | vectorElement {elem u} : Meets elem u → Meets (.vector elem) u

theorem isEmbedded_of_mem {fields : List (String × WireType)} {field : String} {t : WireType} (h : (field, t) ∈ fields)
    (ht : t.isEmbedded = true) : anyEmbedded fields = true := by
  induction fields with
  | nil => cases h
  | cons f rest ih =>
    rw [anyEmbedded, Bool.or_eq_true]
    rcases List.mem_cons.mp h with rfl | h
    · exact .inl ht
    · exact .inr (ih h)

theorem Meets.isEmbedded {t u : WireType} (h : t.Meets u) : t.isEmbedded = true := by
  induction h with
  | self h => exact h
  | member hf _ ih => simpa [WireType.isEmbedded] using isEmbedded_of_mem hf ih
  | arrayElement _ ih => simpa [WireType.isEmbedded] using ih
  | vectorElement _ _ => simp [WireType.isEmbedded]

theorem Meets.target {t u : WireType} (h : t.Meets u) : u.isEmbedded = true := by
  induction h with
  | self h => exact h
  | member _ _ ih | arrayElement _ ih | vectorElement _ ih => exact ih

/-- What the walk asks of a part it comes to. -/
def Passes (d : Dialect) (mode : Unwind) : WireType → Prop
  | .vector elem => (vector elem).Renders d ∧ (elem.isEmbedded = true → mode ≠ .exit)
  | .array elem _ => elem.arrayShape.1.Renders d ∧ mode ≠ .exit
  | _ => True

theorem byteSize_eq_ok_iff {d : Dialect} {t : WireType} : (∃ size, t.byteSize d = .ok size) ↔ t.arrayShape.1.Renders d := by
  cases hs : t.arrayShape.1.spell d .stack with
  | error f => cases ha : t.arrayShape.1.isAbsent <;> simp [byteSize, Renders, ha, hs, bind, Except.bind]
  | ok s => simp [byteSize, Renders, isAbsent_of_spell hs, hs, bind, Except.bind, pure, Except.pure]

theorem elementFault?_eq_none_iff {d : Dialect} {mode : Unwind} {whole elem : WireType} {body : Option Error} :
    elementFault? d mode whole elem body = none ↔ elem.arrayShape.1.Renders d ∧ mode ≠ .exit ∧ body = none := by
  rw [← byteSize_eq_ok_iff]
  cases hs : elem.byteSize d with
  | error f => simp [elementFault?, hs]
  | ok size => by_cases hm : mode = .exit <;> simp [elementFault?, hs, hm]

mutual

/-- A walk in a known mode succeeds when every part it comes to passes. -/
theorem walkFault?_eq_none_iff (d : Dialect) {mode : Unwind} (hm : mode.fault? = none) : ∀ t : WireType,
    t.walkFault? d mode = none ↔ ∀ u, t.Meets u → u.Passes d mode
  | .absent | .scalar _ | .enum _ _ _ => by
    simp only [walkFault?, true_iff]
    intro u hu
    cases hu.isEmbedded
  | .string | .interface _ => by
    simp only [walkFault?, hm, true_iff]
    intro u hu
    cases hu
    trivial
  | .struct name fields => by
    rw [walkFault?, memberFault?_eq_none_iff d hm name fields]
    constructor
    · intro h u hu
      cases hu with
      | self _ => trivial
      | member hf hu => exact h _ hf u hu
    · intro h f hf u hu
      exact h u (.member hf hu)
  | .array elem dim => by
    cases he : elem.isEmbedded with
    | false =>
      simp only [walkFault?, he, Bool.false_eq_true, if_false, true_iff]
      intro u hu
      have := hu.isEmbedded
      simp [isEmbedded, he] at this
    | true =>
      rw [walkFault?, he, if_pos rfl, elementFault?_eq_none_iff, walkFault?_eq_none_iff d hm elem]
      constructor
      · rintro ⟨hr, hexit, h⟩ u hu
        cases hu with
        | self _ => exact ⟨hr, hexit⟩
        | arrayElement hu => exact h u hu
      · intro h
        have hself := h _ (.self (t := .array elem dim) (by simpa [isEmbedded] using he))
        exact ⟨hself.1, hself.2, fun u hu => h u (.arrayElement hu)⟩
  | .vector elem => by
    constructor
    · intro h u hu
      rw [walkFault?] at h
      split at h
      · cases h
      · rename_i spelling hs
        obtain ⟨-, h⟩ := Option.or_eq_none_iff.mp h
        cases hu with
        | self _ =>
          refine ⟨⟨spelling, hs⟩, fun he => ?_⟩
          rw [if_pos he] at h
          exact (elementFault?_eq_none_iff.mp h).2.1
        | vectorElement hu =>
          rw [if_pos hu.isEmbedded] at h
          exact (walkFault?_eq_none_iff d hm elem).mp (elementFault?_eq_none_iff.mp h).2.2 u hu
    · intro h
      obtain ⟨hrenders, hexit⟩ := h (.vector elem) (.self rfl)
      obtain ⟨hr, harray⟩ := renders_vector.mp hrenders
      obtain ⟨spelling, hs⟩ := hrenders
      rw [walkFault?, hs]
      refine Option.or_eq_none_iff.mpr ⟨hm, ?_⟩
      split
      · rename_i he
        refine elementFault?_eq_none_iff.mpr ⟨?_, hexit he, ?_⟩
        · rwa [arrayShape_of_not_array harray]
        · exact (walkFault?_eq_none_iff d hm elem).mpr fun u hu => h u (.vectorElement hu)
      · rfl

theorem memberFault?_eq_none_iff (d : Dialect) {mode : Unwind} (hm : mode.fault? = none) (name : String) :
    ∀ fields : List (String × WireType), memberFault? d mode name fields = none ↔ ∀ f ∈ fields, ∀ u, f.2.Meets u → u.Passes d mode
  | [] => by simp [memberFault?]
  | (field, t) :: rest => by
    rw [memberFault?, Option.or_eq_none_iff, List.forall_mem_cons, memberFault?_eq_none_iff d hm name rest]
    refine and_congr_left' ?_
    cases he : t.isEmbedded with
    | true => simpa using walkFault?_eq_none_iff d hm t
    | false =>
      simp only [Bool.false_eq_true, if_false, true_iff]
      intro u hu
      rw [hu.isEmbedded] at he
      cases he

end

/-- What is asked of a variable's own type, before any walk. -/
def RootFits (d : Dialect) : WireType → Prop
  | .scalar s => s.isKnown = true
  | .enum _ storage _ => storage.isInteger = true
  | .vector elem => (vector elem).Renders d
  | .array elem _ => elem.isArray = false ∧ elem.Renders d
  | _ => True

theorem scalarFault?_eq_none_iff {mode : Unwind} {s : Scalar} : scalarFault? mode s = none ↔ s.isKnown = true ∧ mode.fault? = none := by
  cases hs : s.isKnown <;> simp [scalarFault?, hs]

/-- A type that is moved without a walk has no part for one to come to. -/
theorem passes_of_not_embedded {d : Dialect} {mode : Unwind} {t : WireType} (h : t.isEmbedded = false) :
    ∀ u, t.Meets u → u.Passes d mode := by
  intro u hu
  rw [hu.isEmbedded] at h
  cases h

/-- What moving a variable asks of its type, in all. -/
theorem transferFault?_eq_none_iff (d : Dialect) (mode : Unwind) (t : WireType) :
    t.transferFault? d mode = none ↔
      t.Complete ∧ mode.fault? = none ∧ t.RootFits d ∧ ∀ u, t.Meets u → u.Passes d mode := by
  unfold transferFault?
  rw [Option.or_eq_none_iff, Option.map_eq_none_iff, complete_iff t]
  -- The walk counts only in a known mode, so its condition can be put in place behind that of the mode.
  have hwalk : (mode.fault?.or (t.walkFault? d mode) = none) ↔ mode.fault? = none ∧ ∀ u, t.Meets u → u.Passes d mode := by
    rw [Option.or_eq_none_iff]
    exact and_congr_right fun hm => walkFault?_eq_none_iff d hm t
  cases t with
  | absent => simp [isAbsent]
  | scalar k =>
    refine and_congr (and_iff_right rfl).symm (scalarFault?_eq_none_iff.trans ?_)
    constructor
    · rintro ⟨hk, hm⟩
      exact ⟨hm, hk, passes_of_not_embedded rfl⟩
    · rintro ⟨hm, hk, -⟩
      exact ⟨hk, hm⟩
  | enum name storage values =>
    refine and_congr (and_iff_right rfl).symm ?_
    dsimp only
    constructor
    · intro h
      split at h
      · rename_i hi
        exact ⟨(scalarFault?_eq_none_iff.mp h).2, hi, passes_of_not_embedded rfl⟩
      · cases h
    · rintro ⟨hm, hi, -⟩
      rw [if_pos (show storage.isInteger = true from hi)]
      exact scalarFault?_eq_none_iff.mpr ⟨isKnown_of_isInteger hi, hm⟩
  | interface name =>
    refine and_congr (and_iff_right rfl).symm ?_
    constructor
    · intro hm
      exact ⟨hm, trivial, (walkFault?_eq_none_iff d hm _).mp hm⟩
    · rintro ⟨hm, -, -⟩
      exact hm
  | string | struct name fields =>
    exact and_congr (and_iff_right rfl).symm (hwalk.trans (and_congr_right fun _ => (and_iff_right trivial).symm))
  | vector elem =>
    refine and_congr (and_iff_right rfl).symm ?_
    dsimp only
    cases hs : (vector elem).spell d .stack with
    | error f =>
      simp [RootFits, Renders, hs]
    | ok spelling => exact hwalk.trans (and_congr_right fun _ => (and_iff_right ⟨spelling, hs⟩).symm)
  | array elem dim =>
    refine and_congr (and_iff_right rfl).symm ?_
    dsimp only
    cases hs : elem.spell d .stack with
    | error f => simp [RootFits, Renders, hs]
    | ok spelling =>
      dsimp only
      split
      · rename_i hsuffix
        have harray := (suffix_of_spell_stack hs).mp hsuffix
        exact hwalk.trans (and_congr_right fun _ => (and_iff_right ⟨harray, spelling, hs⟩).symm)
      · rename_i hsuffix
        have harray := mt (suffix_of_spell_stack hs).mpr hsuffix
        simp [RootFits, harray]

/-- A variable called `name` can be moved through a buffer, with failures unwound as `mode` says. -/
structure Movable (d : Dialect) (mode : Unwind) (t : WireType) (name : String) : Prop where
  named : name ≠ ""
  complete : t.Complete
  known : mode ∈ Unwind.all
  root : t.RootFits d
  vectors : ∀ elem, t.Meets (.vector elem) → (vector elem).Renders d
  arrays : ∀ elem dim, t.Meets (.array elem dim) → (array elem dim).arrayShape.1.Renders d
  /-- Breaking out of a loop would not leave the walk. -/
  loops : mode = .exit → ∀ elem, elem.isEmbedded = true → ¬ t.Meets (.vector elem) ∧ ∀ dim, ¬ t.Meets (.array elem dim)

theorem movable_iff (d : Dialect) (mode : Unwind) (t : WireType) (name : String) :
    t.Movable d mode name ↔ name ≠ "" ∧ t.transferFault? d mode = none := by
  rw [transferFault?_eq_none_iff, Unwind.fault?_eq_none_iff]
  constructor
  · intro h
    refine ⟨h.named, h.complete, h.known, h.root, fun u hu => ?_⟩
    cases u with
    | vector elem => exact ⟨h.vectors elem hu, fun he hexit => (h.loops hexit elem he).1 hu⟩
    | array elem dim =>
      refine ⟨h.arrays elem dim hu, fun hexit => ?_⟩
      exact (h.loops hexit elem (by simpa [isEmbedded] using hu.target)).2 dim hu
    | _ => trivial
  · rintro ⟨hname, hcomplete, hknown, hroot, hpasses⟩
    refine ⟨hname, hcomplete, hknown, hroot, fun elem hu => (hpasses _ hu).1, fun elem dim hu => (hpasses _ hu).1, ?_⟩
    rintro rfl elem he
    exact ⟨fun hu => (hpasses _ hu).2 he rfl, fun dim hu => (hpasses _ hu).2 rfl⟩

end WireType

open WireType

/-- On a sink that takes everything, the statements that read or write a variable are emitted exactly when the variable can be moved, whatever
the buffer, the direction and the names in scope. What has a spelling along the way is decided by the chain of elements alone. -/
theorem transfer_succeeds_iff (site : Site) (t : WireType) (name : String) (s : Option NameScope) {p : Printer} (hp : p.Unfailing) :
    ((Layout.runAll p (Stmt.layoutAll site.dialect (out (site.topLevel t name) s))).error = none ↔ t.Movable site.dialect site.mode name) ∧
      ∀ u : WireType, u.Renders site.dialect ↔ u.Spellable := by
  refine ⟨?_, renders_iff site.dialect⟩
  rw [Stmt.run_error site.dialect (site.topLevel_unlabelled t name s) hp, site.topLevel_failures_eq_none_iff t name s, movable_iff]

/-- An array of arrays is walked through as a member, unless loops are left by breaking out of them, and refused as a variable. -/
theorem transfer_succeeds_iff_nested :
    let cells : WireType := .array (.array .string "3") "2"
    let row : WireType := .struct "::Row" [("cells", cells)]
    let error (t : WireType) (name : String) (mode : Unwind) : Option Error :=
      (Layout.runAll {} (Stmt.layoutAll {} (out (Site.topLevel { buffer := { name := "parcel" }, mode } t name) none))).error
    ({} : Printer).Unfailing ∧ error row "row" .goto = none ∧ error row "row" .exit ≠ none ∧ error cells "cells" .goto ≠ none := by
  intro cells row error
  let site (mode : Unwind) : Site := { buffer := { name := "parcel" }, mode }
  refine ⟨Printer.unfailing_new, ?_, ?_, ?_⟩
  · refine (transfer_succeeds_iff (site .goto) row "row" none Printer.unfailing_new).1.mpr ((movable_iff _ _ _ _).mpr ?_)
    decide +kernel
  · refine mt (transfer_succeeds_iff (site .exit) row "row" none Printer.unfailing_new).1.mp (mt (movable_iff _ _ _ _).mp ?_)
    decide +kernel
  · refine mt (transfer_succeeds_iff (site .goto) cells "cells" none Printer.unfailing_new).1.mp (mt (movable_iff _ _ _ _).mp ?_)
    decide +kernel

end Parcelgen

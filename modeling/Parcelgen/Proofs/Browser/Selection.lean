import Parcelgen.Browser.View

/-!
The selection of the browser. Rows of the list, the head of the code and the entry that is opened are all looked up by index, and nothing checks
these indices where they are used. They are in range because every message keeps `Sound`: the visible entries are those that pass the
filter as it stands, and the selection is one of them unless there are none. What a key does to the filter line does not matter for this, as
the visible entries are found again after each key that reaches the line.
-/

namespace Parcelgen.Browser

theorem occursIn_iff (part : List Char) : ∀ cs : List Char, occursIn part cs = true ↔ part <:+: cs
  | [] => by simp [occursIn]
  | c :: cs => by
    rw [occursIn, Bool.or_eq_true, List.isPrefixOf_iff_prefix, occursIn_iff part cs, List.infix_cons_iff]

/-- The title holds the filter, both in lower case and the filter without blanks around it. -/
def Matches (filter : String) (e : Entry) : Prop := (Text.lower (Text.trim filter)).toList <:+: (Text.lower e.title).toList

theorem passes_iff (filter : String) (e : Entry) : passes filter e.title = true ↔ Matches filter e := occursIn_iff _ _

theorem mem_passing_iff (filter : String) (es : List Entry) (start i : Nat) :
    i ∈ passing filter start es ↔ ∃ j e, i = start + j ∧ es[j]? = some e ∧ Matches filter e := by
  induction es generalizing start with
  | nil => simp [passing]
  | cons e es ih =>
    have hrest : i ∈ passing filter (start + 1) es ↔ ∃ j f, i = start + (j + 1) ∧ (e :: es)[j + 1]? = some f ∧ Matches filter f := by
      simp only [ih, List.getElem?_cons_succ, Nat.add_assoc, Nat.add_comm 1]
    rw [passing]
    by_cases hpasses : passes filter e.title = true
    · rw [if_pos hpasses, List.mem_cons, hrest]
      constructor
      · rintro (rfl | ⟨j, f, hj, hf, hmatches⟩)
        · exact ⟨0, e, rfl, rfl, (passes_iff filter e).mp hpasses⟩
        · exact ⟨j + 1, f, hj, hf, hmatches⟩
      · rintro ⟨j, f, hj, hf, hmatches⟩
        cases j with
        | zero => exact .inl hj
        | succ j => exact .inr ⟨j, f, hj, hf, hmatches⟩
    · rw [if_neg hpasses, hrest]
      constructor
      · rintro ⟨j, f, hj, hf, hmatches⟩
        exact ⟨j + 1, f, hj, hf, hmatches⟩
      · rintro ⟨j, f, hj, hf, hmatches⟩
        cases j with
        | zero =>
          obtain rfl : e = f := by simpa using hf
          exact absurd ((passes_iff filter e).mpr hmatches) hpasses
        | succ j => exact ⟨j, f, hj, hf, hmatches⟩

theorem passing_pairwise (filter : String) (es : List Entry) (start : Nat) : (passing filter start es).Pairwise (· < ·) := by
  induction es generalizing start with
  | nil => exact .nil
  | cons e es ih =>
    rw [passing]
    split
    · refine .cons (fun i hi => ?_) (ih (start + 1))
      obtain ⟨j, -, rfl, -⟩ := (mem_passing_iff filter es (start + 1) i).mp hi
      omega
    · exact ih (start + 1)

namespace Model

/-- The indices of the visible entries are those of the entries that the filter leaves, in order. -/
structure Lists (m : Model) : Prop where
  sorted : m.visible.Pairwise (· < ·)
  mem : ∀ i, i ∈ m.visible ↔ ∃ e, m.entries[i]? = some e ∧ Matches m.filterText e

structure Sound (p : Package) (m : Model) : Prop where
  entries : m.entries = Entry.ofPackage p
  lists : m.Lists
  selected : m.selected < m.visible.length ∨ m.selected = 0 ∧ m.visible.length = 0
  /-- Code is shown only of an entry. -/
  code : m.mode = .code → m.visible ≠ []
  /-- An error takes the place of the code. -/
  error : m.error.isSome = true → m.mode = .code

theorem lists_applyFilter (m : Model) : m.applyFilter.Lists where
  sorted := passing_pairwise m.filterText m.entries 0
  mem i := by
    show i ∈ passing m.filterText 0 m.entries ↔ _
    rw [mem_passing_iff]
    constructor
    · rintro ⟨j, e, hj, he, hmatches⟩
      obtain rfl : i = j := by omega
      exact ⟨e, he, hmatches⟩
    · rintro ⟨e, he, hmatches⟩
      exact ⟨i, e, (Nat.zero_add i).symm, he, hmatches⟩

theorem selected_applyFilter (m : Model) :
    m.applyFilter.selected < m.applyFilter.visible.length ∨ m.applyFilter.selected = 0 ∧ m.applyFilter.visible.length = 0 := by
  show min m.selected ((passing m.filterText 0 m.entries).length - 1) < (passing m.filterText 0 m.entries).length ∨
    min m.selected ((passing m.filterText 0 m.entries).length - 1) = 0 ∧ (passing m.filterText 0 m.entries).length = 0
  omega

/-- Finding the visible entries again makes the list sound, whatever it was, as long as no code is shown. -/
theorem sound_applyFilter {p : Package} {m : Model} (hentries : m.entries = Entry.ofPackage p) (hmode : m.mode ≠ .code)
    (herror : m.error = none) : m.applyFilter.Sound p where
  entries := hentries
  lists := m.lists_applyFilter
  selected := m.selected_applyFilter
  code h := absurd h hmode
  error h := by
    have hnone : m.applyFilter.error = none := herror
    simp [hnone] at h

theorem sound_start (g : Generator) (p : Package) : (start g p).Sound p := sound_applyFilter rfl (by simp) rfl

namespace Sound

variable {p : Package} {m : Model}

theorem error_eq_none (h : m.Sound p) (hmode : m.mode ≠ .code) : m.error = none := by
  cases herror : m.error with
  | none => rfl
  | some e => exact absurd (h.error (by simp [herror])) hmode

theorem selected_lt (h : m.Sound p) (hvisible : m.visible ≠ []) : m.selected < m.visible.length := by
  have hpos := List.length_pos_iff.mpr hvisible
  rcases h.selected with hlt | ⟨-, hzero⟩
  · exact hlt
  · omega

/-- Every row of the list has an entry. -/
theorem row (h : m.Sound p) {i : Nat} (hi : i ∈ m.visible) : i < m.entries.length := by
  obtain ⟨e, he, -⟩ := (h.lists.mem i).mp hi
  exact (List.getElem?_eq_some_iff.mp he).1

/-- If there are visible entries, one of them is selected. -/
theorem current (h : m.Sound p) (hvisible : m.visible ≠ []) : ∃ e, m.current? = some e := by
  have hlt := h.selected_lt hvisible
  obtain ⟨e, he, -⟩ := (h.lists.mem _).mp (List.getElem_mem hlt)
  exact ⟨e, by simp [current?, List.getElem?_eq_getElem hlt, he]⟩

/-- What does not touch the list keeps it sound; the selection may move up, or down to another row. -/
theorem update {m' : Model} (h : m.Sound p) (hentries : m'.entries = m.entries) (hvisible : m'.visible = m.visible)
    (htext : m'.filter.text = m.filter.text) (hselected : m'.selected ≤ m.selected ∨ m'.selected < m.visible.length)
    (hcode : m'.mode = .code → m.visible ≠ []) (herror : m'.error.isSome = true → m'.mode = .code) : m'.Sound p where
  entries := hentries.trans h.entries
  lists := ⟨hvisible ▸ h.lists.sorted, by rw [hvisible, hentries, filterText, htext]; exact h.lists.mem⟩
  selected := by
    have hold := h.selected
    rw [hvisible]
    omega
  code hmode := hvisible ▸ hcode hmode
  error := herror

theorem openCode (h : m.Sound p) : m.openCode.Sound p := by
  unfold Model.openCode
  split
  · exact h
  · rename_i e hcurrent
    have hvisible : m.visible ≠ [] := by
      intro hempty
      simp [current?, hempty] at hcurrent
    split
    · exact h.update rfl rfl rfl (.inl (Nat.le_refl _)) (fun _ => hvisible) (fun _ => rfl)
    · exact h.update rfl rfl rfl (.inl (Nat.le_refl _)) (fun _ => hvisible) (fun _ => rfl)

theorem pressInList (h : m.Sound p) (hmode : m.mode ≠ .code) (k : Key) : (m.pressInList k).Sound p := by
  unfold Model.pressInList
  split
  -- Up, by either of two keys.
  · exact h.update rfl rfl rfl (.inl (Nat.sub_le _ _)) h.code h.error
  · exact h.update rfl rfl rfl (.inl (Nat.sub_le _ _)) h.code h.error
  -- Down, unless the last row is selected.
  · split
    · rename_i hlt
      exact h.update rfl rfl rfl (.inr hlt) h.code h.error
    · exact h
  · split
    · rename_i hlt
      exact h.update rfl rfl rfl (.inr hlt) h.code h.error
    · exact h
  -- To the filter line.
  · refine h.update rfl rfl rfl (.inl (Nat.le_refl _)) (fun hcode => by cases hcode) fun herror => ?_
    rw [h.error_eq_none hmode] at herror
    cases herror
  · exact h.openCode
  · exact h

theorem pressInFilter (h : m.Sound p) (hmode : m.mode ≠ .code) (edit : Key → FilterInput → FilterInput) (k : Key) :
    (m.pressInFilter edit k).Sound p := by
  have herror := h.error_eq_none hmode
  have hleft : ({ m with mode := .list, filter := { m.filter with focused := false } } : Model).Sound p := by
    refine h.update rfl rfl rfl (.inl (Nat.le_refl _)) (fun hcode => by cases hcode) fun hsome => ?_
    rw [herror] at hsome
    cases hsome
  unfold Model.pressInFilter
  split
  · exact hleft
  · exact hleft
  · exact h
  · exact sound_applyFilter h.entries hmode herror

theorem pressInCode (h : m.Sound p) (hmode : m.mode = .code) (k : Key) : (m.pressInCode k).Sound p := by
  have hvisible := h.code hmode
  have hleft : ({ m with mode := .list, error := none } : Model).Sound p :=
    h.update rfl rfl rfl (.inl (Nat.le_refl _)) (fun _ => hvisible) fun hsome => by cases hsome
  unfold Model.pressInCode
  split
  · exact h
  · exact h
  · exact hleft
  · exact hleft
  · exact h.update rfl rfl rfl (.inl (Nat.le_refl _)) h.code h.error

theorem stepWith (h : m.Sound p) (edit : Key → FilterInput → FilterInput) (msg : Message) : (m.stepWith edit msg).Sound p := by
  cases msg with
  | resize width height => exact h.update rfl rfl rfl (.inl (Nat.le_refl _)) h.code h.error
  | key k =>
    unfold Model.stepWith
    cases hmode : m.mode with
    | list => exact h.pressInList (by simp [hmode]) k
    | filter => exact h.pressInFilter (by simp [hmode]) edit k
    | code => exact h.pressInCode hmode k

end Sound

/-- The browser after messages, each with what the filter line then makes of a key. -/
def runWith (m : Model) (run : List ((Key → FilterInput → FilterInput) × Message)) : Model :=
  run.foldl (fun m s => m.stepWith s.1 s.2) m

theorem Sound.runWith {p : Package} {m : Model} (h : m.Sound p) (run : List ((Key → FilterInput → FilterInput) × Message)) :
    (m.runWith run).Sound p := by
  induction run generalizing m with
  | nil => exact h
  | cons s run ih => exact ih (h.stepWith s.1 s.2)

/-- Whatever messages arrive and whatever the filter line makes of them, the browser stays sound. So every row of the list has an entry, code is
shown of the selected entry, and the key that opens an entry finds one as long as any is visible. -/
theorem lookups_in_range (g : Generator) (p : Package) (run : List ((Key → FilterInput → FilterInput) × Message)) :
    let m := (start g p).runWith run
    m.Sound p ∧ (∀ i ∈ m.visible, i < m.entries.length) ∧ (m.mode = .code → ∃ e, m.current? = some e) ∧
      ∀ k : Key, k.name = "enter" → m.mode = .list → m.visible ≠ [] →
        ∃ e, m.current? = some e ∧ (m.step (.key k)).mode = .code := by
  intro m
  have h : m.Sound p := (sound_start g p).runWith run
  refine ⟨h, fun i => h.row, fun hmode => h.current (h.code hmode), fun k hk hmode hvisible => ?_⟩
  obtain ⟨e, he⟩ := h.current hvisible
  refine ⟨e, he, ?_⟩
  have hstep : m.step (.key k) = m.openCode := by simp [step, stepWith, hmode, Model.pressInList, hk]
  rw [hstep, Model.openCode, he]
  cases hcode : e.code m.generator <;> simp [hcode]

/-- Three keys narrow the list of two entries to the second one, and a fourth opens it. -/
theorem lookups_in_range_narrowed :
    let g : Generator := { ({} : Options) with dialect := {} }
    let p : Package := { name := "store", types := [.struct "::Bag" [("size", .scalar .uint32)], .enum "::Kind" .uint8 [("A", "")]] }
    let press (name : String) : Message := .key { name, typed := name.toList }
    let m := (start g p).runWith (["/", "K", "enter"].map fun name => (FilterInput.press, press name))
    m.mode = .list ∧ m.visible = [1] ∧ ∃ e, m.current? = some e ∧ (m.step (press "enter")).mode = .code := by
  intro g p press m
  have hmode : m.mode = .list := by decide +kernel
  have hvisible : m.visible = [1] := by decide +kernel
  have hne : m.visible ≠ [] := by
    rw [hvisible]
    exact List.cons_ne_nil _ _
  exact ⟨hmode, hvisible, (lookups_in_range g p _).2.2.2 { name := "enter", typed := "enter".toList } rfl hmode hne⟩

end Model

end Parcelgen.Browser

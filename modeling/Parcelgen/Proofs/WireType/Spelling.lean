import Parcelgen.WireType.Render

/-!
Spelling a type into a place for its suffix. A place that is not empty is refused and kept; an empty one is filled by arrays only, and stays
empty when spelling fails, however deep in the chain of elements the fault arises. Whether a type has a spelling is the same in all known
modes, and its spellings follow from that of a local variable (`spellInto_across_modes`).
-/

namespace Parcelgen

namespace WireType

theorem from_whenEmpty (t : WireType) (m : Placing String) : (whenEmpty t m).from "" = m.from "" := rfl

theorem from_whenEmpty_of_ne (t : WireType) (m : Placing String) {suffix : String} (h : suffix ≠ "") :
    (whenEmpty t m).from suffix = (.error (.nonEmptySuffix t.text suffix), suffix) := by
  have hne : (suffix != "") = true := by simpa using h
  show Placing.from (if suffix != "" then throw (.nonEmptySuffix t.text suffix) else m) suffix = _
  rw [if_pos hne]
  rfl

/-- An element that is spelled into a place of its own, for a type that goes on with its name. -/
theorem from_elementName {element : Placing String} {spelled : Except Fault Spelling} (h : element.from "" = (put spelled).from "")
    (whole : WireType) (finish : String → Except Fault Spelling) :
    Placing.from (do
        let name ← elementName whole element
        put (finish name)) "" =
      (put do
        let e ← spelled
        if e.suffix != "" then throw (.nonEmptySuffix whole.text e.suffix)
        finish e.name).from "" := by
  unfold elementName
  cases spelled with
  | error f =>
    rw [show element.from "" = (.error f, "") from h]
    rfl
  | ok e =>
    rw [show element.from "" = (.ok e.name, e.suffix) from h]
    show Placing.from ((if e.suffix != "" then throw (.nonEmptySuffix whole.text e.suffix) else pure e.name) >>= fun name => put (finish name)) "" =
      (put (if e.suffix != "" then (throw (.nonEmptySuffix whole.text e.suffix) >>= fun (_ : Unit) => finish e.name) else finish e.name)).from ""
    by_cases hsuffix : (e.suffix != "") = true
    · rw [if_pos hsuffix, if_pos hsuffix]
      rfl
    · rw [if_neg hsuffix, if_neg hsuffix]
      rfl

/-- Into an empty place goes the suffix of the type's spelling. -/
theorem from_spellInto (d : Dialect) : ∀ (t : WireType) (mode : StorageMode),
    (t.spellInto d mode).from "" = (put (t.spell d mode)).from ""
  | .absent, _ => rfl
  | .scalar s, mode => by
    rw [spellInto, from_whenEmpty, spell]
    cases s.isKnown <;> rfl
  | .enum _ _ _, _ | .string, _ | .struct _ _, _ | .interface _, _ => rfl
  | .vector elem, mode => by
    rw [spellInto, from_whenEmpty, spell]
    cases elem.isAbsent with
    | true => rfl
    | false => exact from_elementName (from_spellInto d elem .stack) _ _
  | .array elem dim, mode => by
    rw [spellInto, from_whenEmpty, spell]
    cases elem.isAbsent with
    | true => rfl
    | false => exact from_elementName (from_spellInto d elem .stack) _ _

/-- How a type is spelled through its element: the element's name is passed on, and a suffix would be lost. -/
def throughElement (d : Dialect) (elem whole : WireType) (absent : Fault) (pass : String → StorageMode → Except Fault Spelling)
    (mode : StorageMode) : Except Fault Spelling :=
  if elem.isAbsent then .error absent
  else do
    let e ← elem.spell d .stack
    if e.suffix != "" then throw (.nonEmptySuffix whole.text e.suffix)
    pass e.name mode

theorem spell_vector (d : Dialect) (elem : WireType) (mode : StorageMode) :
    (vector elem).spell d mode = throughElement d elem (.vector elem) (.nilElement .render (vector elem).text)
      (fun name => byReference (.vector elem) (d.vectorTemplate ++ "<" ++ name ++ ">")) mode := rfl

theorem spell_array (d : Dialect) (elem : WireType) (dim : String) (mode : StorageMode) :
    (array elem dim).spell d mode = throughElement d elem (.array elem dim) (.nilElement .render (array elem dim).text)
      (fun name => byElement (.array elem dim) name dim) mode := rfl

/-- Why a type cannot be spelled through its element. -/
def ElementFault (d : Dialect) (elem whole : WireType) (absent f : Fault) : Prop :=
  elem.isAbsent = true ∧ f = absent ∨ elem.spell d .stack = .error f ∨ ∃ suffix, f = .nonEmptySuffix whole.text suffix

/-- A type that is spelled through its element fails in all modes alike, or is passed in each of them under the element's name. -/
theorem throughElement_cases (d : Dialect) (elem whole : WireType) (absent : Fault) (pass : String → StorageMode → Except Fault Spelling) :
    (∃ f, ElementFault d elem whole absent f ∧ ∀ mode, throughElement d elem whole absent pass mode = .error f) ∨
      ∃ name, ∀ mode, throughElement d elem whole absent pass mode = pass name mode := by
  unfold throughElement
  cases habsent : elem.isAbsent with
  | true => exact .inl ⟨absent, .inl ⟨habsent, rfl⟩, fun _ => rfl⟩
  | false =>
    cases helem : elem.spell d .stack with
    | error f => exact .inl ⟨f, .inr (.inl helem), fun _ => rfl⟩
    | ok e =>
      by_cases hsuffix : e.suffix = ""
      · exact .inr ⟨e.name, fun mode => by simp [hsuffix, bind, Except.bind]⟩
      · refine .inl ⟨.nonEmptySuffix whole.text e.suffix, .inr (.inr ⟨_, rfl⟩), fun mode => ?_⟩
        simp [hsuffix, bind, Except.bind, throw, throwThe, MonadExceptOf.throw]

/-- A type fails in all modes alike, or there is a name under which it is passed the way of its kind. -/
theorem spell_cases (d : Dialect) (t : WireType) :
    (∃ f, ∀ mode, t.spell d mode = .error f) ∨
      (∃ b, (t.kind? = some .scalar ∨ t.kind? = some .enum) ∧ ∀ mode, t.spell d mode = byValue t b mode) ∨
      (∃ b, (t.kind? = some .string ∨ t.kind? = some .struct ∨ t.kind? = some .vector) ∧ ∀ mode, t.spell d mode = byReference t b mode) ∨
      (∃ b, t.kind? = some .interface ∧ ∀ mode, t.spell d mode = byHandle t b mode) ∨
      ∃ b elem dim, t = .array elem dim ∧ ∀ mode, t.spell d mode = byElement t b dim mode := by
  cases t with
  | absent => exact .inl ⟨_, fun _ => rfl⟩
  | scalar k =>
    cases hk : k.isKnown with
    | true => exact .inr (.inl ⟨k.ctype, .inl rfl, fun mode => by simp [spell, hk]⟩)
    | false => exact .inl ⟨.unknownKind .render k.name, fun mode => by simp [spell, hk]⟩
  | enum n _ _ => exact .inr (.inl ⟨n, .inr rfl, fun _ => rfl⟩)
  | string => exact .inr (.inr (.inl ⟨d.stringType, .inl rfl, fun _ => rfl⟩))
  | struct n _ => exact .inr (.inr (.inl ⟨n, .inr (.inl rfl), fun _ => rfl⟩))
  | interface n => exact .inr (.inr (.inr (.inl ⟨d.strongPointerTo n, rfl, fun _ => rfl⟩)))
  | vector elem =>
    simp only [spell_vector]
    rcases throughElement_cases d elem (.vector elem) _ _ with ⟨f, -, hf⟩ | ⟨name, hname⟩
    · exact .inl ⟨f, hf⟩
    · exact .inr (.inr (.inl ⟨_, .inr (.inr rfl), hname⟩))
  | array elem dim =>
    simp only [spell_array]
    rcases throughElement_cases d elem (.array elem dim) _ _ with ⟨f, -, hf⟩ | ⟨name, hname⟩
    · exact .inl ⟨f, hf⟩
    · exact .inr (.inr (.inr (.inr ⟨name, elem, dim, rfl, hname⟩)))

/-- The spellings of a type in the known modes, told from the name `b` and the suffix `s` of a local variable. -/
structure AcrossModes (t : WireType) (spelled : StorageMode → Except Fault String × String) (b s : String) : Prop where
  stack : spelled .stack = (.ok b, s)
  suffix : s ≠ "" ↔ t.kind? = some .array
  dimension : ∀ elem dim, t = .array elem dim → s = "[" ++ dim ++ "]"
  value : t.kind? = some .scalar ∨ t.kind? = some .enum → spelled .argument = (.ok b, "") ∧ spelled .result = (.ok b, "")
  reference : t.kind? = some .string ∨ t.kind? = some .struct ∨ t.kind? = some .vector →
    spelled .argument = (.ok ("const " ++ b ++ "&"), "") ∧ spelled .result = (.ok ("const " ++ b ++ "*"), "")
  handle : t.kind? = some .interface → spelled .argument = (.ok ("const " ++ b ++ "&"), "") ∧ spelled .result = (.ok b, "")
  array : t.kind? = some .array → spelled .argument = (.ok ("const " ++ b), s) ∧ spelled .result = (.ok ("const " ++ b ++ "*"), "")

theorem acrossModes_of_not_array {t : WireType} {spelled : StorageMode → Except Fault String × String} {b : String}
    (hkind : t.kind? ≠ some .array) (stack : spelled .stack = (.ok b, ""))
    (value : t.kind? = some .scalar ∨ t.kind? = some .enum → spelled .argument = (.ok b, "") ∧ spelled .result = (.ok b, ""))
    (reference : t.kind? = some .string ∨ t.kind? = some .struct ∨ t.kind? = some .vector →
      spelled .argument = (.ok ("const " ++ b ++ "&"), "") ∧ spelled .result = (.ok ("const " ++ b ++ "*"), ""))
    (handle : t.kind? = some .interface → spelled .argument = (.ok ("const " ++ b ++ "&"), "") ∧ spelled .result = (.ok b, "")) :
    t.AcrossModes spelled b "" := by
  refine ⟨stack, by simp [hkind], ?_, value, reference, handle, fun h => absurd h hkind⟩
  intro elem dim ht
  exact absurd (by rw [ht, kind?]) hkind

theorem known_modes_agree (d : Dialect) (t : WireType) :
    (∃ f, ∀ mode ∈ StorageMode.all, (put (t.spell d mode)).from "" = (.error f, "")) ∨
      ∃ b s, t.AcrossModes (fun mode => (put (t.spell d mode)).from "") b s := by
  rcases spell_cases d t with ⟨f, hf⟩ | ⟨b, hkind, hb⟩ | ⟨b, hkind, hb⟩ | ⟨b, hkind, hb⟩ | ⟨b, elem, dim, rfl, hb⟩
  · refine .inl ⟨f, fun mode _ => ?_⟩
    rw [hf]
    rfl
  -- In each of the other cases the kind decides which field is not vacuous.
  all_goals
    right
    simp only [hb]
  · exact ⟨b, "", acrossModes_of_not_array (by grind) rfl (fun _ => ⟨rfl, rfl⟩) (by grind) (by grind)⟩
  · exact ⟨b, "", acrossModes_of_not_array (by grind) rfl (by grind) (fun _ => ⟨rfl, rfl⟩) (by grind)⟩
  · exact ⟨b, "", acrossModes_of_not_array (by grind) rfl (by grind) (by grind) fun _ => ⟨rfl, rfl⟩⟩
  · refine ⟨b, "[" ++ dim ++ "]", rfl, ?_, ?_, by simp [kind?], by simp [kind?], by simp [kind?], fun _ => ⟨rfl, rfl⟩⟩
    · simp [kind?, ← String.toList_inj]
    · intro elem' dim' h
      cases h
      rfl

/-- An empty place stays empty when spelling fails. The known modes fail alike, or spell alike up to how the kind is passed. A place that is not
empty is refused as it is. -/
theorem spellInto_across_modes (d : Dialect) (t : WireType) :
    (∀ mode f left, (t.spellInto d mode).from "" = (.error f, left) → left = "") ∧
      ((∃ f, ∀ mode ∈ StorageMode.all, (t.spellInto d mode).from "" = (.error f, "")) ∨
        ∃ b s, t.AcrossModes (fun mode => (t.spellInto d mode).from "") b s) ∧
      ∀ mode suffix, suffix ≠ "" → ∃ f, (t.spellInto d mode).from suffix = (.error f, suffix) := by
  simp only [from_spellInto]
  refine ⟨?_, known_modes_agree d t, ?_⟩
  · intro mode f left h
    cases hs : t.spell d mode with
    | error g =>
      rw [hs] at h
      cases h
      rfl
    | ok s =>
      rw [hs] at h
      cases h
  · intro mode suffix hne
    unfold spellInto
    exact ⟨_, from_whenEmpty_of_ne t _ hne⟩

/-- An array of vectors in all modes, a vector of such arrays, which has no spelling, and a place that is not empty. -/
theorem spellInto_across_modes_table :
    let t : WireType := .array (.vector .string) "kMax"
    let base := "::android::hardware::hidl_vec<::android::hardware::hidl_string>"
    (t.spellInto {} .stack).from "" = (.ok base, "[kMax]") ∧
      (t.spellInto {} .argument).from "" = (.ok ("const " ++ base), "[kMax]") ∧
      (t.spellInto {} .result).from "" = (.ok ("const " ++ base ++ "*"), "") ∧
      (∃ f, ((vector t).spellInto {} .result).from "" = (.error f, "")) ∧
      ∃ f, (t.spellInto {} .stack).from "[2]" = (.error f, "[2]") := by
  intro t base
  have hstack : (t.spellInto {} .stack).from "" = (.ok base, "[kMax]") := rfl
  obtain ⟨-, hmodes, hrefused⟩ := spellInto_across_modes {} t
  rcases hmodes with ⟨f, hf⟩ | ⟨b, s, hmodes⟩
  · rw [hf .stack (by decide)] at hstack
    cases hstack
  · obtain ⟨rfl, rfl⟩ : b = base ∧ s = "[kMax]" := by simpa [hstack, eq_comm] using hmodes.stack
    obtain ⟨hargument, hresult⟩ := hmodes.array rfl
    refine ⟨hstack, hargument, hresult, ?_, hrefused .stack "[2]" (by decide)⟩
    rcases (spellInto_across_modes {} (vector t)).2.1 with ⟨f, hf⟩ | ⟨b, s, hvector⟩
    · exact ⟨f, hf .result (by decide)⟩
    · have hfails : ((vector t).spellInto {} .stack).from "" ≠ (.ok b, s) := by
        intro h
        cases h
      exact absurd hvector.stack hfails

end WireType

end Parcelgen

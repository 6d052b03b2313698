import Parcelgen.Text.Identifier
import Parcelgen.Text.Qualified

/-!
Names joined by `::`. Reading components from the left and looking for the last separator agree as long as no component holds a colon; then
joining undoes splitting, and splitting undoes joining.
-/

namespace Parcelgen.Text

theorem componentChars_ne_nil (cs : List Char) : componentChars cs ≠ [] := by
  fun_cases componentChars cs <;> simp_all

theorem componentChars_cons {c : Char} (hc : c ≠ ':') {cs part : List Char} {more : List (List Char)}
    (h : componentChars cs = part :: more) : componentChars (c :: cs) = (c :: part) :: more := by
  rw [componentChars, h]
  intro rest hcolon
  exact absurd hcolon hc

theorem componentChars_of_plain {cs : List Char} (h : ':' ∉ cs) : componentChars cs = [cs] := by
  induction cs with
  | nil => rfl
  | cons c cs ih =>
    obtain ⟨hc, hcs⟩ := not_or.mp (mt List.mem_cons.mpr h)
    exact componentChars_cons (Ne.symm hc) (ih hcs)

/-- A component without colons ends at the next separator. -/
theorem componentChars_append {part : List Char} (h : ':' ∉ part) (cs : List Char) :
    componentChars (part ++ ':' :: ':' :: cs) = part :: componentChars cs := by
  induction part with
  | nil => rfl
  | cons c part ih =>
    obtain ⟨hc, hpart⟩ := not_or.mp (mt List.mem_cons.mpr h)
    exact componentChars_cons (Ne.symm hc) (ih hpart)

theorem join_cons {part : List Char} {parts : List (List Char)} (h : parts ≠ []) :
    [':', ':'].intercalate (part :: parts) = part ++ ':' :: ':' :: [':', ':'].intercalate parts := by
  obtain ⟨next, more, rfl⟩ := List.exists_cons_of_ne_nil h
  simp [List.intercalate_cons_cons]

/-- Only the last component may hold separators: it is split further. -/
theorem componentChars_join {parts : List (List Char)} (h : ∀ part ∈ parts, ':' ∉ part) (last : List Char) :
    componentChars ([':', ':'].intercalate (parts ++ [last])) = parts ++ componentChars last := by
  induction parts with
  | nil => rw [List.nil_append, List.intercalate_singleton, List.nil_append]
  | cons part parts ih =>
    have hparts := ih fun q hq => h q (List.mem_cons_of_mem part hq)
    rw [List.cons_append, join_cons (by simp), componentChars_append (h part List.mem_cons_self), hparts, List.cons_append]

theorem join_componentChars (cs : List Char) : [':', ':'].intercalate (componentChars cs) = cs := by
  fun_induction componentChars cs with
  | case1 => rfl
  | case2 cs ih => rw [join_cons (componentChars_ne_nil cs), ih, List.nil_append]
  | case3 c cs hcolons part more hparts ih =>
    rw [hparts] at ih
    cases more with
    | nil => simpa using ih
    | cons next more =>
      rw [join_cons (List.cons_ne_nil _ _)] at ih ⊢
      rw [List.cons_append, ih]
  | case4 c cs hcolons hparts => exact absurd hparts (componentChars_ne_nil cs)

theorem components_of_plain {s : String} (h : ':' ∉ s.toList) : components s = [s] := by
  rw [components, componentChars_of_plain h]
  simp

theorem join_components (s : String) : "::".intercalate (components s) = s := by
  rw [← String.toList_inj, String.toList_intercalate, components, List.map_map]
  simpa [Function.comp_def] using join_componentChars s.toList

theorem components_join {parts : List String} (h : ∀ part ∈ parts, ':' ∉ part.toList) (last : String) :
    components ("::".intercalate (parts ++ [last])) = parts ++ components last := by
  have hchars : ∀ part ∈ parts.map String.toList, ':' ∉ part := by simpa using h
  have hjoin := componentChars_join hchars last.toList
  rw [components, String.toList_intercalate, List.map_append]
  simpa [components, Function.comp_def] using congrArg (List.map String.ofList) hjoin

theorem afterLastColons_of_plain {cs : List Char} (h : ':' ∉ cs) : afterLastColons cs = none := by
  induction cs with
  | nil => rfl
  | cons c cs ih =>
    obtain ⟨hc, hcs⟩ := not_or.mp (mt List.mem_cons.mpr h)
    simp [afterLastColons, ih hcs, Ne.symm hc]

theorem afterLastColons_append (front : List Char) {last : List Char} (h : ':' ∉ last) :
    afterLastColons (front ++ ':' :: ':' :: last) = some last := by
  induction front with
  | nil =>
    have hhead : last.head? ≠ some ':' := fun hhead => h (List.mem_of_head? hhead)
    simp [afterLastColons, afterLastColons_of_plain h, hhead]
  | cons c front ih => rw [List.cons_append, afterLastColons, ih]

/-- The search for the last separator finds the last component. -/
theorem localName_append (front : String) {last : String} (h : ':' ∉ last.toList) : localName (front ++ "::" ++ last) = last := by
  have hchars : (front ++ "::" ++ last).toList = front.toList ++ ':' :: ':' :: last.toList := by simp
  rw [localName, hchars, afterLastColons_append _ h]
  simp

theorem continuesIdentifier_of_mem {s : String} (h : isIdentifier s = true) : ∀ c ∈ s.toList, continuesIdentifier c = true := by
  unfold isIdentifier at h
  split at h
  · cases h
  · rename_i c cs hs
    rw [Bool.and_eq_true, List.all_eq_true] at h
    rw [hs]
    rintro d hd
    rcases List.mem_cons.mp hd with rfl | hd
    · simp [continuesIdentifier, h.1]
    · exact h.2 d hd

theorem notMem_of_isIdentifier {s : String} (h : isIdentifier s = true) {c : Char} (hc : continuesIdentifier c = false) : c ∉ s.toList := by
  intro hmem
  have hcontinues := continuesIdentifier_of_mem h c hmem
  rw [hc] at hcontinues
  cases hcontinues

theorem colon_notMem_of_isIdentifier {s : String} (h : isIdentifier s = true) : ':' ∉ s.toList :=
  notMem_of_isIdentifier h (by decide +kernel)

/-- A namespace: identifiers between `::`, or nothing. -/
def IsSpace (s : String) : Prop := ∃ parts : List String, (∀ part ∈ parts, isIdentifier part = true) ∧ s = "::".intercalate parts

theorem isSpace_iff (s : String) : IsSpace s ↔ s = "" ∨ ∀ part ∈ components s, isIdentifier part = true := by
  constructor
  · rintro ⟨parts, hparts, rfl⟩
    rcases List.eq_nil_or_concat parts with rfl | ⟨front, last, rfl⟩
    · exact .inl (by simp)
    · right
      rw [List.concat_eq_append] at hparts ⊢
      have hplain : ∀ part ∈ front ++ [last], ':' ∉ part.toList := fun part hpart => colon_notMem_of_isIdentifier (hparts part hpart)
      rw [components_join fun part hpart => hplain part (List.mem_append_left _ hpart), components_of_plain (hplain last (by simp))]
      exact hparts
  · rintro (rfl | hparts)
    · exact ⟨[], by simp, by simp⟩
    · exact ⟨components s, hparts, (join_components s).symm⟩

instance (s : String) : Decidable (IsSpace s) := decidable_of_iff _ (isSpace_iff s).symm

end Parcelgen.Text

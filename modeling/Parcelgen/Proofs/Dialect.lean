import Mathlib.Data.List.Chain
import Mathlib.Data.List.DropRight
import Parcelgen.Dialect

/-!
What identifiers are made of. Of an expression the letters and digits are kept, in their order, and single underscores stand for all else that
comes between them (`Makeup`). A text of that kind is left as it is, so an identifier made from an identifier is the same again, unless
nothing of the expression was kept.
-/

namespace Parcelgen

namespace Dialect

/-- A character as it is kept, before underscores are left out. -/
def underscored (c : Char) : Char := if isWordChar c then c else '_'

/-- No two underscores in a row. -/
def Spaced (cs : List Char) : Prop := cs.IsChain fun a b => ¬(a = '_' ∧ b = '_')

theorem isWordChar_underscore : isWordChar '_' = false := by decide

theorem ne_underscore {c : Char} (h : isWordChar c = true) : c ≠ '_' := by
  rintro rfl
  rw [isWordChar_underscore] at h
  cases h

theorem some_beq_underscore {c : Char} (h : isWordChar c = true) : (some c == some '_') = false := by
  simpa using ne_underscore h

section wordChars

theorem wordChars_plain (after : Bool) (cs : List Char) : ∀ c ∈ wordChars after cs, isWordChar c = true ∨ c = '_' := by
  fun_induction wordChars after cs with
  | case1 => simp
  | case2 after c cs hc ih => exact List.forall_mem_cons.mpr ⟨.inl hc, ih⟩
  | case3 c cs hc ih => exact ih
  | case4 after c cs hc hafter ih => exact List.forall_mem_cons.mpr ⟨.inr rfl, ih⟩

theorem wordChars_sublist (after : Bool) (cs : List Char) : (wordChars after cs).Sublist (cs.map underscored) := by
  fun_induction wordChars after cs with
  | case1 => exact .refl []
  | case2 after c cs hc ih => simpa [underscored, hc] using ih
  | case3 c cs hc ih => exact ih.cons _
  | case4 after c cs hc hafter ih => simpa [underscored, hc] using ih

theorem filter_wordChars (after : Bool) (cs : List Char) : (wordChars after cs).filter isWordChar = cs.filter isWordChar := by
  fun_induction wordChars after cs with
  | case1 => rfl
  | case2 after c cs hc ih => simp [hc, ih]
  | case3 c cs hc ih => simp [hc, ih]
  | case4 after c cs hc hafter ih => simp [hc, ih, isWordChar_underscore]

/-- Behind the character `last`, and further on, underscores stand alone. -/
theorem wordChars_spaced (last : Option Char) (cs : List Char) : Spaced (last.toList ++ wordChars (last == some '_') cs) := by
  induction cs generalizing last with
  | nil => cases last <;> simp [wordChars, Spaced]
  | cons c cs ih =>
    rw [wordChars]
    by_cases hc : isWordChar c = true
    · have hrest : Spaced (c :: wordChars false cs) := some_beq_underscore hc ▸ ih (some c)
      rw [if_pos hc]
      cases last with
      | none => exact hrest
      | some a => exact List.isChain_cons_cons.mpr ⟨fun h => ne_underscore hc h.2, hrest⟩
    · have hrest : Spaced ('_' :: wordChars true cs) := ih (some '_')
      rw [if_neg hc]
      by_cases hlast : last = some '_'
      · subst hlast
        exact hrest
      · rw [if_neg (by simpa using hlast)]
        cases last with
        | none => exact hrest
        | some a => exact List.isChain_cons_cons.mpr ⟨fun h => hlast (by rw [h.1]), hrest⟩

/-- What is plain and spaced already stays as it is. -/
theorem wordChars_eq_self {last : Option Char} {cs : List Char} (hplain : ∀ c ∈ cs, isWordChar c = true ∨ c = '_')
    (hspaced : Spaced (last.toList ++ cs)) : wordChars (last == some '_') cs = cs := by
  induction cs generalizing last with
  | nil => rfl
  | cons c cs ih =>
    obtain ⟨hc, hplain⟩ := List.forall_mem_cons.mp hplain
    have hrest : Spaced (c :: cs) := hspaced.right_of_append
    have hcs : wordChars (some c == some '_') cs = cs := ih hplain hrest
    rw [wordChars]
    rcases hc with hc | rfl
    · rw [if_pos hc, ← some_beq_underscore hc, hcs]
    · have hlast : last ≠ some '_' := by
        rintro rfl
        exact (List.isChain_cons_cons.mp hspaced).1 ⟨rfl, rfl⟩
      rw [if_neg (by decide), if_neg (by simpa using hlast)]
      exact congrArg _ hcs

end wordChars

section trimUnderscores

theorem trimUnderscores_eq (cs : List Char) : trimUnderscores cs = cs.rdropWhile (· == '_') := rfl

/-- Underscores are all that is cut off. -/
theorem exists_trimUnderscores_append (cs : List Char) : ∃ gone, cs = trimUnderscores cs ++ List.replicate gone '_' := by
  refine ⟨(cs.rtakeWhile (· == '_')).length, ?_⟩
  have hcut : cs.rtakeWhile (· == '_') = List.replicate (cs.rtakeWhile (· == '_')).length '_' :=
    List.eq_replicate_iff.mpr ⟨rfl, fun c hc => by simpa using List.mem_rtakeWhile_imp hc⟩
  rw [← hcut, trimUnderscores_eq, List.rdropWhile_append_rtakeWhile]

theorem getLast?_trimUnderscores (cs : List Char) : (trimUnderscores cs).getLast? ≠ some '_' := by
  rw [trimUnderscores_eq]
  intro h
  obtain ⟨hne, hlast⟩ := List.mem_getLast?_eq_getLast h
  exact List.rdropWhile_last_not _ cs hne (by simpa using hlast.symm)

theorem filter_trimUnderscores (cs : List Char) : (trimUnderscores cs).filter isWordChar = cs.filter isWordChar := by
  obtain ⟨gone, hgone⟩ := exists_trimUnderscores_append cs
  nth_rewrite 2 [hgone]
  rw [List.filter_append, List.filter_replicate_of_neg (by decide), List.append_nil]

theorem trimUnderscores_append_of_mem {front back : List Char} (h : ∃ c ∈ back, c ≠ '_') :
    trimUnderscores (front ++ back) = front ++ trimUnderscores back := by
  have hne : (back.reverse.dropWhile (· == '_')).isEmpty = false := by
    simpa using h
  rw [trimUnderscores, List.reverse_append, List.dropWhile_append, hne]
  simp [trimUnderscores]

theorem trimUnderscores_append_of_all {front back : List Char} (h : ∀ c ∈ back, c = '_') :
    trimUnderscores (front ++ back) = trimUnderscores front := by
  have hnil : (back.reverse.dropWhile (· == '_')).isEmpty = true := by
    simpa using h
  rw [trimUnderscores, List.reverse_append, List.dropWhile_append, hnil]
  rfl

theorem trimUnderscores_eq_self {cs : List Char} (h : cs.getLast? ≠ some '_') : trimUnderscores cs = cs := by
  refine List.rdropWhile_eq_self_iff.mpr fun hne hlast => h ?_
  rw [List.getLast?_eq_some_getLast hne]
  simpa using hlast

end trimUnderscores

/-- How the expression `rest`, from which a lead has been taken away already, is put behind the lead: `head` is what stays of the lead and
`words` what is kept of the expression. -/
structure Makeup (lead rest head words : List Char) : Prop where
  /-- The lead loses nothing but underscores at its end, and none where something follows. -/
  shortened : ∃ gone, lead = head ++ List.replicate gone '_' ∧ (words ≠ [] → gone = 0)
  plain : ∀ c ∈ words, isWordChar c = true ∨ c = '_'
  drawn : words.Sublist (rest.map underscored)
  kept : words.filter isWordChar = rest.filter isWordChar
  spaced : Spaced (head.getLast?.toList ++ words ++ ['_'])

/-- An identifier up to its tail. -/
def stem (lead rest : List Char) : List Char := trimUnderscores (lead ++ wordChars (lead.getLast? == some '_') rest)

theorem toList_ident (d : Dialect) (expr tail : String) : (d.ident expr tail).toList =
    stem d.lead.toList (dropLead d.lead.toList expr.toList) ++ if tail = "" then [] else '_' :: tail.toList := by
  unfold ident
  by_cases htail : tail = ""
  · simp [htail, stem]
  · simp [htail, stem]

theorem filter_stem (lead rest : List Char) : (stem lead rest).filter isWordChar = lead.filter isWordChar ++ rest.filter isWordChar := by
  rw [stem, filter_trimUnderscores, List.filter_append, filter_wordChars]

theorem dropLead_append (lead rest : List Char) : dropLead lead (lead ++ rest) = rest := by
  simp [dropLead]

section stem

variable {lead rest : List Char}

/-- Where there is a letter or digit, the whole lead stays, and what follows it does not end with an underscore. -/
theorem stem_of_mem (lead : List Char) (h : ∃ c ∈ rest, isWordChar c = true) :
    ∃ words, words ≠ [] ∧ stem lead rest = lead ++ words ∧ Makeup lead rest lead words := by
  have hkept := filter_wordChars (lead.getLast? == some '_') rest
  have hplain := wordChars_plain (lead.getLast? == some '_') rest
  have hdrawn := wordChars_sublist (lead.getLast? == some '_') rest
  have hspaced := wordChars_spaced lead.getLast? rest
  obtain ⟨c, hc, hword⟩ := h
  have hc : c ∈ (wordChars (lead.getLast? == some '_') rest).filter isWordChar := hkept ▸ List.mem_filter.mpr ⟨hc, hword⟩
  have hstem : stem lead rest = lead ++ trimUnderscores (wordChars (lead.getLast? == some '_') rest) :=
    trimUnderscores_append_of_mem ⟨c, List.mem_of_mem_filter hc, ne_underscore hword⟩
  obtain ⟨gone, hgone⟩ := exists_trimUnderscores_append (wordChars (lead.getLast? == some '_') rest)
  have hlast := getLast?_trimUnderscores (wordChars (lead.getLast? == some '_') rest)
  rw [← filter_trimUnderscores] at hc hkept
  generalize trimUnderscores (wordChars (lead.getLast? == some '_') rest) = words at hc hkept hstem hgone hlast
  rw [hgone] at hplain hdrawn hspaced
  have hne : words ≠ [] := List.ne_nil_of_mem (List.mem_of_mem_filter hc)
  refine ⟨words, hne, hstem, ⟨0, by simp⟩, fun c hc => hplain c (List.mem_append_left _ hc), (List.sublist_append_left _ _).trans hdrawn,
    hkept, ?_⟩
  rw [← List.append_assoc] at hspaced
  refine hspaced.left_of_append.append (.singleton _) ?_
  intro a ha b _ hboth
  rw [List.getLast?_append_of_ne_nil _ hne, hboth.1] at ha
  exact hlast ha

/-- Where there is none, nothing is left but the lead without its last underscores. -/
theorem stem_of_none (lead : List Char) (h : ∀ c ∈ rest, isWordChar c = false) :
    stem lead rest = trimUnderscores lead ∧ Makeup lead rest (trimUnderscores lead) [] := by
  have hkept : rest.filter isWordChar = [] := by simpa using h
  obtain ⟨gone, hgone⟩ := exists_trimUnderscores_append lead
  refine ⟨trimUnderscores_append_of_all fun c hc => ?_, ⟨gone, hgone, fun h => absurd rfl h⟩, by simp, List.nil_sublist _, hkept.symm, ?_⟩
  · rcases wordChars_plain _ rest c hc with hword | hunderscore
    · have hc := List.mem_filter.mpr ⟨hc, hword⟩
      rw [filter_wordChars, hkept] at hc
      cases hc
    · exact hunderscore
  · have hlast := getLast?_trimUnderscores lead
    cases hl : (trimUnderscores lead).getLast? with
    | none => simp [Spaced]
    | some a => simpa [Spaced, hl] using hlast

theorem Makeup.getLast?_ne {head words : List Char} (h : Makeup lead rest head words) (hne : words ≠ []) : words.getLast? ≠ some '_' := by
  intro hlast
  have hjoint := (List.isChain_append.mp h.spaced).2.2 '_' (by rw [List.getLast?_append_of_ne_nil _ hne, hlast]; rfl) '_' rfl
  exact hjoint ⟨rfl, rfl⟩

/-- What has been put together in this way is put together from itself. -/
theorem Makeup.stem_eq {words : List Char} (h : Makeup lead rest lead words) (hne : words ≠ []) : stem lead words = lead ++ words := by
  rw [stem, wordChars_eq_self h.plain h.spaced.left_of_append]
  apply trimUnderscores_eq_self
  rw [List.getLast?_append_of_ne_nil _ hne]
  exact h.getLast?_ne hne

end stem

/-- An identifier is the lead, possibly without its last underscores when nothing of the expression is kept, then the letters and digits of the
expression with single underscores for what stands between them, then an underscore and the tail if there is one. Made again from itself it
stays the same, when something was kept. -/
theorem ident_composition (d : Dialect) (expr tail : String) :
    let lead := d.lead.toList
    let rest := dropLead lead expr.toList
    (∃ head words, Makeup lead rest head words ∧
      (d.ident expr tail).toList = head ++ words ++ if tail = "" then [] else '_' :: tail.toList) ∧
    ((∃ c ∈ rest, isWordChar c = true) → d.ident (d.ident expr "") "" = d.ident expr "") := by
  intro lead rest
  by_cases hword : ∃ c ∈ rest, isWordChar c = true
  · obtain ⟨words, hne, hstem, hmakeup⟩ := stem_of_mem lead hword
    refine ⟨⟨lead, words, hmakeup, by rw [toList_ident, hstem]⟩, fun _ => ?_⟩
    have hident : (d.ident expr "").toList = lead ++ words := by rw [toList_ident, hstem, if_pos rfl, List.append_nil]
    apply String.toList_inj.mp
    rw [toList_ident, hident, dropLead_append, hmakeup.stem_eq hne, if_pos rfl, List.append_nil]
  · have hnone : ∀ c ∈ rest, isWordChar c = false := by simpa using hword
    obtain ⟨hstem, hmakeup⟩ := stem_of_none lead hnone
    exact ⟨⟨trimUnderscores lead, [], hmakeup, by rw [toList_ident, hstem, List.append_nil]⟩, fun h => absurd h hword⟩

/-- Brackets, a lead inside the expression and a letter that is not ASCII, behind a lead without an underscore at its end. -/
theorem ident_composition_element :
    let d : Dialect := { lead := "gen" }
    let expr := "(*entries)[gen_index_1].é"
    (∃ c ∈ dropLead d.lead.toList expr.toList, isWordChar c = true) ∧ d.ident expr "child" = "gen_entries_gen_index_1_child" ∧
      d.ident expr "" = "gen_entries_gen_index_1" ∧ d.ident (d.ident expr "") "" = d.ident expr "" := by
  intro d expr
  have hword : ∃ c ∈ dropLead d.lead.toList expr.toList, isWordChar c = true := ⟨'e', by decide +kernel, by decide⟩
  exact ⟨hword, by decide +kernel, by decide +kernel, (ident_composition d expr "").2 hword⟩

end Dialect

end Parcelgen

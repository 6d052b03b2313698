import Parcelgen.Proofs.Generator.Outcome
import Parcelgen.Proofs.Marshal.Scoping

/-!
Generated functions declare every name once. Their names come from three sources that cannot meet: parameters of the package, which never
start with the lead, the generator's own variables, and handles, which start with the lead and are taken from a scope that holds the result
variables (`Parts`).
-/

namespace Parcelgen

open Naming

namespace Dialect

/-- The name starts as generated names do in the standard dialect. -/
def Led (name : String) : Prop := "_hidl_".toList <+: name.toList

theorem led_append (rest : String) : Led ("_hidl_" ++ rest) := by
  simp [Led]

theorem trimUnderscores_append (front back : List Char) :
    trimUnderscores (front ++ back) = front ++ trimUnderscores back ∨ trimUnderscores (front ++ back) = trimUnderscores front := by
  unfold trimUnderscores
  rw [List.reverse_append, List.dropWhile_append]
  split
  · exact .inr rfl
  · left
    rw [List.reverse_append, List.reverse_reverse]

/-- An identifier keeps the lead even where nothing of the expression is left: the underscore comes back with the tail. -/
theorem led_ident (expr : String) {tail : String} (htail : tail ≠ "") : Led (({} : Dialect).ident expr tail) := by
  have hlead : "_hidl_".toList = trimUnderscores "_hidl_".toList ++ "_".toList := by decide +kernel
  unfold Led ident
  simp only [beq_iff_eq, htail, if_false, String.toList_append, String.toList_ofList]
  rcases trimUnderscores_append "_hidl_".toList
    (wordChars ("_hidl_".toList.getLast? == some '_') (dropLead "_hidl_".toList expr.toList)) with h | h
  · rw [h, List.append_assoc]
    exact List.prefix_append _ _
  · rw [h, ← List.append_assoc]
    nth_rewrite 1 [hlead]
    exact List.prefix_append _ _

theorem IsHandle.led {name : String} (h : ({} : Dialect).IsHandle name) : Led name := by
  obtain ⟨expr, tail, htail, hname⟩ := h
  have hident : Led (({} : Dialect).ident expr tail) := led_ident expr (by rcases htail with rfl | rfl <;> decide)
  rcases hname with rfl | ⟨i, rfl⟩
  · exact hident
  · unfold NameScope.candidate Led
    rw [String.append_assoc, String.toList_append]
    exact hident.trans (List.prefix_append _ _)

end Dialect

/-- The names of a function: variables of the generator, parameters and handles. -/
structure Parts (fixed names taken : List String) : Prop where
  fixed_nodup : fixed.Nodup
  fixed_led : ∀ n ∈ fixed, Dialect.Led n
  index : ∀ k : Nat, ({} : Dialect).indexVar k ∉ fixed
  binder : ({} : Dialect).binderVar ∉ fixed
  names_nodup : names.Nodup
  names_free : ∀ n ∈ names, ¬ Dialect.Led n
  taken_nodup : taken.Nodup
  handle : ∀ n ∈ taken, ({} : Dialect).IsHandle n
  new : ∀ n ∈ taken, n ∉ fixed

namespace Parts

variable {fixed names taken : List String}

theorem nodup (h : Parts fixed names taken) : (fixed ++ names ++ taken).Nodup := by
  refine List.nodup_append.mpr ⟨List.nodup_append.mpr ⟨h.fixed_nodup, h.names_nodup, ?_⟩, h.taken_nodup, ?_⟩
  · rintro a ha b hb rfl
    exact h.names_free a hb (h.fixed_led a ha)
  · rintro a ha b hb rfl
    rcases List.mem_append.mp ha with ha | ha
    · exact h.new a hb ha
    · exact h.names_free a ha (h.handle a hb).led

end Parts

namespace Generator

variable {g : Generator} {i : Interface} {m : Method}

theorem outVar_injective (g : Generator) {p q : Param} (h : g.outVar p = g.outVar q) : p.name = q.name := by
  simpa [outVar, ← String.toList_inj] using h

/-- The variable of a result is none that starts otherwise. -/
theorem outVar_ne (hd : g.dialect = {}) (p : Param) {rest : String} (h : rest.toList.head? ≠ some 'o') : g.outVar p ≠ "_hidl_" ++ rest := by
  intro heq
  have hlead : g.dialect.lead = "_hidl_" := by rw [hd]
  simp only [outVar, hlead, ← String.toList_inj, String.toList_append, List.append_assoc, List.append_cancel_left_eq] at heq
  rw [← heq] at h
  simp at h

/-- The variables that generated functions may have beside those of results, without the lead. -/
def ownWords : List String := ["this", "code", "data", "reply", "err", "cb"]

theorem ownWords_ne_binderVar : ∀ w ∈ ownWords, "_hidl_" ++ w ≠ ({} : Dialect).binderVar := by decide +kernel

theorem ownWords_head : ∀ w ∈ ownWords, w.toList.head? ≠ some 'o' := by decide +kernel

theorem ownWords_lastLetter : ∀ w ∈ ownWords, Dialect.lastLetter ("_hidl_" ++ w) ∉ [some 't', some 'd', some 'x'] := by decide +kernel

/-- The names of a function that has some variables of its own, variables for results, parameters and new handles. -/
theorem parts (hd : g.dialect = {}) (words : List String) (hwords : words ⊆ ownWords) (hnodup : words.Nodup) (results : List Param)
    (hresults : (results.map (·.name)).Nodup) {names taken : List String} (hnames : names.Nodup) (hfree : ∀ n ∈ names, ¬ Dialect.Led n)
    (htaken : taken.Nodup) (hhandle : ∀ n ∈ taken, ({} : Dialect).IsHandle n) (hnew : ∀ n ∈ taken, n ∉ results.map g.outVar) :
    Parts (words.map ("_hidl_" ++ ·) ++ results.map g.outVar) names taken := by
  have hout : ∀ rest : String, rest.toList.head? ≠ some 'o' → "_hidl_" ++ rest ∉ results.map g.outVar := by
    intro rest hrest hmem
    obtain ⟨r, -, hr⟩ := List.mem_map.mp hmem
    exact outVar_ne hd r hrest hr
  refine ⟨List.nodup_append.mpr ⟨?_, ?_, ?_⟩, ?_, fun k hk => ?_, fun hmem => ?_, hnames, hfree, htaken, hhandle, fun n hn hmem => ?_⟩
  · refine hnodup.map fun a b hab => ?_
    simpa [← String.toList_inj] using hab
  · refine (List.nodup_map_iff_inj_on (.of_map _ hresults)).mpr fun p hp q hq hpq => ?_
    exact List.inj_on_of_nodup_map hresults hp hq (g.outVar_injective hpq)
  · rintro a ha b hb rfl
    obtain ⟨w, hw, rfl⟩ := List.mem_map.mp ha
    exact hout w (ownWords_head w (hwords hw)) hb
  · intro n hn
    rcases List.mem_append.mp hn with hn | hn
    · obtain ⟨w, -, rfl⟩ := List.mem_map.mp hn
      exact Dialect.led_append w
    · obtain ⟨r, -, rfl⟩ := List.mem_map.mp hn
      unfold outVar
      rw [hd, String.append_assoc]
      exact Dialect.led_append _
  · rcases List.mem_append.mp hk with hk | hk
    · obtain ⟨w, hw, heq⟩ := List.mem_map.mp hk
      have hletter := ownWords_lastLetter w (hwords hw)
      rw [heq, ({} : Dialect).lastLetter_indexVar k] at hletter
      simp at hletter
    · have hindex : ({} : Dialect).indexVar k = "_hidl_" ++ ("index_" ++ toString (k : Int)) := String.append_assoc
      rw [hindex] at hk
      exact hout _ (by simp) hk
  · rcases List.mem_append.mp hmem with hmem | hmem
    · obtain ⟨w, hw, heq⟩ := List.mem_map.mp hmem
      exact ownWords_ne_binderVar w (hwords hw) heq
    · exact hout "binder" (by decide) hmem
  · rcases List.mem_append.mp hmem with hmem | hmem
    · obtain ⟨w, hw, rfl⟩ := List.mem_map.mp hmem
      have hletter := ownWords_lastLetter w (hwords hw)
      rcases (hhandle _ hn).lastLetter with hl | hl <;> simp [hl] at hletter
    · exact hnew n hn hmem

end Generator

end Parcelgen

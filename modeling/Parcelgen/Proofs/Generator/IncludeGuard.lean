import Mathlib.Data.List.DropRight
import Mathlib.Data.List.Forall2
import Parcelgen.Generator.Header
import Parcelgen.Proofs.Package.Validate

/-!
Which packages share an include guard. A guard spells the namespace and the name of its package in capitals, digits and underscores, so it forgets
letter case, which other characters there were, and where the namespace ends. It forgets nothing else: two guards are the same exactly when the
spelled names are alike character by character. A name that the guard keeps as it is, but for letter case, can be read off behind the last
underscore, whatever the namespace.
-/

namespace Parcelgen

namespace IncludeGuard

/-- The character stands in a guard as a capital or a digit. -/
def keeps (c : Char) : Bool := (Text.toUpper c).isUpper || (Text.toUpper c).isDigit

/-- The character as it stands in a guard. -/
def word (c : Char) : Char := if keeps c then Text.toUpper c else '_'

/-- No guard tells the characters apart: they are one letter or digit but for case, or neither is a letter or digit of a guard. -/
def Alike (a b : Char) : Prop := Text.toUpper a = Text.toUpper b ∨ keeps a = false ∧ keeps b = false

theorem word_of_keeps {c : Char} (h : keeps c = true) : word c = Text.toUpper c := if_pos h

theorem word_of_not_keeps {c : Char} (h : keeps c = false) : word c = '_' := by simp [word, h]

theorem word_ne_underscore {c : Char} (h : keeps c = true) : word c ≠ '_' := by
  intro hword
  rw [word_of_keeps h] at hword
  rw [keeps, hword] at h
  cases h

theorem word_eq_iff (a b : Char) : word a = word b ↔ Alike a b := by
  constructor
  · intro h
    cases ha : keeps a with
    | false =>
      cases hb : keeps b with
      | false => exact .inr ⟨ha, hb⟩
      | true => exact absurd (h.symm.trans (word_of_not_keeps ha)) (word_ne_underscore hb)
    | true =>
      cases hb : keeps b with
      | false => exact absurd (h.trans (word_of_not_keeps hb)) (word_ne_underscore ha)
      | true => exact .inl (by rwa [word_of_keeps ha, word_of_keeps hb] at h)
  · rintro (h | ⟨ha, hb⟩)
    · rw [word, word, keeps, keeps, h]
    · rw [word_of_not_keeps ha, word_of_not_keeps hb]

theorem map_word_eq_iff (as bs : List Char) : as.map word = bs.map word ↔ List.Forall₂ Alike as bs := by
  have hwords : List.Forall₂ (fun a b => word a = word b) as bs ↔ as.map word = bs.map word := by
    rw [← List.forall₂_eq_eq_eq, List.forall₂_map_left_iff, List.forall₂_map_right_iff]
  rw [← hwords]
  simp only [word_eq_iff]

theorem ascii_of_isAlphanum {c : Char} (h : c.isAlphanum = true) : c.toNat < 0x80 := by
  have hcases : (c.isUpper || c.isLower || c.isDigit) = true := h
  rw [Bool.or_eq_true, Bool.or_eq_true] at hcases
  have hle : c.val ≤ 'z'.val := by
    rcases hcases with (hupper | hlower) | hdigit
    · have hbound : c.val ≤ 'Z'.val := (of_decide_eq_true hupper).2
      exact UInt32.le_trans hbound (by decide)
    · exact of_decide_eq_true (Bool.and_eq_true_iff.mp hlower).2
    · have hbound : c.val ≤ '9'.val := of_decide_eq_true (Bool.and_eq_true_iff.mp hdigit).2
      exact UInt32.le_trans hbound (by decide)
  exact Nat.lt_of_le_of_lt (UInt32.le_iff_toNat_le.mp hle) (by decide)

/-- Letters and digits of ASCII are kept. -/
theorem keeps_of_isAlphanum {c : Char} (h : c.isAlphanum = true) : keeps c = true := by
  have hall : ∀ n : Fin 128, (Char.ofNat n.val).isAlphanum = true → keeps (Char.ofNat n.val) = true := by decide +kernel
  have hc := hall ⟨c.toNat, ascii_of_isAlphanum h⟩
  rw [Char.ofNat_toNat] at hc
  exact hc h

/-- The part of a guard in front of the name: the namespace with its separators as underscores, without an underscore at its head. -/
def front (space : String) : List Char :=
  let chars := ("_".intercalate (Text.components space)).toList ++ ['_']
  if chars.head? == some '_' then chars.tail else chars

/-- The namespace ends in an underscore, if there is one. -/
theorem front_cases (space : String) : front space = [] ∨ ∃ before, front space = before ++ ['_'] := by
  unfold front
  cases ("_".intercalate (Text.components space)).toList with
  | nil => exact .inl rfl
  | cons c cs =>
    right
    dsimp only
    split
    · exact ⟨cs, rfl⟩
    · exact ⟨c :: cs, rfl⟩

/-- The name can be read off behind the last underscore. -/
theorem rtakeWhile_front (space : String) {name : List Char} (h : ∀ c ∈ name, c ≠ '_') :
    ((front space).map word ++ name).rtakeWhile (· != '_') = name := by
  have hname : ∀ c ∈ name.reverse, (c != '_') = true := by simpa using h
  rcases front_cases space with hfront | ⟨before, hfront⟩
  · rw [hfront, List.map_nil, List.nil_append]
    exact List.rtakeWhile_eq_self_iff.mpr (by simpa using h)
  · have hsplit : ((before ++ ['_']).map word ++ name).reverse = name.reverse ++ '_' :: (before.map word).reverse := by
      simp [show word '_' = '_' by decide +kernel]
    rw [hfront, List.rtakeWhile, hsplit, List.takeWhile_append_of_pos hname]
    simp

end IncludeGuard

namespace Package

open IncludeGuard

/-- What a guard spells. -/
def spelling (p : Package) : List Char := front p.space ++ p.name.toList

theorem includeGuard_eq (p : Package) : p.includeGuard = "MARSHALGEN_" ++ String.ofList (p.spelling.map word) ++ "_H" := by
  have hchars : ("_".intercalate (Text.components p.space) ++ "_" ++ p.name).toList =
      ("_".intercalate (Text.components p.space)).toList ++ ['_'] ++ p.name.toList := by simp
  have hspelling : p.spelling = (
      let chars := ("_".intercalate (Text.components p.space) ++ "_" ++ p.name).toList
      if chars.head? == some '_' then chars.tail else chars) := by
    rw [spelling, front, hchars]
    cases ("_".intercalate (Text.components p.space)).toList with
    | nil => rfl
    | cons c cs =>
      by_cases hc : c = '_' <;> simp [hc]
  rw [hspelling]
  rfl

theorem includeGuard_eq_iff_map (p q : Package) : p.includeGuard = q.includeGuard ↔ p.spelling.map word = q.spelling.map word := by
  rw [includeGuard_eq, includeGuard_eq, ← String.toList_inj]
  simp

/-- Guards in one namespace are told apart by the names alone. -/
theorem includeGuard_eq_iff_of_space {p q : Package} (h : p.space = q.space) :
    p.includeGuard = q.includeGuard ↔ List.Forall₂ Alike p.name.toList q.name.toList := by
  rw [includeGuard_eq_iff_map, spelling, spelling, h, List.map_append, List.map_append, List.append_right_inj, map_word_eq_iff]

/-- In a name of letters and digits the guard only forgets letter case. -/
theorem upper_name_eq_of_includeGuard_eq {p q : Package} (hp : ∀ c ∈ p.name.toList, c.isAlphanum = true)
    (hq : ∀ c ∈ q.name.toList, c.isAlphanum = true) (h : p.includeGuard = q.includeGuard) : Text.upper p.name = Text.upper q.name := by
  have hwords {name : String} (hname : ∀ c ∈ name.toList, c.isAlphanum = true) :
      name.toList.map word = (Text.upper name).toList ∧ ∀ c ∈ (Text.upper name).toList, c ≠ '_' := by
    have hmap : name.toList.map word = (Text.upper name).toList := by
      rw [Text.upper, String.toList_map]
      exact List.map_congr_left fun c hc => word_of_keeps (keeps_of_isAlphanum (hname c hc))
    refine ⟨hmap, fun c hc => ?_⟩
    rw [← hmap] at hc
    obtain ⟨d, hd, rfl⟩ := List.mem_map.mp hc
    exact word_ne_underscore (keeps_of_isAlphanum (hname d hd))
  obtain ⟨hpmap, hpword⟩ := hwords hp
  obtain ⟨hqmap, hqword⟩ := hwords hq
  rw [includeGuard_eq_iff_map, spelling, spelling, List.map_append, List.map_append, hpmap, hqmap] at h
  have hlast := congrArg (List.rtakeWhile (· != '_')) h
  rwa [rtakeWhile_front _ hpword, rtakeWhile_front _ hqword, String.toList_inj] at hlast

end Package

/-- Two packages have one include guard exactly when what the guards spell is alike, character by character; in one namespace, when the names are.
Names of letters and digits that differ in more than letter case lead to different guards, whatever the namespaces. -/
theorem includeGuard_eq_iff_alike (p q : Package) :
    (p.includeGuard = q.includeGuard ↔ List.Forall₂ IncludeGuard.Alike p.spelling q.spelling) ∧
      (p.space = q.space → (p.includeGuard = q.includeGuard ↔ List.Forall₂ IncludeGuard.Alike p.name.toList q.name.toList)) ∧
      ((∀ c ∈ p.name.toList ++ q.name.toList, c.isAlphanum = true) → Text.upper p.name ≠ Text.upper q.name →
        p.includeGuard ≠ q.includeGuard) := by
  refine ⟨?_, fun hspace => Package.includeGuard_eq_iff_of_space hspace, fun hname hupper hguard => hupper ?_⟩
  · rw [Package.includeGuard_eq_iff_map, IncludeGuard.map_word_eq_iff]
  · exact Package.upper_name_eq_of_includeGuard_eq (fun c hc => hname c (List.mem_append_left _ hc))
      (fun c hc => hname c (List.mem_append_right _ hc)) hguard

/-- Names that the guard keeps, in namespaces that it does not tell apart. -/
theorem includeGuard_eq_iff_alike_split :
    let p : Package := { name := "store2", space := "acme::io" }
    let q : Package := { name := "Store", space := "acme_io" }
    p.validate {} = .ok () ∧ q.validate {} = .ok () ∧ p.includeGuard ≠ q.includeGuard := by
  intro p q
  have hname : (p.name.toList ++ q.name.toList).all Char.isAlphanum = true := by decide +kernel
  exact ⟨by decide +kernel, by decide +kernel, (includeGuard_eq_iff_alike p q).2.2 (List.all_eq_true.mp hname) (by decide +kernel)⟩

/-- Packages that are accepted, have different names and share a guard: by letter case, and by where the namespace ends. -/
theorem includeGuard_shared :
    let lower : Package := { name := "foo" }
    let capital : Package := { name := "Foo" }
    let inner : Package := { name := "b", space := "a" }
    let outer : Package := { name := "a_b" }
    (∀ p ∈ [lower, capital, inner, outer], p.validate {} = .ok ()) ∧ lower.name ≠ capital.name ∧ inner.name ≠ outer.name ∧
      lower.includeGuard = "MARSHALGEN_FOO_H" ∧ capital.includeGuard = "MARSHALGEN_FOO_H" ∧
      inner.includeGuard = "MARSHALGEN_A_B_H" ∧ outer.includeGuard = "MARSHALGEN_A_B_H" := by
  decide +kernel

end Parcelgen

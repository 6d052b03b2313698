import Mathlib.Algebra.Group.Nat.Defs
import Mathlib.Order.Bounds.Basic
import Parcelgen.Proofs.Wit.Trace
import Parcelgen.Text.Digit

/-!
The storage of enums and flags. Flags get one bit each, in the narrowest number that has so many bits, and the value of an enumerator is written
in hexadecimal; what is written reads back as its bit (`digitsValue?_toDigits`). More flags than a number has bits are an array of
words, and an enum takes the narrowest number that counts its cases. The main statement is about the conversion of a definition by itself
(`storage_is_least`): nothing but its own names decides the storage.
-/

namespace Parcelgen

/-- The number of bits of an unsigned scalar. -/
def Scalar.unsignedBits? : Scalar → Option Nat
  | .uint8 => some 8
  | .uint16 => some 16
  | .uint32 => some 32
  | .uint64 => some 64
  | _ => none

namespace Text

theorem hexValue?_digitChar {d : Nat} (h : d < 16) : hexValue? d.digitChar = some d := by
  have hall : ∀ d < 16, hexValue? (Nat.digitChar d) = some d := by decide
  exact hall d h

/-- The digits of a number read back as the number. -/
theorem digitsValue?_toDigits {base : Nat} (hlow : 1 < base) (hhigh : base ≤ 16) (n : Nat) :
    digitsValue? base (Nat.toDigits base n) = some n := by
  have hdigit : ∀ d < base, hexValue? d.digitChar = some d := fun d hd => hexValue?_digitChar (by omega)
  unfold digitsValue?
  rw [if_neg (by simp [Nat.toDigits_ne_nil])]
  induction n using Nat.strongRecOn with
  | ind n ih =>
    rw [Nat.toDigits_eq_if hlow]
    split
    · rename_i hn
      simp [hdigit n hn, hn]
    · rename_i hn
      have hrest : n % base < base := Nat.mod_lt n (by omega)
      rw [List.foldlM_append, ih (n / base) (Nat.div_lt_self (by omega) hlow)]
      simp [hdigit _ hrest, hrest, Nat.div_add_mod']

/-- The number that a hexadecimal literal denotes. -/
def hexLiteral? (s : String) : Option Nat :=
  match s.toList with
  | '0' :: 'x' :: digits | '0' :: 'X' :: digits => digitsValue? 16 digits
  | _ => none

theorem hexLiteral?_hex (n : Nat) : hexLiteral? ("0x" ++ hex 1 n) = some n := by
  have hwidth : 1 - (Nat.toDigits 16 n).length = 0 := Nat.sub_eq_zero_of_le Nat.length_toDigits_pos
  have hchars : ("0x" ++ hex 1 n).toList = '0' :: 'x' :: Nat.toDigits 16 n := by simp [hex, hwidth]
  unfold hexLiteral?
  rw [hchars]
  exact digitsValue?_toDigits (by decide) (by decide) n

end Text

namespace Wit

theorem isLeast_iff {widths : List Nat} {fits : Nat → Prop} {width : Nat} :
    IsLeast {w | w ∈ widths ∧ fits w} width ↔ (width ∈ widths ∧ fits width) ∧ ∀ w ∈ widths, fits w → width ≤ w :=
  and_congr_right fun _ => ⟨fun h _ hw hfits => h ⟨hw, hfits⟩, fun h _ hw => h _ hw.1 hw.2⟩

/-- The storage of up to 64 flags is the narrowest number with so many bits. -/
theorem flagStorage_bits {n : Nat} (h : n ≤ 64) :
    ∃ width, (flagStorage n).unsignedBits? = some width ∧ IsLeast {w | w ∈ [8, 16, 32, 64] ∧ n ≤ w} width := by
  simp only [isLeast_iff, List.forall_mem_cons]
  unfold flagStorage
  split
  · exact ⟨8, rfl, by simp; omega⟩
  split
  · exact ⟨16, rfl, by simp; omega⟩
  split
  · exact ⟨32, rfl, by simp; omega⟩
  · exact ⟨64, rfl, by simp; omega⟩

/-- The storage of an enum is the narrowest number that has a value for every case. -/
theorem caseStorage_bits {n : Nat} (h : n ≤ 2 ^ 32) :
    ∃ width, (caseStorage n).unsignedBits? = some width ∧ IsLeast {w | w ∈ [8, 16, 32] ∧ ∀ i < n, i < 2 ^ w} width := by
  simp only [forall_lt_iff_le, isLeast_iff, List.forall_mem_cons]
  unfold caseStorage
  split
  · exact ⟨8, rfl, by simp; omega⟩
  split
  · exact ⟨16, rfl, by simp; omega⟩
  · exact ⟨32, rfl, by simp; omega⟩

/-- Counted from `i`, the flags stand for the powers of two from `2 ^ i` on. -/
theorem flagValues_cons (i : Nat) (name : String) (names : List String) :
    flagValues i (name :: names) = (upperSnakeCase name, "0x" ++ Text.hex 1 (2 ^ i)) :: flagValues (i + 1) names := rfl

theorem flagValues_literals (i : Nat) (names : List String) :
    (flagValues i names).map (fun v => Text.hexLiteral? v.2) = (List.range' i names.length).map fun k => some (2 ^ k) := by
  induction names generalizing i with
  | nil => rfl
  | cons name names ih =>
    rw [flagValues_cons]
    simp [List.range'_succ, Text.hexLiteral?_hex, ih]

theorem words_bounds {n : Nat} (h : 0 < n) : 32 * ((n + 31) / 32 - 1) < n ∧ n ≤ 32 * ((n + 31) / 32) := by omega

/-- A definition that has its type from nothing but itself is finished wherever it is met first. -/
theorem Resolve.convertWithin_run_of_new {r : Resolve} {id : Nat} {t : WireType} {c : Converter} (hnew : ∀ e ∈ c.finished, e.1 ≠ id)
    {pending : List Nat} (hopen : id ∉ pending) (fuel : Nat)
    (h : ∀ convert, (definedType convert (r.definition id)).run c = (.ok t, { c with package := c.package.adding (r.definition id) t })) :
    (r.convertWithin (fuel + 1) pending (.defined id)).run c = (.ok t, c.finish id (r.definition id) t) := by
  have hfind : c.finished.find? (·.1 == id) = none := by simpa using hnew
  unfold convertWithin
  refine Converting.run_bind_eq_ok_iff.mpr ⟨c, c, rfl, ?_⟩
  simp only [hfind, List.contains_iff_mem, hopen, if_false]
  exact Converting.run_bind_eq_ok_iff.mpr ⟨t, _, h _, rfl⟩

section

variable {d : TypeDef} {name : String} {names : List String} (convert : TypeRef → Converting WireType) (c : Converter)

theorem run_declare (htype : d.isNamedType = true) (hinterface : d.interface? = none) (name : String) (make : String → WireType) :
    (do declare (make (← qualified name)) : Converting WireType).run c =
      (.ok (make (c.package.qualify (pascalCase name))),
        { c with package := c.package.adding d (make (c.package.qualify (pascalCase name))) }) := by
  simp only [Package.adding, htype, hinterface, if_true, Option.toList_none, List.append_nil]
  rfl

theorem run_definedType_flags (hname : d.name = some name) (hk : d.kind = some (.flags names)) (hne : 1 ≤ names.length)
    (hle : names.length ≤ 64) :
    let t : WireType := .enum (c.package.qualify (pascalCase name)) (flagStorage names.length) (flagValues 0 names)
    (definedType convert d).run c = (.ok t, { c with package := c.package.adding d t }) := by
  have htype : d.isNamedType = true := by simp [TypeDef.isNamedType, hname, hk, hle]
  have hinterface : d.interface? = none := by simp [TypeDef.interface?, hk]
  have hzero : (names.length == 0) = false := by rw [beq_eq_false_iff_ne]; omega
  simp only [definedType, hk, flagsType, hname, hzero, Bool.false_eq_true, if_false, gt_iff_lt, Nat.not_lt.mpr hle]
  exact run_declare c htype hinterface name fun q => .enum q (flagStorage names.length) (flagValues 0 names)

theorem run_definedType_wideFlags (hk : d.kind = some (.flags names)) (hlt : 64 < names.length) :
    let t : WireType := .array (.scalar .uint32) (toString ((names.length + 31) / 32))
    (definedType convert d).run c = (.ok t, { c with package := c.package.adding d t }) := by
  have htype : d.isNamedType = false := by simp [TypeDef.isNamedType, hk, hlt]
  have hinterface : d.interface? = none := by simp [TypeDef.interface?, hk]
  have hzero : (names.length == 0) = false := by rw [beq_eq_false_iff_ne]; omega
  simp only [definedType, hk, flagsType, hzero, Bool.false_eq_true, if_false, gt_iff_lt, hlt, if_true, Package.adding, htype, hinterface,
    Option.toList_none, List.append_nil]
  rfl

theorem run_definedType_enum (hname : d.name = some name) (hk : d.kind = some (.enum names)) :
    let t : WireType := .enum (c.package.qualify (pascalCase name)) (caseStorage names.length) (names.map fun n => (upperSnakeCase n, ""))
    (definedType convert d).run c = (.ok t, { c with package := c.package.adding d t }) := by
  have htype : d.isNamedType = true := by simp [TypeDef.isNamedType, hname, hk]
  have hinterface : d.interface? = none := by simp [TypeDef.interface?, hk]
  simp only [definedType, hk, enumType, hname]
  exact run_declare c htype hinterface name fun q => .enum q (caseStorage names.length) (names.map fun n => (upperSnakeCase n, ""))

end

/-- Wherever flags or an enum are converted first, they get the least storage that does. Up to 64 named flags are an enum of the least number of
bits that is enough for one bit each, and the literal of each flag denotes the bit at its place, so that all literals are different and within
the storage. More flags are an array with just as many words of 32 bits as they fill. A named enum with up to `2 ^ 32` cases, which count from
zero, has the least storage with a value for each. -/
theorem storage_is_least (r : Resolve) (id : Nat) (c : Converter) (hnew : ∀ e ∈ c.finished, e.1 ≠ id) (pending : List Nat)
    (hopen : id ∉ pending) (fuel : Nat) :
    (∀ names, (r.definition id).kind = some (.flags names) →
      (1 ≤ names.length → names.length ≤ 64 → ∀ name, (r.definition id).name = some name →
        ∃ q storage width values,
          (r.convertWithin (fuel + 1) pending (.defined id)).run c =
            (.ok (.enum q storage values), c.finish id (r.definition id) (.enum q storage values)) ∧
          storage.unsignedBits? = some width ∧ IsLeast {w | w ∈ [8, 16, 32, 64] ∧ names.length ≤ w} width ∧
          values.length = names.length ∧
          (∀ i v, values[i]? = some v → Text.hexLiteral? v.2 = some (2 ^ i) ∧ 2 ^ i < 2 ^ width) ∧
          (values.map fun v => Text.hexLiteral? v.2).Nodup) ∧
      (64 < names.length → ∃ words,
        (r.convertWithin (fuel + 1) pending (.defined id)).run c =
          (.ok (.array (.scalar .uint32) (toString words)),
            c.finish id (r.definition id) (.array (.scalar .uint32) (toString words))) ∧
        32 * (words - 1) < names.length ∧ names.length ≤ 32 * words)) ∧
    ∀ cases name, (r.definition id).kind = some (.enum cases) → (r.definition id).name = some name → cases.length ≤ 2 ^ 32 →
      ∃ q storage width values,
        (r.convertWithin (fuel + 1) pending (.defined id)).run c =
          (.ok (.enum q storage values), c.finish id (r.definition id) (.enum q storage values)) ∧
        storage.unsignedBits? = some width ∧ IsLeast {w | w ∈ [8, 16, 32] ∧ ∀ i < cases.length, i < 2 ^ w} width ∧
        values.length = cases.length ∧ ∀ v ∈ values, v.2 = "" := by
  refine ⟨fun names hk => ⟨fun hne hle name hname => ?_, fun hlt => ?_⟩, fun cases name hk hname hle => ?_⟩
  · obtain ⟨width, hwidth, hleast⟩ := flagStorage_bits hle
    have hliterals := flagValues_literals 0 names
    have hlength : (flagValues 0 names).length = names.length := by simpa using congrArg List.length hliterals
    refine ⟨_, _, width, _, Resolve.convertWithin_run_of_new hnew hopen fuel fun convert => run_definedType_flags convert c hname hk hne hle,
      hwidth, hleast, hlength, ?_, ?_⟩
    · intro i v hv
      have hi : i < names.length := by
        rw [← hlength]
        exact (List.getElem?_eq_some_iff.mp hv).1
      have hliteral : ((flagValues 0 names).map fun v => Text.hexLiteral? v.2)[i]? = some (Text.hexLiteral? v.2) := by simp [hv]
      rw [hliterals] at hliteral
      refine ⟨by simpa [hi, eq_comm] using hliteral, ?_⟩
      exact Nat.pow_lt_pow_right (by decide) (Nat.lt_of_lt_of_le hi hleast.1.2)
    · rw [hliterals]
      refine List.Pairwise.map _ (fun a b hab heq => hab ?_) List.nodup_range'
      exact Nat.pow_right_injective (Nat.le_refl 2) (Option.some.inj heq)
  · have hbounds := words_bounds (n := names.length) (by omega)
    exact ⟨_, Resolve.convertWithin_run_of_new hnew hopen fuel fun convert => run_definedType_wideFlags convert c hk hlt, hbounds⟩
  · obtain ⟨width, hwidth, hleast⟩ := caseStorage_bits hle
    exact ⟨_, _, width, _, Resolve.convertWithin_run_of_new hnew hopen fuel fun convert => run_definedType_enum convert c hname hk,
      hwidth, hleast, by simp, by simp⟩

/-- One flag more than 32 and one more than 64, and one case more than 256. -/
theorem storage_is_least_edges :
    let r : Resolve := {
      defs := [
        { name := some "perms", kind := some (.flags (List.replicate 33 "p")) },
        { kind := some (.flags (List.replicate 65 "w")) },
        { name := some "big", kind := some (.enum (List.replicate 257 "c")) }] }
    let c : Converter := { package := { name := "edges" } }
    (∃ q storage values, (r.convert (.defined 0)).run c = (.ok (.enum q storage values), c.finish 0 (r.definition 0) (.enum q storage values)) ∧
      storage.unsignedBits? = some 64 ∧ ∀ i v, values[i]? = some v → Text.hexLiteral? v.2 = some (2 ^ i) ∧ 2 ^ i < 2 ^ 64) ∧
    (r.convert (.defined 1)).run c =
      (.ok (.array (.scalar .uint32) (toString 3)), c.finish 1 (r.definition 1) (.array (.scalar .uint32) (toString 3))) ∧
    ∃ q storage values, (r.convert (.defined 2)).run c = (.ok (.enum q storage values), c.finish 2 (r.definition 2) (.enum q storage values)) ∧
      storage.unsignedBits? = some 16 := by
  intro r c
  obtain ⟨hflags, -⟩ := storage_is_least r 0 c (by simp [c]) [] (by simp) r.defs.length
  obtain ⟨hwide, -⟩ := storage_is_least r 1 c (by simp [c]) [] (by simp) r.defs.length
  obtain ⟨-, henum⟩ := storage_is_least r 2 c (by simp [c]) [] (by simp) r.defs.length
  refine ⟨?_, ?_, ?_⟩
  · obtain ⟨q, storage, width, values, hrun, hwidth, hleast, -, hvalues, -⟩ := (hflags _ rfl).1 (by simp) (by simp) "perms" rfl
    obtain rfl : width = 64 := hleast.unique (isLeast_iff.mpr (by simp))
    exact ⟨q, storage, values, hrun, hwidth, hvalues⟩
  · obtain ⟨words, hrun, hlow, hhigh⟩ := (hwide _ rfl).2 (by simp)
    simp only [List.length_replicate] at hlow hhigh
    obtain rfl : words = 3 := by omega
    exact hrun
  · obtain ⟨q, storage, width, values, hrun, hwidth, hleast, -⟩ := henum _ "big" rfl rfl (by simp only [List.length_replicate]; decide)
    simp only [List.length_replicate, forall_lt_iff_le] at hleast
    obtain rfl : width = 16 := hleast.unique (isLeast_iff.mpr (by simp))
    exact ⟨q, storage, values, hrun, hwidth⟩

end Wit

end Parcelgen

import Mathlib.Data.List.Basic
import Parcelgen.Proofs.Text.Bytes

/-!
Reading bytes as text loses nothing: the marks of a byte sequence spell exactly its bytes (`flatMap_bytes_marks`), and a run of marks out of
the middle is what its own bytes are read as (`marks_of_infix`). The second needs that a character is recognised by its own bytes alone, and
that a stray byte does not become part of a character when less follows it (`headChar_take`).
-/

namespace Parcelgen.Text

theorem between_iff {lo hi : Nat} {b : UInt8} : between lo hi b = true ↔ lo ≤ b.toNat ∧ b.toNat ≤ hi := by
  simp [between]

/-- The leads of longer characters. The bounds on the first byte behind a lead keep out encodings that are too long, surrogates and what is
beyond the last code point. -/
theorem tailShape_cases {lead count lo hi : Nat} (h : tailShape lead = some (count, lo, hi)) :
    (count = 1 ∧ 0xc2 ≤ lead ∧ lead ≤ 0xdf) ∨
      (count = 2 ∧ 0xe0 ≤ lead ∧ lead ≤ 0xef ∧ (lead = 0xe0 → lo = 0xa0) ∧ (lead = 0xed → hi = 0x9f)) ∨
      (count = 3 ∧ 0xf0 ≤ lead ∧ lead ≤ 0xf4 ∧ (lead = 0xf0 → lo = 0x90) ∧ (lead = 0xf4 → hi = 0x8f)) := by
  simp only [tailShape, Bool.and_eq_true, decide_eq_true_eq, beq_iff_eq] at h
  grind

/-- The encoding of a code point, by its size. -/
theorem utf8EncodeChar_ofNat {n : Nat} (h : n.isValidChar) :
    String.utf8EncodeChar (Char.ofNat n) =
      if n ≤ 0x7f then [UInt8.ofNat n]
      else if n ≤ 0x7ff then [UInt8.ofNat (n / 64 % 0x20 + 0xc0), UInt8.ofNat (n % 0x40 + 0x80)]
      else if n ≤ 0xffff then
        [UInt8.ofNat (n / 4096 % 0x10 + 0xe0), UInt8.ofNat (n / 64 % 0x40 + 0x80), UInt8.ofNat (n % 0x40 + 0x80)]
      else
        [UInt8.ofNat (n / 262144 % 0x08 + 0xf0), UInt8.ofNat (n / 4096 % 0x40 + 0x80), UInt8.ofNat (n / 64 % 0x40 + 0x80),
          UInt8.ofNat (n % 0x40 + 0x80)] := by
  have hval : (Char.ofNat n).val.toNat = n := by
    rw [show Char.ofNat n = Char.ofNatAux n h from dif_pos h]
    rfl
  unfold String.utf8EncodeChar
  rw [hval]

theorem ofNat_eq {n : Nat} {b : UInt8} (h : n = b.toNat) : UInt8.ofNat n = b := by rw [h, UInt8.ofNat_toNat]

section

variable {a x y z : UInt8}

theorem encode_one (ha : a.toNat < 0x80) : String.utf8EncodeChar (Char.ofNat a.toNat) = [a] := by
  rw [utf8EncodeChar_ofNat (.inl (by omega)), if_pos (by omega), UInt8.ofNat_toNat]

theorem encode_two (ha : 0xc2 ≤ a.toNat ∧ a.toNat ≤ 0xdf) (hx : 0x80 ≤ x.toNat ∧ x.toNat ≤ 0xbf) :
    String.utf8EncodeChar (Char.ofNat ((a.toNat &&& 0x1f) * 64 + x.toNat % 64)) = [a, x] := by
  have hbits : a.toNat &&& 0x1f = a.toNat % 32 := Nat.and_two_pow_sub_one_eq_mod _ 5
  rw [hbits, utf8EncodeChar_ofNat (.inl (by omega)), if_neg (by omega), if_pos (by omega), ofNat_eq (b := a) (by omega),
    ofNat_eq (b := x) (by omega)]

theorem encode_three (ha : 0xe0 ≤ a.toNat ∧ a.toNat ≤ 0xef) (hx : 0x80 ≤ x.toNat ∧ x.toNat ≤ 0xbf) (hy : 0x80 ≤ y.toNat ∧ y.toNat ≤ 0xbf)
    (hlow : a.toNat = 0xe0 → 0xa0 ≤ x.toNat) (hhigh : a.toNat = 0xed → x.toNat ≤ 0x9f) :
    String.utf8EncodeChar (Char.ofNat (((a.toNat &&& 0x0f) * 64 + x.toNat % 64) * 64 + y.toNat % 64)) = [a, x, y] := by
  have hbits : a.toNat &&& 0x0f = a.toNat % 16 := Nat.and_two_pow_sub_one_eq_mod _ 4
  have hvalid : Nat.isValidChar ((a.toNat % 16 * 64 + x.toNat % 64) * 64 + y.toNat % 64) := by
    show _ ∨ _
    omega
  rw [hbits, utf8EncodeChar_ofNat hvalid, if_neg (by omega), if_neg (by omega), if_pos (by omega), ofNat_eq (b := a) (by omega),
    ofNat_eq (b := x) (by omega), ofNat_eq (b := y) (by omega)]

theorem encode_four (ha : 0xf0 ≤ a.toNat ∧ a.toNat ≤ 0xf4) (hx : 0x80 ≤ x.toNat ∧ x.toNat ≤ 0xbf) (hy : 0x80 ≤ y.toNat ∧ y.toNat ≤ 0xbf)
    (hz : 0x80 ≤ z.toNat ∧ z.toNat ≤ 0xbf) (hlow : a.toNat = 0xf0 → 0x90 ≤ x.toNat) (hhigh : a.toNat = 0xf4 → x.toNat ≤ 0x8f) :
    String.utf8EncodeChar (Char.ofNat ((((a.toNat &&& 0x07) * 64 + x.toNat % 64) * 64 + y.toNat % 64) * 64 + z.toNat % 64)) =
      [a, x, y, z] := by
  have hbits : a.toNat &&& 0x07 = a.toNat % 8 := Nat.and_two_pow_sub_one_eq_mod _ 3
  have hvalid : Nat.isValidChar (((a.toNat % 8 * 64 + x.toNat % 64) * 64 + y.toNat % 64) * 64 + z.toNat % 64) := by
    show _ ∨ _
    omega
  rw [hbits, utf8EncodeChar_ofNat hvalid, if_neg (by omega), if_neg (by omega), if_neg (by omega), ofNat_eq (b := a) (by omega),
    ofNat_eq (b := x) (by omega), ofNat_eq (b := y) (by omega), ofNat_eq (b := z) (by omega)]

end

/-- A character at the head is the one whose encoding stands there. -/
theorem headChar_bytes {lead : UInt8} {rest : Bytes} {c : Char} {n : Nat} (h : headChar lead rest = some (c, n)) :
    String.utf8EncodeChar c = lead :: rest.take n := by
  unfold headChar at h
  split at h
  · rename_i hascii
    cases h
    exact encode_one hascii
  · split at h
    · cases h
    · rename_i count lo hi hshape
      dsimp only at h
      split at h
      · rename_i htail
        cases h
        simp only [Bool.and_eq_true, beq_iff_eq, List.all_eq_true, between_iff] at htail
        obtain ⟨⟨hlength, hfirst⟩, hall⟩ := htail
        rcases tailShape_cases hshape with ⟨rfl, hlead⟩ | ⟨rfl, hlo, hhi, hlow, hhigh⟩ | ⟨rfl, hlo, hhi, hlow, hhigh⟩
        · obtain ⟨x, hx⟩ := List.length_eq_one_iff.mp hlength
          rw [hx] at hall ⊢
          exact encode_two hlead (hall x (by simp))
        · obtain ⟨x, y, hxy⟩ := List.length_eq_two.mp hlength
          rw [hxy] at hall hfirst ⊢
          have hbounds : lo ≤ x.toNat ∧ x.toNat ≤ hi := between_iff.mp hfirst
          exact encode_three ⟨hlo, hhi⟩ (hall x (by simp)) (hall y (by simp)) (by omega) (by omega)
        · obtain ⟨x, y, z, hxyz⟩ := List.length_eq_three.mp hlength
          rw [hxyz] at hall hfirst ⊢
          have hbounds : lo ≤ x.toNat ∧ x.toNat ≤ hi := between_iff.mp hfirst
          exact encode_four ⟨hlo, hhi⟩ (hall x (by simp)) (hall y (by simp)) (hall z (by simp)) (by omega) (by omega)
      · cases h

/-- A character at the head is recognised by its own bytes, whatever follows them. -/
theorem headChar_take {lead : UInt8} {rest : Bytes} {c : Char} {n : Nat} (h : headChar lead rest = some (c, n)) :
    (rest.take n).length = n ∧ ∀ more, headChar lead (rest.take n ++ more) = some (c, n) := by
  unfold headChar at h ⊢
  split at h
  · rename_i hascii
    cases h
    exact ⟨rfl, fun _ => if_pos hascii⟩
  · rename_i hascii
    split at h
    · cases h
    · dsimp only at h
      split at h
      · rename_i htail
        cases h
        have hlength : (rest.take n).length = n := by
          simp only [Bool.and_eq_true, beq_iff_eq] at htail
          exact htail.1.1
        refine ⟨hlength, fun more => ?_⟩
        have htake : (rest.take n ++ more).take n = rest.take n := by
          rw [List.take_append_of_le_length (Nat.le_of_eq hlength.symm), List.take_take, Nat.min_self]
        rw [if_neg hascii]
        simp only [htake]
        exact if_pos htail
      · cases h

/-- With more behind it, the head is still the same character. -/
theorem headChar_append {lead : UInt8} {rest : Bytes} {c : Char} {n : Nat} (h : headChar lead rest = some (c, n)) (more : Bytes) :
    headChar lead (rest ++ more) = some (c, n) := by
  have htake := (headChar_take h).2 (rest.drop n ++ more)
  rwa [← List.append_assoc, List.take_append_drop] at htake

theorem bytes_char (c : Char) : (Mark.char c).bytes = String.utf8EncodeChar c := by
  rw [Mark.bytes, bytes_eq, Char.toString, String.toList_singleton, List.flatMap_singleton]

/-- The first mark takes its own bytes, and it is the first mark also when only a part of what follows is there. -/
theorem marks_cases (bs : Bytes) :
    bs = [] ∨ ∃ m rest, bs = m.bytes ++ rest ∧ ∀ front back, rest = front ++ back → marks (m.bytes ++ front) = m :: marks front := by
  cases bs with
  | nil => exact .inl rfl
  | cons lead rest =>
    right
    cases h : headChar lead rest with
    | none =>
      refine ⟨.stray lead, rest, rfl, ?_⟩
      intro front back hrest
      have hfront : headChar lead front = none := by
        cases hf : headChar lead front with
        | none => rfl
        | some p =>
          rw [hrest, headChar_append hf back] at h
          cases h
      show marks (lead :: front) = _
      rw [marks, hfront]
    | some p =>
      obtain ⟨c, n⟩ := p
      obtain ⟨hlength, htake⟩ := headChar_take h
      have hbytes : (Mark.char c).bytes = lead :: rest.take n := (bytes_char c).trans (headChar_bytes h)
      refine ⟨.char c, rest.drop n, ?_, ?_⟩
      · rw [hbytes, List.cons_append, List.take_append_drop]
      · intro front _ _
        have hdrop : (rest.take n ++ front).drop n = front := List.drop_left' hlength
        rw [hbytes, List.cons_append, marks, htake front]
        simp only [hdrop]

/-- The marks of a byte sequence spell exactly its bytes. -/
theorem flatMap_bytes_marks (bs : Bytes) : (marks bs).flatMap Mark.bytes = bs := by
  fun_induction marks bs with
  | case1 => rfl
  | case2 lead rest c taken h ih => rw [List.flatMap_cons, ih, bytes_char, headChar_bytes h, List.cons_append, List.take_append_drop]
  | case3 lead rest h ih =>
    rw [List.flatMap_cons, ih]
    rfl

/-- Where the marks of a byte sequence are cut in two, both parts are what their own bytes are read as. -/
theorem marks_of_append {as cs : List Mark} {bs : Bytes} (h : marks bs = as ++ cs) :
    marks (as.flatMap Mark.bytes) = as ∧ marks (cs.flatMap Mark.bytes) = cs := by
  induction as generalizing bs with
  | nil =>
    refine ⟨by simp [marks], ?_⟩
    rw [← List.nil_append cs, ← h, flatMap_bytes_marks]
  | cons m as ih =>
    rcases marks_cases bs with rfl | ⟨m', rest, rfl, hfirst⟩
    · simp [marks] at h
    · rw [hfirst rest [] (List.append_nil rest).symm] at h
      rw [List.cons_append] at h
      obtain ⟨rfl, hrest⟩ := List.cons.inj h
      obtain ⟨has, hcs⟩ := ih hrest
      refine ⟨?_, hcs⟩
      have hsplit : rest = as.flatMap Mark.bytes ++ cs.flatMap Mark.bytes := by
        rw [← List.flatMap_append, ← hrest, flatMap_bytes_marks]
      rw [List.flatMap_cons, hfirst _ _ hsplit, has]

/-- A run of marks out of the middle is what its own bytes are read as. -/
theorem marks_of_infix {as ms cs : List Mark} {bs : Bytes} (h : marks bs = as ++ (ms ++ cs)) : marks (ms.flatMap Mark.bytes) = ms :=
  (marks_of_append (marks_of_append h).2).1

end Parcelgen.Text

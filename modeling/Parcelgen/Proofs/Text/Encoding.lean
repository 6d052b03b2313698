import Parcelgen.Proofs.Text.Decoding

/-!
Texts are read back from their bytes: the marks of an encoded text are its characters, with no stray among them (`marks_bytes`). Each size of
encoding is a case of its own, because the first byte behind a lead has bounds that depend on the lead; code points that are characters keep
within them.
-/

namespace Parcelgen.Text

/-- A lead and the bytes that its shape asks for are read as one character. -/
theorem headChar_of_shape {lead x : UInt8} {xs : Bytes} {lo hi k : Nat} (hlead : 0x80 ≤ lead.toNat)
    (hshape : tailShape lead.toNat = some ((x :: xs).length, lo, hi)) (hfirst : lo ≤ x.toNat ∧ x.toNat ≤ hi)
    (hall : ∀ b ∈ x :: xs, 0x80 ≤ b.toNat ∧ b.toNat ≤ 0xbf)
    (hkeep : (if (x :: xs).length == 1 then 0x1f else if (x :: xs).length == 2 then 0x0f else 0x07) = k) :
    headChar lead (x :: xs) =
      some (Char.ofNat ((x :: xs).foldl (fun n b => n * 64 + b.toNat % 64) (lead.toNat &&& k)), (x :: xs).length) := by
  have hascii : ¬ lead.toNat < 0x80 := by omega
  have hbetween : (x :: xs).all (between 0x80 0xbf) = true := List.all_eq_true.mpr fun b hb => between_iff.mpr (hall b hb)
  unfold headChar
  rw [if_neg hascii, hshape]
  simp only [List.take_length, beq_self_eq_true, List.head?_cons, Option.map_some, Option.getD_some, between_iff.mpr hfirst, hbetween,
    Bool.and_true, if_true, hkeep]

section

variable {a x y z : UInt8}

theorem headChar_two (ha : 0xc2 ≤ a.toNat ∧ a.toNat ≤ 0xdf) (hx : 0x80 ≤ x.toNat ∧ x.toNat ≤ 0xbf) :
    headChar a [x] = some (Char.ofNat (a.toNat % 32 * 64 + x.toNat % 64), 1) := by
  have hshape : tailShape a.toNat = some (1, 0x80, 0xbf) := by simp [tailShape, ha]
  have hbits : a.toNat &&& 0x1f = a.toNat % 32 := Nat.and_two_pow_sub_one_eq_mod _ 5
  rw [headChar_of_shape (k := 0x1f) (by omega) hshape hx (by simpa using hx) rfl, hbits]
  rfl

theorem headChar_three (ha : 0xe0 ≤ a.toNat ∧ a.toNat ≤ 0xef) (hx : 0x80 ≤ x.toNat ∧ x.toNat ≤ 0xbf) (hy : 0x80 ≤ y.toNat ∧ y.toNat ≤ 0xbf)
    (hlow : a.toNat = 0xe0 → 0xa0 ≤ x.toNat) (hhigh : a.toNat = 0xed → x.toNat ≤ 0x9f) :
    headChar a [x, y] = some (Char.ofNat ((a.toNat % 16 * 64 + x.toNat % 64) * 64 + y.toNat % 64), 2) := by
  have hshape : ∃ lo hi, tailShape a.toNat = some (2, lo, hi) ∧ lo ≤ x.toNat ∧ x.toNat ≤ hi := by
    by_cases hfirst : a.toNat = 0xe0
    · exact ⟨0xa0, 0xbf, by rw [hfirst]; rfl, hlow hfirst, hx.2⟩
    by_cases hlast : a.toNat = 0xed
    · exact ⟨0x80, 0x9f, by rw [hlast]; rfl, hx.1, hhigh hlast⟩
    refine ⟨0x80, 0xbf, ?_, hx⟩
    simp [tailShape, hfirst, hlast, show ¬ a.toNat ≤ 0xdf by omega, show 0xe1 ≤ a.toNat by omega, ha.2]
  obtain ⟨lo, hi, hshape, hfirst⟩ := hshape
  have hbits : a.toNat &&& 0x0f = a.toNat % 16 := Nat.and_two_pow_sub_one_eq_mod _ 4
  rw [headChar_of_shape (k := 0x0f) (by omega) hshape hfirst (by simpa using ⟨hx, hy⟩) rfl, hbits]
  rfl

theorem headChar_four (ha : 0xf0 ≤ a.toNat ∧ a.toNat ≤ 0xf4) (hx : 0x80 ≤ x.toNat ∧ x.toNat ≤ 0xbf) (hy : 0x80 ≤ y.toNat ∧ y.toNat ≤ 0xbf)
    (hz : 0x80 ≤ z.toNat ∧ z.toNat ≤ 0xbf) (hlow : a.toNat = 0xf0 → 0x90 ≤ x.toNat) (hhigh : a.toNat = 0xf4 → x.toNat ≤ 0x8f) :
    headChar a [x, y, z] = some (Char.ofNat (((a.toNat % 8 * 64 + x.toNat % 64) * 64 + y.toNat % 64) * 64 + z.toNat % 64), 3) := by
  have hshape : ∃ lo hi, tailShape a.toNat = some (3, lo, hi) ∧ lo ≤ x.toNat ∧ x.toNat ≤ hi := by
    by_cases hfirst : a.toNat = 0xf0
    · exact ⟨0x90, 0xbf, by rw [hfirst]; rfl, hlow hfirst, hx.2⟩
    by_cases hlast : a.toNat = 0xf4
    · exact ⟨0x80, 0x8f, by rw [hlast]; rfl, hx.1, hhigh hlast⟩
    refine ⟨0x80, 0xbf, ?_, hx⟩
    simp [tailShape, hfirst, show ¬ a.toNat ≤ 0xdf by omega, show ¬ a.toNat ≤ 0xef by omega, show a.toNat ≠ 0xe0 by omega,
      show a.toNat ≠ 0xed by omega, show 0xf1 ≤ a.toNat by omega, show a.toNat ≤ 0xf3 by omega]
  obtain ⟨lo, hi, hshape, hfirst⟩ := hshape
  have hbits : a.toNat &&& 0x07 = a.toNat % 8 := Nat.and_two_pow_sub_one_eq_mod _ 3
  rw [headChar_of_shape (k := 0x07) (by omega) hshape hfirst (by simpa using ⟨hx, hy, hz⟩) rfl, hbits]
  rfl

end

/-- A character is read back from its encoding. -/
theorem headChar_utf8EncodeChar {c : Char} {lead : UInt8} {rest : Bytes} (h : String.utf8EncodeChar c = lead :: rest) :
    headChar lead rest = some (c, rest.length) := by
  obtain ⟨n, hn, rfl⟩ : ∃ n, Nat.isValidChar n ∧ Char.ofNat n = c := ⟨c.toNat, c.valid, c.ofNat_toNat⟩
  have hrange : n < 0xd800 ∨ 0xdfff < n ∧ n < 0x110000 := hn
  have hbyte {m : Nat} (hm : m < 0x100) : (UInt8.ofNat m).toNat = m := UInt8.toNat_ofNat_of_lt' hm
  rw [utf8EncodeChar_ofNat hn] at h
  split at h
  · cases h
    have ha := hbyte (m := n) (by omega)
    rw [headChar, if_pos (by omega), ha]
    rfl
  split at h
  · cases h
    have ha := hbyte (m := n / 64 % 0x20 + 0xc0) (by omega)
    have hx := hbyte (m := n % 0x40 + 0x80) (by omega)
    have hvalue : (n / 64 % 0x20 + 0xc0) % 32 * 64 + (n % 0x40 + 0x80) % 64 = n := by omega
    rw [headChar_two (by omega) (by omega), ha, hx, hvalue]
    rfl
  split at h
  · cases h
    have ha := hbyte (m := n / 4096 % 0x10 + 0xe0) (by omega)
    have hx := hbyte (m := n / 64 % 0x40 + 0x80) (by omega)
    have hy := hbyte (m := n % 0x40 + 0x80) (by omega)
    have hvalue : ((n / 4096 % 0x10 + 0xe0) % 16 * 64 + (n / 64 % 0x40 + 0x80) % 64) * 64 + (n % 0x40 + 0x80) % 64 = n := by omega
    rw [headChar_three (by omega) (by omega) (by omega) (by omega) (by omega), ha, hx, hy, hvalue]
    rfl
  · cases h
    have ha := hbyte (m := n / 262144 % 0x08 + 0xf0) (by omega)
    have hx := hbyte (m := n / 4096 % 0x40 + 0x80) (by omega)
    have hy := hbyte (m := n / 64 % 0x40 + 0x80) (by omega)
    have hz := hbyte (m := n % 0x40 + 0x80) (by omega)
    have hvalue : (((n / 262144 % 0x08 + 0xf0) % 8 * 64 + (n / 4096 % 0x40 + 0x80) % 64) * 64 + (n / 64 % 0x40 + 0x80) % 64) * 64 +
        (n % 0x40 + 0x80) % 64 = n := by omega
    rw [headChar_four (by omega) (by omega) (by omega) (by omega) (by omega) (by omega), ha, hx, hy, hz, hvalue]
    rfl

/-- A text reads as its characters. -/
theorem marks_bytes (s : String) : marks (bytes s) = s.toList.map Mark.char := by
  rw [bytes_eq]
  induction s.toList with
  | nil => simp [marks]
  | cons c cs ih =>
    obtain ⟨lead, rest, hencode⟩ := List.exists_cons_of_ne_nil (String.utf8EncodeChar_ne_nil (c := c))
    have hhead := headChar_append (headChar_utf8EncodeChar hencode) (cs.flatMap String.utf8EncodeChar)
    rw [List.flatMap_cons, hencode, List.cons_append, marks, hhead]
    simp only [List.drop_left, ih, List.map_cons]

theorem flatMap_bytes_char (cs : List Char) : (cs.map Mark.char).flatMap Mark.bytes = bytes (String.ofList cs) := by
  rw [bytes_eq, String.toList_ofList, List.flatMap_map]
  exact List.flatMap_congr fun c _ => bytes_char c

theorem bytes_empty : bytes "" = [] := by simp [bytes_eq]

theorem bytes_append (s t : String) : bytes (s ++ t) = bytes s ++ bytes t := by
  rw [bytes_eq, bytes_eq, bytes_eq, String.toList_append, List.flatMap_append]

end Parcelgen.Text

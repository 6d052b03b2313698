import Parcelgen.Text.Bytes

/-!
The bytes of a text are the encodings of its characters in turn, and the text can be read back from them. A byte below 0x80 stands for a
character by itself: no longer encoding holds one.
-/

namespace Parcelgen.Text

theorem toList_loop (bs : ByteArray) (i : Nat) (r : List UInt8) : ByteArray.toList.loop bs i r = r.reverse ++ bs.data.toList.drop i := by
  fun_induction ByteArray.toList.loop bs i r with
  | case1 i r h ih =>
    have hlength : i < bs.data.toList.length := by simpa using h
    have hget : bs.get! i = bs.data.toList[i] := by
      cases bs
      exact getElem!_pos _ i h
    rw [ih, List.drop_eq_getElem_cons hlength, hget, List.reverse_cons, List.append_assoc, List.singleton_append]
  | case2 i r h =>
    have hlength : bs.data.toList.length ≤ i := by simpa using Nat.le_of_not_lt h
    rw [List.drop_eq_nil_of_le hlength, List.append_nil]

theorem bytes_eq_data (s : String) : bytes s = s.toByteArray.data.toList := by
  rw [bytes, ByteArray.toList, toList_loop]
  rfl

theorem bytes_eq (s : String) : bytes s = s.toList.flatMap String.utf8EncodeChar := by
  rw [bytes_eq_data, ← String.utf8Encode_toList, List.utf8Encode, List.toList_data_toByteArray]

theorem ofBytes?_bytes (s : String) : ofBytes? (bytes s) = some s := by
  rw [ofBytes?, bytes_eq_data, Array.toArray_toList, String.fromUTF8?]
  exact dif_pos s.isValidUTF8

theorem utf8EncodeChar_of_ascii {c : Char} (h : c.toNat < 0x80) : String.utf8EncodeChar c = [UInt8.ofNat c.toNat] := by
  have hle : c.val.toNat ≤ 0x7f := Nat.le_of_lt_succ h
  unfold String.utf8EncodeChar
  simp only [hle, if_true]
  rfl

/-- The bytes of a longer encoding carry some bits of the character and a mark of at least 0x80. -/
theorem marked_byte (n bits mark : Nat) (hbits : 0 < bits) (hmark : 0x80 ≤ mark) (hsum : bits + mark ≤ 0x100) :
    0x80 ≤ (UInt8.ofNat (n % bits + mark)).toNat := by
  have hlt := Nat.mod_lt n hbits
  rw [UInt8.toNat_ofNat', Nat.mod_eq_of_lt (by omega)]
  omega

theorem toNat_of_mem_utf8EncodeChar {c : Char} {b : UInt8} (hb : b ∈ String.utf8EncodeChar c) (h : b.toNat < 0x80) :
    c.toNat = b.toNat := by
  by_cases hc : c.toNat < 0x80
  · rw [utf8EncodeChar_of_ascii hc, List.mem_singleton] at hb
    rw [hb, UInt8.toNat_ofNat', Nat.mod_eq_of_lt (by omega)]
  · have hle : ¬ c.val.toNat ≤ 0x7f := fun hle => hc (Nat.lt_succ_of_le hle)
    have hhigh : 0x80 ≤ b.toNat := by
      unfold String.utf8EncodeChar at hb
      simp only [hle, if_false] at hb
      split at hb
      · simp only [List.mem_cons, List.not_mem_nil, or_false] at hb
        rcases hb with rfl | rfl <;> exact marked_byte _ _ _ (by decide) (by decide) (by decide)
      · split at hb
        · simp only [List.mem_cons, List.not_mem_nil, or_false] at hb
          rcases hb with rfl | rfl | rfl <;> exact marked_byte _ _ _ (by decide) (by decide) (by decide)
        · simp only [List.mem_cons, List.not_mem_nil, or_false] at hb
          rcases hb with rfl | rfl | rfl | rfl <;> exact marked_byte _ _ _ (by decide) (by decide) (by decide)
    omega

/-- An ASCII byte comes from the same character. -/
theorem exists_mem_of_mem_bytes {s : String} {b : UInt8} (hb : b ∈ bytes s) (h : b.toNat < 0x80) : ∃ c ∈ s.toList, c.toNat = b.toNat := by
  rw [bytes_eq] at hb
  obtain ⟨c, hc, hb⟩ := List.mem_flatMap.mp hb
  exact ⟨c, hc, toNat_of_mem_utf8EncodeChar hb h⟩

end Parcelgen.Text

/-! Digits: their values, numbers made of them, and characters given by their code point. -/

namespace Parcelgen.Text

def hexValue? (c : Char) : Option Nat :=
  if c.isDigit then some (c.toNat - '0'.toNat)
  else if 'a' ≤ c && c ≤ 'f' then some (c.toNat - 'a'.toNat + 10)
  else if 'A' ≤ c && c ≤ 'F' then some (c.toNat - 'A'.toNat + 10)
  else none

/-- The number that digits make in a base of at most sixteen; there must be at least one digit. -/
def digitsValue? (base : Nat) (s : List Char) : Option Nat :=
  if s.isEmpty then none
  else s.foldlM (fun n c => do
    let d ← hexValue? c
    if d < base then some (n * base + d) else none) 0

/-- The character whose code point the first `count` characters give as hexadecimal digits. -/
def codePoint? (count : Nat) (s : List Char) : Option Char := do
  let n ← digitsValue? 16 (s.take count)
  if count ≤ s.length && (n < 0xd800 || (0xe000 ≤ n && n < 0x110000)) then some (Char.ofNat n) else none

/-- Words for truth values. -/
def flagWord? (s : String) : Option Bool :=
  if ["1", "t", "T", "TRUE", "true", "True"].contains s then some true
  else if ["0", "f", "F", "FALSE", "false", "False"].contains s then some false
  else none

end Parcelgen.Text

/-! Text as bytes. A byte sequence reads as characters, with every byte that is no part of a character kept as a stray. -/

namespace Parcelgen.Text

/-- One unit of a byte sequence read as text. -/
inductive Mark where
  | char (c : Char)
  | stray (b : UInt8)
deriving Repr, DecidableEq

abbrev Bytes := List UInt8

def bytes (s : String) : Bytes := s.toUTF8.toList

def Mark.bytes : Mark → Bytes
  | .char c => Text.bytes c.toString
  | .stray b => [b]

def between (lo hi : Nat) (b : UInt8) : Bool := lo ≤ b.toNat && b.toNat ≤ hi

/-- Continuation bytes of the character that `lead` opens, with the range of the first of them; no bytes for a lead that opens none. -/
def tailShape (lead : Nat) : Option (Nat × Nat × Nat) :=
  if 0xc2 ≤ lead && lead ≤ 0xdf then some (1, 0x80, 0xbf)
  else if lead == 0xe0 then some (2, 0xa0, 0xbf)
  else if lead == 0xed then some (2, 0x80, 0x9f)
  else if 0xe1 ≤ lead && lead ≤ 0xef then some (2, 0x80, 0xbf)
  else if lead == 0xf0 then some (3, 0x90, 0xbf)
  else if 0xf1 ≤ lead && lead ≤ 0xf3 then some (3, 0x80, 0xbf)
  else if lead == 0xf4 then some (3, 0x80, 0x8f)
  else none

/-- The character at the head of a byte sequence and the number of bytes it takes after its first. -/
def headChar (lead : UInt8) (rest : Bytes) : Option (Char × Nat) :=
  if lead.toNat < 0x80 then some (Char.ofNat lead.toNat, 0)
  else match tailShape lead.toNat with
    | none => none
    | some (count, lo, hi) =>
      let tail := rest.take count
      if tail.length == count && (tail.head?.map (between lo hi)).getD false && tail.all (between 0x80 0xbf) then
        let keep := if count == 1 then 0x1f else if count == 2 then 0x0f else 0x07
        some (Char.ofNat (tail.foldl (fun n b => n * 64 + b.toNat % 64) (lead.toNat &&& keep)), count)
      else none

/-- Reads bytes as text, one unit after the other. -/
def marks : Bytes → List Mark
  | [] => []
  | b :: rest =>
    match headChar b rest with
    | some (c, taken) => .char c :: marks (rest.drop taken)
    | none => .stray b :: marks rest
termination_by bs => bs.length
decreasing_by all_goals simp only [List.length_cons, List.length_drop]; omega

/-- The text of a byte sequence that has no strays. -/
def ofBytes? (bs : Bytes) : Option String := String.fromUTF8? (ByteArray.mk bs.toArray)

/-- Lower-case hexadecimal digits, at least `width` of them. -/
def hex (width n : Nat) : String :=
  let digits := Nat.toDigits 16 n
  String.ofList (List.replicate (width - digits.length) '0' ++ digits)

end Parcelgen.Text

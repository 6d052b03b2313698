import Parcelgen.Text.Bytes

/-!
Text with stray bytes, held in a string: a byte outside any character is stood for by a private-use character, so that text functions carry it
along unchanged, and is released when the text is turned back into bytes.
-/

namespace Parcelgen.Text

/-- The character that stands for a stray byte. -/
def standIn (b : UInt8) : Char := Char.ofNat (0x10ff00 + b.toNat)

def holdStrays (bs : Bytes) : String :=
  String.ofList ((marks bs).map fun
    | .char c => c
    | .stray b => standIn b)

def releaseStrays (s : String) : Bytes :=
  s.toList.flatMap fun c =>
    if 0x10ff80 ≤ c.toNat then [UInt8.ofNat (c.toNat - 0x10ff00)] else bytes c.toString

end Parcelgen.Text

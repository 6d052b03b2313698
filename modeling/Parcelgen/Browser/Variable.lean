import Parcelgen.Text.Stray

/-! The variable that shows a type's code: the type's local name with its first byte in lower case. -/

namespace Parcelgen.Browser

open Text (Bytes)

/-- Only an ASCII letter has a lower case by itself; any other first byte is replaced, which leaves the bytes after it without a lead. -/
def variableBytes (name : String) : Bytes :=
  match Text.bytes name with
  | [] => Text.bytes "value"
  | b :: rest =>
    if b.toNat < 0x80 then Text.bytes (Char.ofNat b.toNat).toLower.toString ++ rest
    else Text.bytes "\ufffd" ++ rest

end Parcelgen.Browser

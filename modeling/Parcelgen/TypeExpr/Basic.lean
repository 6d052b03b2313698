import Parcelgen.Text.Blank
import Parcelgen.Text.Bytes

/-!
Type expressions such as `vec<Entry>[kMax][2]`, over bytes. A name is made of bytes that are letters, digits or underscores when each byte
is taken as one character; dimension text is kept as written, without blanks around it.
-/

namespace Parcelgen

open Text (Bytes)

inductive TypeExpr where
  /-- Dimensions are listed from outside in. -/
  | name (ident : Bytes) (dims : List Bytes)
  | vector (elem : TypeExpr) (dims : List Bytes)
deriving Repr, DecidableEq, Inhabited

namespace TypeExpr

/-- Dimension suffixes as written behind a type. -/
def dimText : List Bytes → Bytes
  | [] => []
  | dim :: dims => Text.bytes "[" ++ dim ++ Text.bytes "]" ++ dimText dims

def text : TypeExpr → Bytes
  | .name ident dims => ident ++ dimText dims
  | .vector elem dims => Text.bytes "vec<" ++ elem.text ++ Text.bytes ">" ++ dimText dims

/-- The letters among the 256 first characters. -/
def isLetterByte (b : UInt8) : Bool :=
  let n := b.toNat
  (0x41 ≤ n && n ≤ 0x5a) || (0x61 ≤ n && n ≤ 0x7a) || n == 0xaa || n == 0xb5 || n == 0xba || (0xc0 ≤ n && n ≤ 0xd6) ||
    (0xd8 ≤ n && n ≤ 0xf6) || 0xf8 ≤ n

def isDigitByte (b : UInt8) : Bool := 0x30 ≤ b.toNat && b.toNat ≤ 0x39

def startsName (b : UInt8) : Bool := b == 0x5f || isLetterByte b

def continuesName (b : UInt8) : Bool := startsName b || isDigitByte b

def isGap (b : UInt8) : Bool := b == 0x20 || b == 0x09

def isBlankMark : Text.Mark → Bool
  | .char c => Text.isBlank c
  | .stray _ => false

/-- Bytes without white space at either end. -/
def trim (bs : Bytes) : Bytes :=
  (((Text.marks bs).dropWhile isBlankMark).reverse.dropWhile isBlankMark).reverse.flatMap Text.Mark.bytes

end TypeExpr

end Parcelgen

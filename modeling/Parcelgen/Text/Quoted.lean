import Parcelgen.Text.Bytes
import Parcelgen.Text.Printable

/-! Quoted text in messages: printable characters stand for themselves, the rest is escaped, so a quoted text is always one line. -/

namespace Parcelgen.Text

def escapeChar (c : Char) : String :=
  let n := c.toNat
  if c == '"' || c == '\\' then String.ofList ['\\', c]
  else if isPrintable c then c.toString
  else if n == 7 then "\\a"
  else if n == 8 then "\\b"
  else if n == 12 then "\\f"
  else if n == 10 then "\\n"
  else if n == 13 then "\\r"
  else if n == 9 then "\\t"
  else if n == 11 then "\\v"
  else if n < 0x80 then "\\x" ++ hex 2 n
  else if n < 0x10000 then "\\u" ++ hex 4 n
  else "\\U" ++ hex 8 n

def escapeMark : Mark → String
  | .char c => escapeChar c
  | .stray b => "\\x" ++ hex 2 b.toNat

def quote (s : String) : String := "\"" ++ String.join (s.toList.map escapeChar) ++ "\""

/-- Quotes text that may hold bytes outside any character. -/
def quoteBytes (bs : Bytes) : String := "\"" ++ String.join ((marks bs).map escapeMark) ++ "\""

end Parcelgen.Text

import Parcelgen.Text.Letter

/-! Identifiers: a letter or underscore, then letters, digits and underscores, of any script. -/

namespace Parcelgen.Text

def startsIdentifier (c : Char) : Bool := c == '_' || isLetter c

def continuesIdentifier (c : Char) : Bool := startsIdentifier c || isDigit c

def isIdentifier (s : String) : Bool :=
  match s.toList with
  | [] => false
  | c :: cs => startsIdentifier c && cs.all continuesIdentifier

end Parcelgen.Text

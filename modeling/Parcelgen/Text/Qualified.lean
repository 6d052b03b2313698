/-! Names joined by `::`. -/

namespace Parcelgen.Text

/-- What follows the last `::`, if there is one. -/
def afterLastColons : List Char → Option (List Char)
  | [] => none
  | c :: cs =>
    match afterLastColons cs with
    | some r => some r
    | none => if c == ':' && cs.head? == some ':' then some cs.tail else none

/-- The last component of a qualified name. -/
def localName (s : String) : String :=
  match afterLastColons s.toList with
  | some r => String.ofList r
  | none => s

/-- The components between `::`, read from the left; a text without `::` is one component. -/
def componentChars : List Char → List (List Char)
  | [] => [[]]
  | ':' :: ':' :: cs => [] :: componentChars cs
  | c :: cs =>
    match componentChars cs with
    | part :: more => (c :: part) :: more
    | [] => [[c]]

def components (s : String) : List String := (componentChars s.toList).map String.ofList

end Parcelgen.Text

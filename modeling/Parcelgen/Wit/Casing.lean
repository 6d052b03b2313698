import Parcelgen.Text.Case

/-! C++ names for the names of component interfaces, which are words joined by `-`. -/

namespace Parcelgen.Wit

def isJoint (c : Char) : Bool := c == '_' || c == '-'

/-- The words between joints; empty ones do not count. -/
def words : List Char → List (List Char)
  | [] => []
  | c :: cs =>
    if isJoint c then words cs
    else match cs, words cs with
      | next :: _, word :: more => if isJoint next then [c] :: word :: more else (c :: word) :: more
      | _, more => [c] :: more

def capitalised : List Char → List Char
  | [] => []
  | c :: cs => Text.toUpper c :: cs

/-- Every word with a capital, put together: `http-request` gives `HttpRequest`. -/
def pascalCase (s : String) : String := String.ofList ((words s.toList).flatMap capitalised)

/-- Puts an underscore in front of a capital that starts a word: after a small letter, or between capitals and a small letter. -/
def separated (before : Option Char) : List Char → List Char
  | [] => []
  | c :: cs =>
    let starts :=
      match before with
      | none => false
      | some b =>
        Text.isUpper c && b != '_' && (!Text.isUpper b || ((cs.head?).map Text.isLower).getD false)
    (if starts then ['_', c] else [c]) ++ separated (some c) cs

/-- Small words joined by underscores; capitals in a row stay together, so `HTTPRequest` gives `http_request`. -/
def snakeCase (s : String) : String :=
  let joined := s.toList.map fun c => if c == '-' then '_' else c
  String.ofList ((separated none joined).map Text.toLower)

def upperSnakeCase (s : String) : String := Text.upper (snakeCase s)

/-- Words of C++ that cannot name a member. -/
def keywords : List String := [
  "alignas", "alignof", "and", "asm", "auto", "bool", "break", "case", "catch", "char", "class", "const", "constexpr", "continue",
  "decltype", "default", "delete", "do", "double", "else", "enum", "explicit", "export", "extern", "false", "float", "for", "friend",
  "goto", "if", "inline", "int", "long", "mutable", "namespace", "new", "noexcept", "not", "nullptr", "operator", "or", "private",
  "protected", "public", "register", "return", "short", "signed", "sizeof", "static", "struct", "switch", "template", "this", "throw",
  "true", "try", "typedef", "typeid", "typename", "union", "unsigned", "using", "virtual", "void", "volatile", "while", "xor"]

/-- The member name for a field or case. -/
def memberName (s : String) : String :=
  let name := snakeCase s
  if keywords.contains name then name ++ "_" else name

end Parcelgen.Wit

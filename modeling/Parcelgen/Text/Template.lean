import Parcelgen.Text.Quoted

/-!
Message templates: `%s` and `%v` take a value as it is, `%q` quoted, `%d` a number, and `%%` is a percent sign. A directive that does not suit
its value, that has none, or a value without a directive, shows in the text.
-/

namespace Parcelgen.Text

inductive Argument where
  | text (s : String)
  | number (n : Int)
deriving Repr, DecidableEq, Inhabited

namespace Argument

def plain : Argument → String
  | .text s => s
  | .number n => toString n

def typed : Argument → String
  | .text s => "string=" ++ s
  | .number n => "int=" ++ toString n

def under (verb : Char) (a : Argument) : String :=
  match verb, a with
  | 'v', a => a.plain
  | 's', .text s => s
  | 'd', .number n => toString n
  | 'q', .text s => quote s
  | 'q', .number n => "'" ++ (if n == 39 then "\\'" else if n == 34 then "\"" else escapeChar (Char.ofNat n.toNat)) ++ "'"
  | verb, a => "%!" ++ verb.toString ++ "(" ++ a.typed ++ ")"

end Argument

def fillChars : List Char → List Argument → String → String
  | [], [], out => out
  | [], args, out => out ++ "%!(EXTRA " ++ ", ".intercalate (args.map Argument.typed) ++ ")"
  | ['%'], args, out => fillChars [] args (out ++ "%!(NOVERB)")
  | '%' :: '%' :: cs, args, out => fillChars cs args (out.push '%')
  | '%' :: verb :: cs, [], out => fillChars cs [] (out ++ "%!" ++ verb.toString ++ "(MISSING)")
  | '%' :: verb :: cs, a :: args, out => fillChars cs args (out ++ a.under verb)
  | c :: cs, args, out => fillChars cs args (out.push c)
termination_by cs => cs.length

/-- The template with its directives replaced by the arguments, in order. -/
def fill (template : String) (args : List Argument) : String := fillChars template.toList args ""

/-- A message with arguments is a template; without any it stands as it is. -/
def message (template : String) (args : List Argument) : String :=
  if args.isEmpty then template else fill template args

end Parcelgen.Text

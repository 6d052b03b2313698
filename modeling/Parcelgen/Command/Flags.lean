import Parcelgen.Error
import Parcelgen.Text.Bytes
import Parcelgen.Text.Digit

/-! Flags of a command line. Flags and other arguments may be mixed, and two dashes alone end the flags. -/

namespace Parcelgen

structure FlagSpec where
  name : String
  short : Option Char := none
  /-- A switch takes a value only after an equals sign. -/
  isSwitch : Bool := false
deriving Repr, DecidableEq, Inhabited

/-- Flags that were given, in order, and the other arguments. -/
structure ParsedArgs where
  flags : List (String × String) := []
  rest : List String := []
deriving Repr, DecidableEq, Inhabited

namespace FlagSpec

/-- How messages call a flag. -/
def title (f : FlagSpec) : String :=
  (match f.short with
    | some c => "-" ++ c.toString ++ ", "
    | none => "") ++ "--" ++ f.name

/-- Checks the value of a flag. -/
def accept (f : FlagSpec) (value : String) : Except Error (String × String) :=
  if f.isSwitch && (Text.flagWord? value).isNone then
    .error (.context ("invalid argument " ++ Text.quote value ++ " for " ++ Text.quote f.title ++ " flag") (.plain "no truth value"))
  else .ok (f.name, value)

def quoteChar (c : Char) : String :=
  if c == '\'' then "'\\''" else if c == '"' then "'\"'" else "'" ++ Text.escapeChar c ++ "'"

/-- Messages name a short flag by its first byte. -/
def shortTitle (letters : List Char) : String :=
  let byte := ((Text.bytes (String.ofList letters)).head?.map UInt8.toNat).getD 0
  quoteChar (Char.ofNat byte) ++ " in -" ++ String.ofList letters

/-- Letters of short flags in one argument. The last one may take the rest of the argument, or the next argument, as its value. -/
def shorts (specs : List FlagSpec) (next : Option String) : List Char → Except Error (List (String × String) × Bool)
  | [] => .ok ([], false)
  | c :: more =>
    match specs.find? (·.short == some c) with
    | none => .error (.plain ("unknown shorthand flag: " ++ shortTitle (c :: more)))
    | some f =>
      match more with
      | '=' :: d :: value => do return ([← f.accept (String.ofList (d :: value))], false)
      | _ =>
        if f.isSwitch then do
          let first ← f.accept "true"
          let (flags, taken) ← shorts specs next more
          return (first :: flags, taken)
        else match more, next with
          | _ :: _, _ => do return ([← f.accept (String.ofList more)], false)
          | [], some value => do return ([← f.accept value], true)
          | [], none => .error (.plain ("flag needs an argument: " ++ shortTitle (c :: more)))

/-- One long flag, given without its dashes. -/
def long (specs : List FlagSpec) (next : Option String) (body : List Char) : Except Error ((String × String) × Bool) :=
  let name := String.ofList (body.takeWhile (· != '='))
  if body.head?.all fun c => c == '-' || c == '=' then .error (.plain ("bad flag syntax: --" ++ String.ofList body))
  else match specs.find? (·.name == name) with
    | none => .error (.plain ("unknown flag: --" ++ name))
    | some f =>
      match body.dropWhile (· != '=') with
      | _ :: value => do return (← f.accept (String.ofList value), false)
      | [] =>
        if f.isSwitch then do return (← f.accept "true", false)
        else match next with
          | some value => do return (← f.accept value, true)
          | none => .error (.plain ("flag needs an argument: --" ++ name))

/-- Reads all arguments; `skip` passes over one that a flag has taken as its value. -/
def readArgs (specs : List FlagSpec) (skip : Bool) : List String → Except Error ParsedArgs
  | [] => .ok {}
  | arg :: rest =>
    if skip then readArgs specs false rest
    else match arg.toList with
      | ['-', '-'] => .ok { rest }
      | '-' :: '-' :: body => do
        let (flag, taken) ← long specs rest.head? body
        let more ← readArgs specs taken rest
        return { more with flags := flag :: more.flags }
      | '-' :: c :: letters => do
        let (flags, taken) ← shorts specs rest.head? (c :: letters)
        let more ← readArgs specs taken rest
        return { more with flags := flags ++ more.flags }
      | _ => do
        let more ← readArgs specs false rest
        return { more with rest := arg :: more.rest }

/-- Whether an argument is a flag that takes the next argument as its value; a flag that is not known is held to do so. -/
def takesNext (specs : List FlagSpec) (arg : String) : Bool :=
  match arg.toList with
  | '-' :: '-' :: body =>
    !body.contains '=' && !(specs.any fun f => f.isSwitch && f.name == String.ofList body)
  | ['-', c] => c != '=' && c.toNat < 0x80 && !(specs.any fun f => f.isSwitch && f.short == some c)
  | _ => false

end FlagSpec

namespace ParsedArgs

/-- The value of a flag; of several the last one counts. -/
def value (a : ParsedArgs) (name : String) : String := ((a.flags.reverse.lookup name)).getD ""

def isOn (a : ParsedArgs) (name : String) : Bool := (Text.flagWord? (a.value name)).getD false

end ParsedArgs

end Parcelgen

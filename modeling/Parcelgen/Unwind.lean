import Parcelgen.Layout.Script
import Parcelgen.Text.Blank
import Parcelgen.Text.Case

/-! How generated code leaves after a failed transfer. -/

namespace Parcelgen

inductive Unwind where
  /-- Leaves the status in the error variable and carries on. -/
  | ignore
  /-- Jumps to the label in front of the function's return. -/
  | goto
  /-- Leaves the enclosing loop or switch case. -/
  | exit
  /-- Returns the error variable. -/
  | return
  /-- A value outside the closed set; it has no statement. -/
  | unknown
deriving Repr, DecidableEq, Inhabited

/-- Names that unwind statements refer to. -/
structure Vocabulary where
  errVar : String
  ok : String
  label : String
deriving Repr, DecidableEq, Inhabited

namespace Unwind

/-- The closed set in its numbering. -/
def all : List Unwind := [.ignore, .goto, .exit, .return]

def ofIndex (n : Nat) : Unwind := all.getD n .unknown

def name : Unwind → String
  | .ignore => "ignore"
  | .goto => "goto"
  | .exit => "break"
  | .return => "return"
  | .unknown => "unknown"

def ofName? (s : String) : Option Unwind := all.find? (·.name == s)

/-- Reads a configured mode, in any letter case and with blanks around it. -/
def parse (s : String) : Except Fault Unwind :=
  match ofName? (Text.lower (Text.trim s)) with
  | some m => .ok m
  | none => .error (.invalidInput .config []
      ("unknown error mode " ++ Text.quote s ++ " (want ignore, goto, break or return)"))

def statement (v : Vocabulary) : Unwind → Except Fault String
  | .ignore => .ok ("/* " ++ v.errVar ++ " ignored! */")
  | .goto => .ok ("goto " ++ v.label ++ ";")
  | .exit => .ok "break;"
  | .return => .ok ("return " ++ v.errVar ++ ";")
  | .unknown => .error (.unknownErrorMode unknown.name)

/-- The unwind statement on a line of its own, where the failure is already known. -/
def failure (m : Unwind) (v : Vocabulary) : Layout :=
  match m.statement v with
  | .ok stmt => .text (stmt ++ "\n")
  | .error f => .fail f

/-- A status test in front of the unwind statement; ignoring leaves only its mark. -/
def check (m : Unwind) (v : Vocabulary) : Layout :=
  match m.statement v with
  | .ok stmt =>
    if m == .ignore then .text (stmt ++ "\n\n")
    else .text ("if (" ++ v.errVar ++ " != " ++ v.ok ++ ") \x7b " ++ stmt ++ " \x7d\n\n")
  | .error f => .fail f

end Unwind

end Parcelgen

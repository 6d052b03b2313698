import Parcelgen.Command.Flags

/-! Command lines: the command, its flags and its arguments. -/

namespace Parcelgen

inductive Verb where
  /-- Generates code from schema files. -/
  | generate
  /-- Generates code from resolved component interfaces. -/
  | wit
  /-- Shows the statements of a package on a terminal. -/
  | browse
deriving Repr, DecidableEq, Inhabited

structure Invocation where
  verb : Verb
  config : String := ""
  logLevel : String := ""
  outputDir : String := ""
  /-- Takes the place of the namespace of the input. -/
  space : String := ""
  toStdout : Bool := false
  paths : List String := []
deriving Repr, DecidableEq, Inhabited

namespace Verb

def all : List Verb := [.generate, .wit, .browse]

def name : Verb → String
  | .generate => "generate"
  | .wit => "wit"
  | .browse => "browse"

def ofName? (s : String) : Option Verb := all.find? (·.name == s)

end Verb

namespace Invocation

def program : String := "marshalgen"

/-- Flags that every command has. -/
def commonFlags : List FlagSpec := [{ name := "config", short := some 'c' }, { name := "log-level" }]

def helpFlag : FlagSpec := { name := "help", short := some 'h', isSwitch := true }

def flagsOf (verb : Verb) : List FlagSpec :=
  let own : List FlagSpec := match verb with
    | .browse => [{ name := "namespace", short := some 'n' }]
    | _ => [{ name := "out", short := some 'o' }, { name := "namespace", short := some 'n' }, { name := "stdout", isSwitch := true }]
  own ++ commonFlags ++ [helpFlag]

/-- The arguments that are neither flags nor values of flags. A flag that takes a value and is the last argument but one ends the list. -/
def plainArgs : List String → List String
  | [] => []
  | arg :: rest =>
    if arg == "--" then []
    else if FlagSpec.takesNext commonFlags arg then
      match rest with
      | _ :: r :: rs => plainArgs (r :: rs)
      | _ => []
    else if arg == "" || arg.startsWith "-" then plainArgs rest
    else arg :: plainArgs rest

/-- Takes out the first argument that is `word` and no value of a flag. -/
def without (word : String) : List String → List String
  | [] => []
  | arg :: rest =>
    if arg == "--" then arg :: rest
    else if FlagSpec.takesNext commonFlags arg then
      match rest with
      | value :: rest => arg :: value :: without word rest
      | [] => [arg]
    else if !arg.startsWith "-" && arg == word then rest
    else arg :: without word rest

/-- The least number of letters to insert, drop or change to make one word the other. -/
def distance (a b : List Char) : Nat :=
  let start := List.range (b.length + 1)
  (a.foldl (fun row c =>
    let step (acc : List Nat × Nat × List Nat) (d : Char) : List Nat × Nat × List Nat :=
      let (done, left, old) := acc
      let diag := old.headD 0
      let up := (old.drop 1).headD 0
      let cost := if c == d then diag else min (min left up) diag + 1
      (cost :: done, cost, old.drop 1)
    let first := row.headD 0 + 1
    (b.foldl step ([first], first, row)).1.reverse) start).getLastD 0

/-- Commands that a mistyped word may stand for: those it starts, and those within two letters of it. -/
def suggestions (word : String) : List String :=
  let word := word.toLower
  (Verb.all.map Verb.name ++ ["completion"]).filter fun name =>
    distance word.toList name.toList ≤ 2 || name.startsWith word

def unknownCommand (word : String) : Error :=
  let near := suggestions word
  .plain ("unknown command " ++ Text.quote word ++ " for " ++ Text.quote program ++
    (if near.isEmpty then "" else "\n\nDid you mean this?\n" ++ String.join (near.map fun s => "\t" ++ s ++ "\n")))

/-- How many arguments a command takes. -/
def checkCount (verb : Verb) (count : Nat) : Except Error Unit :=
  match verb with
  | .browse => if count == 1 then .ok () else .error (.plain ("accepts 1 arg(s), received " ++ toString count))
  | _ => if count == 0 then .error (.plain "requires at least 1 arg(s), only received 0") else .ok ()

/-- Reads a command line; `none` asks for help. -/
def parse (args : List String) : Except Error (Option Invocation) := do
  match (plainArgs args).head? with
  | none =>
    let _ ← FlagSpec.readArgs (commonFlags ++ [helpFlag]) false args
    return none
  | some word =>
    match Verb.ofName? word with
    | none => if word == "help" || word == "completion" then return none else throw (unknownCommand word)
    | some verb =>
      let a ← FlagSpec.readArgs (flagsOf verb) false (without word args)
      if a.isOn "help" then return none
      checkCount verb a.rest.length
      return some {
        verb, config := a.value "config", logLevel := a.value "log-level", outputDir := a.value "out", space := a.value "namespace"
        toStdout := a.isOn "stdout", paths := a.rest }

end Invocation

end Parcelgen

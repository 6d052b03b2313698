import Parcelgen.Browser.View
import Parcelgen.Command.Plan

/-! The program: it reads what a command line asks for, makes the plan and carries it out. -/

namespace Parcelgen.Program

def readFile (path : String) : IO FileRead := do
  try
    let data ← IO.FS.readBinFile path
    return match String.fromUTF8? data with
      | some text => .text text
      | none => .unreadable
  catch
    | .noFileOrDirectory .. => return .absent
    | _ => return .unreadable

/-- The files that a command may look at, with their content. -/
def readAll (inv : Invocation) : IO (List (String × FileRead)) :=
  (inv.config :: inv.paths).mapM fun path => return (path, ← readFile path)

def readEnvironment : IO (List (String × String)) :=
  Settings.variableNames.filterMapM fun name => return (← IO.getEnv name).map (name, ·)

def fail (e : Error) : IO UInt32 := do
  IO.eprintln ("Error: " ++ e.message)
  return 1

def perform : List FileStep → IO UInt32
  | [] => return 0
  | s :: rest => do
    let failure ← try
        match s with
        | .makeDirectory path => IO.FS.createDirAll path
        | .write path text => IO.FS.writeFile path text
        pure none
      catch
        | .noFileOrDirectory .. => pure (some StepFailure.absent)
        | _ => pure (some .blocked)
    match failure with
    | none => perform rest
    | some f => fail (s.failed f)

/-- Shows the browser after each key; a line of input is one key, an empty line the enter key. -/
partial def browse (input : IO.FS.Stream) (m : Browser.Model) : IO UInt32 := do
  IO.println ("\n".intercalate m.view)
  let line ← input.getLine
  if line == "" then return 0
  let name := (line.dropEndWhile fun c => c == '\n' || c == '\r').toString
  let msg : Browser.Message := .key (if name == "" then { name := "enter" } else { name, typed := name.toList })
  if m.quits msg then return 0 else browse input (m.step msg)

def usage : String :=
  "marshalgen turns package schemas into C++ headers and sources that\n" ++
  "marshal structs, enums, strings, vectors, arrays and interface handles\n" ++
  "through a parcel, together with client proxies and server stubs.\n\n" ++
  "Examples:\n" ++
  "  marshalgen generate foo.yaml -o out/      # schema to foo.h and foo.cpp\n" ++
  "  marshalgen wit resolve.json -n acme::V1   # WIT resolve JSON to C++\n" ++
  "  marshalgen browse foo.yaml                # inspect generated statements\n"

def run (args : List String) : IO UInt32 := do
  match Invocation.parse args with
  | .error e => fail e
  | .ok none =>
    IO.print usage
    return 0
  | .ok (some inv) =>
    let files ← readAll inv
    let env ← readEnvironment
    let stdout ← IO.getStdout
    let around : Surroundings := {
      read := fun path => (files.lookup path).getD .absent, env := fun name => env.lookup name, terminal := ← stdout.isTty }
    match inv.plan around with
    | .error e => fail e
    | .ok (.print text) =>
      IO.print text
      return 0
    | .ok (.write steps) => perform steps
    | .ok (.browse g p) => browse (← IO.getStdin) (Browser.Model.start g p)

end Parcelgen.Program

def main (args : List String) : IO UInt32 := Parcelgen.Program.run args

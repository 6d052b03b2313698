import Parcelgen.Command.Invocation
import Parcelgen.Generator.Output
import Parcelgen.Schema.Load
import Parcelgen.Settings.Basic
import Parcelgen.Wit.Load

/-!
What a command does. Everything that can fail without touching the file tree comes first and ends in a plan; only a plan holds steps that
write, so a command that fails before has written nothing.
-/

namespace Parcelgen

/-- What the surroundings offer a command. -/
structure Surroundings where
  read : String → FileRead
  env : String → Option String
  /-- Whether the output is a terminal. -/
  terminal : Bool := false

inductive Plan where
  | print (text : String)
  | write (steps : List FileStep)
  | browse (g : Generator) (p : Package)

namespace FileStep

/-- The error of a command whose step fails. -/
def failed (s : FileStep) (f : StepFailure) : Error :=
  let cause : Error := match f with
    | .absent => .absentFile
    | .blocked => .plain "blocked"
  match s with
  | .makeDirectory path => .context ("create output directory " ++ path) cause
  | .write path _ => .context ("write " ++ path) cause

end FileStep

namespace Output

/-- The two files of a package, by name. -/
def files (o : Output) : List (String × String) := [(o.headerName, o.header), (o.sourceName, o.source)]

/-- Both files one after the other, each under a comment with its name. -/
def printed (o : Output) : String := String.join (o.files.map fun (name, text) => "// " ++ name ++ "\n" ++ text ++ "\n")

end Output

namespace Plan

/-- Makes the directory, then writes the files of all packages in order. -/
def steps (dir : String) (outs : List Output) : List FileStep :=
  .makeDirectory dir :: (outs.flatMap Output.files).map fun (name, text) => .write (Path.join dir name) text

end Plan

namespace Invocation

/-- Settings with the flags that take their place. -/
def settings (inv : Invocation) (around : Surroundings) : Except Error Settings := do
  let s ← Settings.load around.read around.env inv.config
  let s := if inv.logLevel == "" then s else { s with logLevel := inv.logLevel }
  let _ ← LogLevel.parse s.logLevel
  return { s with
    space := if inv.space == "" then s.space else inv.space
    outputDir := if inv.outputDir == "" then s.outputDir else inv.outputDir }

/-- Whether a file holds a resolve, by its extension. -/
def isResolve (path : String) : Bool := Text.isWord ".json" (Path.extension path)

def loadPackage (inv : Invocation) (read : String → FileRead) (space path : String) : Except Error Package :=
  match inv.verb with
  | .generate => Schema.loadPackage read path space
  | .wit => Wit.loadPackage read path space
  | .browse => if isResolve path then Wit.loadPackage read path space else Schema.loadPackage read path space

/-- The first name that an earlier package has, too. -/
def repeatedName? : List String → List String → Option String
  | _, [] => none
  | seen, name :: rest => if seen.contains name then some name else repeatedName? (name :: seen) rest

def checkDistinct (ps : List Package) : Except Error Unit :=
  match repeatedName? [] (ps.map Package.name) with
  | some name =>
    .error (.hinted (.plain ("package " ++ name ++ " given more than once"))
      "every package writes <name>.h and <name>.cpp, so package names must differ")
  | none => .ok ()

/-- The plan of a command, or why it cannot be carried out. -/
def plan (inv : Invocation) (around : Surroundings) : Except Error Plan := do
  let s ← inv.settings around
  match inv.verb with
  | .browse =>
    if !around.terminal then
      throw (.hinted (.plain "browse needs a terminal") "use `marshalgen generate --stdout` to print generated code instead")
    let p ← inv.loadPackage around.read s.space (inv.paths.headD "")
    let g ← s.generator.mapError Error.fault
    return .browse g p
  | _ =>
    let ps ← inv.paths.mapM (inv.loadPackage around.read s.space)
    checkDistinct ps
    let g ← s.generator.mapError Error.fault
    let outs ← g.generateAll false ps
    return if inv.toStdout then .print (String.join (outs.map Output.printed)) else .write (Plan.steps s.outputDir outs)

end Invocation

/-- Carries steps out in order, up to the first that fails. -/
def FileTree.perform (t : FileTree) : List FileStep → FileTree × Option Error
  | [] => (t, none)
  | s :: rest =>
    match t.apply s with
    | .ok t => t.perform rest
    | .error f => (t, some (s.failed f))

end Parcelgen

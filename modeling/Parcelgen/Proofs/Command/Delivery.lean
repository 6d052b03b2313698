import Parcelgen.Proofs.Files.Tree
import Parcelgen.Proofs.Generator.Batch
import Parcelgen.Proofs.Schema.Trace
import Parcelgen.Proofs.Text.Qualified
import Parcelgen.Proofs.TypeExpr.Grammar
import Parcelgen.Proofs.Wit.Name

/-!
Commands that write files do all or nothing. What they need is gathered before the first step is taken (`Ready`), and a command for which
something of it is missing (`Fails`) leaves the file tree as it was. Otherwise two files are written for each package, under paths of their
own, because loaded packages have names that can be part of a file name.
-/

namespace Parcelgen

/-! Names of packages and of their files -/

namespace Invocation

variable {inv : Invocation} {around : Surroundings}

/-- Everything that the writing of files needs. -/
structure Ready (inv : Invocation) (around : Surroundings) where
  settings : Settings
  packages : List Package
  generator : Generator
  outputs : List Output
  configured : inv.settings around = .ok settings
  loaded : inv.paths.map (inv.loadPackage around.read settings.space) = packages.map .ok
  distinct : (packages.map Package.name).Nodup
  accepted : settings.generator = .ok generator
  generated : packages.map generator.generated = outputs.map .ok

/-- Something that the writing of files needs cannot be had. -/
inductive Fails (inv : Invocation) (around : Surroundings) : Prop
  | settings {e : Error} (h : inv.settings around = .error e)
  | load {s : Settings} {path : String} {e : Error} (hs : inv.settings around = .ok s) (hpath : path ∈ inv.paths)
      (h : inv.loadPackage around.read s.space path = .error e)
  | names {s : Settings} {i j : Nat} {a b : String} {p q : Package} (hs : inv.settings around = .ok s) (hij : i < j)
      (ha : inv.paths[i]? = some a) (hb : inv.paths[j]? = some b) (hp : inv.loadPackage around.read s.space a = .ok p)
      (hq : inv.loadPackage around.read s.space b = .ok q) (h : p.name = q.name)
  | options {s : Settings} {f : Fault} (hs : inv.settings around = .ok s) (h : s.generator = .error f)
  | generate {s : Settings} {path : String} {p : Package} {g : Generator} {e : Error} (hs : inv.settings around = .ok s)
      (hpath : path ∈ inv.paths) (hp : inv.loadPackage around.read s.space path = .ok p) (hg : s.generator = .ok g)
      (h : g.generated p = .error e)

/-- The two files of a package by name, with their texts. -/
def packageFiles (p : Package) (o : Output) : List (String × String) := [(p.name ++ ".h", o.header), (p.name ++ ".cpp", o.source)]

namespace Ready

/-- The files by name, with the text that is generated for their package. -/
def contents (r : inv.Ready around) : List (String × String) := (r.packages.zip r.outputs).flatMap fun e => packageFiles e.1 e.2

/-- The files by path. -/
def files (r : inv.Ready around) : List (String × String) := r.contents.map fun f => (Path.join r.settings.outputDir f.1, f.2)

/-- First the directory, then the files. -/
def steps (r : inv.Ready around) : List FileStep :=
  .makeDirectory r.settings.outputDir :: r.files.map fun f => .write f.1 f.2

end Ready

end Invocation

end Parcelgen

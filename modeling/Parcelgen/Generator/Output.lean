import Parcelgen.Generator.Header
import Parcelgen.Generator.Source

/-! Generated text: whole packages, batches of packages, and the code for a single variable. -/

namespace Parcelgen

namespace Generator

/-- Header and source of a package, with the events on the way. A fault in a part is placed inside the package. -/
def generate (g : Generator) (p : Package) : List Event × Except Error Output :=
  match p.validate g.dialect with
  | .error f => ([], .error f)
  | .ok () =>
    let header := Layout.runAll {} (g.header p)
    match header.error with
    | some e => (header.events, .error (e.within [p.name]))
    | none =>
      let source := Layout.runAll {} (g.source p)
      match source.error with
      | some e => (header.events ++ source.events, .error (e.within [p.name]))
      | none =>
        let done : Event := {
          level := "info", message := "generated package"
          fields := [
            ("package", .text p.name), ("types", .count p.types.length), ("interfaces", .count p.interfaces.length),
            ("header_bytes", .count header.printer.written.utf8ByteSize),
            ("source_bytes", .count source.printer.written.utf8ByteSize)] }
        (header.events ++ source.events ++ [done], .ok {
          package := p.name, headerName := p.name ++ ".h", sourceName := p.name ++ ".cpp"
          header := header.printer.written, source := source.printer.written })

def generated (g : Generator) (p : Package) : Except Error Output := (g.generate p).2

/-- The outputs of all packages in order, or an error; a batch cancelled beforehand starts no package. -/
def generateAll (g : Generator) (cancelled : Bool) (ps : List Package) : Except Error (List Output) :=
  if cancelled && !ps.isEmpty then .error (.plain "context canceled") else ps.mapM g.generated

/-- The statements that read or write one variable through a parcel; a reader starts with the variable's declaration. -/
def snippet (g : Generator) (t : WireType) (name : String) (reader : Bool) : Except Error String :=
  let site : Site := { dialect := g.dialect, buffer := { name := "parcel" }, reader, mode := g.proxyMode }
  let decl := if reader then orFail (t.declarator g.dialect .result name) fun s => [.text (s ++ ";\n\n")] else []
  Layout.render [.within [name] (decl ++ Stmt.layoutAll g.dialect (inFunction [] (site.topLevel t name)))]

end Generator

end Parcelgen

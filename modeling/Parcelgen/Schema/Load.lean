import Parcelgen.Files
import Parcelgen.Schema.OfToml
import Parcelgen.Schema.OfYaml
import Parcelgen.Schema.Resolve
import Parcelgen.Text.Case

/-! Schema files. The extension of a file tells its format. -/

namespace Parcelgen.Schema

inductive Format where
  | yaml
  | toml
  | unknown (index : Nat)
deriving Repr, DecidableEq, Inhabited

namespace Format

def ofIndex : Nat → Format
  | 0 => .yaml
  | 1 => .toml
  | n => .unknown n

def name : Format → String
  | .toml => "toml"
  | _ => "yaml"

def ofPath? (path : String) : Option Format :=
  let ext := Text.lower (Path.extension path)
  if ext == ".yaml" || ext == ".yml" then some .yaml else if ext == ".toml" then some .toml else none

end Format

def Document.parse (format : Format) (text : String) : Except Error Document :=
  match format with
  | .yaml => Document.ofYaml text
  | .toml => Document.ofToml text
  | .unknown n => .error (.fault { phase := .load, kind := .invalidInput, detail := "unknown document format " ++ toString n })

/-- Reads the document at `path`; errors of its content are reported under the path. -/
def Document.load (read : String → FileRead) (path : String) : Except Error Document :=
  match Format.ofPath? path with
  | none => .error (.hinted (.plain ("cannot tell the format of " ++ path)) "schema files must end in .yaml, .yml or .toml")
  | some format =>
    match read path with
    | .text text => (Document.parse format text).mapError (·.within [path])
    | .absent => .error (.context ("read schema " ++ path) .absentFile)
    | .unreadable => .error (.context ("read schema " ++ path) (.plain "unreadable"))

/-- Reads the document at `path` and resolves it. A namespace that is given takes the place of its own. -/
def loadPackage (read : String → FileRead) (path space : String) : Except Error Package := do
  let doc ← Document.load read path
  let doc := if space == "" then doc else { doc with space }
  (doc.resolve).mapError fun f => .fault (f.within [path])

end Parcelgen.Schema

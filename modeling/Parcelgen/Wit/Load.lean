import Parcelgen.Files
import Parcelgen.Wit.Convert
import Parcelgen.Wit.Decode

/-! Files that hold a resolve. -/

namespace Parcelgen.Wit

/-- Reads the resolve at `path` and converts it; errors of its content are reported under the path. -/
def loadPackage (read : String → FileRead) (path space : String) : Except Error Package :=
  match read path with
  | .absent => .error (failed .absentFile)
  | .unreadable => .error (failed (.plain "unreadable"))
  | .text text =>
    match Resolve.ofText? text with
    | none => .error (failed (.plain "malformed resolve"))
    | some r => (r.toPackage space).mapError fun f => .fault (f.within [path])
where
  failed (cause : Error) : Error :=
    .hinted (.context ("load WIT resolve " ++ path) cause) "produce the file with `wasm-tools component wit --json`"

end Parcelgen.Wit

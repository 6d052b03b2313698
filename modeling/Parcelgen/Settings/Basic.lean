import Parcelgen.Generator.Basic
import Parcelgen.Settings.Source
import Parcelgen.Text.Blank

/-! The settings of the program, checked. -/

namespace Parcelgen

structure Settings where
  dialect : Dialect := {}
  proxyMode : String := Unwind.name ({} : Options).proxyMode
  stubMode : String := Unwind.name ({} : Options).stubMode
  typeHelpers : Bool := ({} : Options).typeHelpers
  includes : List String := ({} : Options).includes
  /-- Takes the place of the namespace of a loaded package, unless it is empty. -/
  space : String := ""
  outputDir : String := "."
  logLevel : String := "info"
  /-- Log lines for people instead of programs. -/
  logDevelopment : Bool := false
deriving Repr, DecidableEq, Inhabited

namespace SettingSource

def text? (s : SettingSource) (sect key : String) (standard : String) : Option String :=
  s.get? SettingValue.asText? "" sect key standard

def flag? (s : SettingSource) (sect key : String) (standard : Bool) : Option Bool :=
  s.get? SettingValue.asFlag? false sect key standard

def texts? (s : SettingSource) (sect key : String) (standard : List String) : Option (List String) :=
  s.get? SettingValue.asTexts? [] sect key standard

def dialect? (s : SettingSource) : Option Dialect :=
  Dialect.entries.foldlM (fun d (key, get, put) => do return put d (← s.text? "dialect" key (get {}))) {}

/-- All settings; `none` if some value cannot be taken as what it should be. -/
def settings? (s : SettingSource) : Option Settings := do
  let base : Settings := {}
  return {
    dialect := ← s.dialect?
    proxyMode := ← s.text? "generate" "proxy_error_mode" base.proxyMode
    stubMode := ← s.text? "generate" "stub_error_mode" base.stubMode
    typeHelpers := ← s.flag? "generate" "type_helpers" base.typeHelpers
    includes := ← s.texts? "generate" "includes" base.includes
    space := ← s.text? "generate" "namespace" base.space
    outputDir := ← s.text? "output" "dir" base.outputDir
    logLevel := ← s.text? "log" "level" base.logLevel
    logDevelopment := ← s.flag? "log" "development" base.logDevelopment }

end SettingSource

inductive LogLevel where
  | debug
  | info
  | warn
  | error
  | dpanic
  | panic
  | fatal
deriving Repr, DecidableEq, Inhabited

namespace LogLevel

def all : List LogLevel := [.debug, .info, .warn, .error, .dpanic, .panic, .fatal]

def name : LogLevel → String
  | .debug => "debug"
  | .info => "info"
  | .warn => "warn"
  | .error => "error"
  | .dpanic => "dpanic"
  | .panic => "panic"
  | .fatal => "fatal"

/-- A level in any letter case; no text means the usual one. -/
def parse (s : String) : Except Error LogLevel :=
  let word := Text.lower s
  if word == "" then .ok .info
  else if word == "warning" then .ok .warn
  else match all.find? (·.name == word) with
    | some level => .ok level
    | none =>
      .error (.hinted (.context ("log level " ++ Text.quote s) (.plain "unrecognized level")) "use debug, info, warn or error")

end LogLevel

namespace Settings

/-- All settings by section and key. -/
def keys : List (String × List String) := [
  ("dialect", Dialect.entries.map (·.1)),
  ("generate", ["proxy_error_mode", "stub_error_mode", "type_helpers", "includes", "namespace"]),
  ("output", ["dir"]),
  ("log", ["level", "development"])]

/-- The variables of the environment that can change a setting. -/
def variableNames : List String :=
  keys.flatMap fun (sect, names) => SettingSource.variableName [sect] :: names.map fun key => SettingSource.variableName [sect, key]

/-- Names that generated code cannot do without. -/
def requiredNames : List String :=
  ["prefix", "err_var", "ok", "error_label", "status_type", "parcel_type", "read_buffer", "write_buffer"]

def modes (s : Settings) : Except Fault (Unwind × Unwind) := do
  let proxy ← (Unwind.parse s.proxyMode).mapError (·.within ["generate", "proxy_error_mode"])
  let stub ← (Unwind.parse s.stubMode).mapError (·.within ["generate", "stub_error_mode"])
  return (proxy, stub)

def entry (s : Settings) (key : String) : String :=
  ((Dialect.entries.find? (·.1 == key)).map fun (_, get, _) => get s.dialect).getD ""

/-- Both modes must be known and the required names must not be blank. -/
def validate (s : Settings) : Except Fault Unit := do
  let _ ← s.modes
  match requiredNames.find? fun key => Text.trim (s.entry key) == "" with
  | some key => throw (.invalidInput .config ["dialect", key] "must not be empty")
  | none => return ()

/-- Settings from the environment and the file at `path`, if one is given. -/
def load (read : String → FileRead) (env : String → Option String) (path : String) : Except Error Settings := do
  let file ← if path == "" then pure [] else readSettings read path
  match ({ env, file } : SettingSource).settings? with
  | none => throw (.context "decode config" (.plain "value of the wrong kind"))
  | some s =>
    s.validate.mapError Error.fault
    return s

def options (s : Settings) : Except Fault Options := do
  let (proxyMode, stubMode) ← s.modes
  return { dialect := some s.dialect, proxyMode, stubMode, typeHelpers := s.typeHelpers, includes := s.includes }

def generator (s : Settings) : Except Fault Generator := do Generator.ofOptions (← s.options)

end Settings

end Parcelgen

import Parcelgen.Error
import Parcelgen.Files
import Parcelgen.Settings.Value

/-! Where settings come from: variables of the environment, then a file, then defaults. -/

namespace Parcelgen

structure SettingSource where
  /-- The variables that are set. -/
  env : String → Option String
  /-- The content of the settings file, keys in lower case. -/
  file : List (String × SettingValue) := []

/-- What a source says about one setting. -/
inductive Found where
  /-- Nothing, so the default holds. -/
  | unset
  /-- The variable of its section hides it: it has no value at all. -/
  | hidden
  | given (v : SettingValue)
  /-- The section is no table. -/
  | malformed
deriving Repr, Inhabited

namespace SettingSource

/-- The variable of a setting or a section. -/
def variableName (path : List String) : String := "MARSHALGEN_" ++ Text.upper ("_".intercalate path)

/-- What the environment says; a variable that is empty counts as not set. -/
def override? (s : SettingSource) (path : List String) : Option String := (s.env (variableName path)).filter (· != "")

def isNull : SettingValue → Bool
  | .null => true
  | _ => false

/-- The value in the file, under its dotted name or in its section; a null is no value. -/
def inFile? (s : SettingSource) (sect key : String) : Option SettingValue :=
  (s.file.lookup (sect ++ "." ++ key)).filter (!isNull ·) <|>
    match s.file.lookup sect with
    | some (.table members) => (members.lookup key).filter (!isNull ·)
    | _ => none

/-- Looks a setting up. A section that is null in the file leaves all its settings to their defaults, whatever the environment says. -/
def find (s : SettingSource) (sect key : String) : Found :=
  match s.file.lookup sect with
  | none | some (.table _) =>
    match s.override? [sect, key] with
    | some text => .given (.text text)
    | none =>
      if (s.override? [sect]).isSome then .hidden
      else match s.inFile? sect key with
        | some v => .given v
        | none => .unset
  | some v => if isNull v && (s.override? [sect]).isNone then .unset else .malformed

/-- A setting by way of `convert`, or its default; `empty` if it is hidden, and `none` if its value cannot be taken so. -/
def get? {α : Type} (s : SettingSource) (convert : SettingValue → Option α) (empty : α) (sect key : String) (standard : α) :
    Option α :=
  match s.find sect key with
  | .unset => some standard
  | .hidden => some empty
  | .given v => convert v
  | .malformed => none

end SettingSource

/-- Extensions of settings files; not all of them have a reader. -/
def settingExtensions : List String :=
  ["json", "toml", "yaml", "yml", "properties", "props", "prop", "hcl", "tfvars", "dotenv", "env", "ini"]

/-- Settings files are written in the first edition. -/
def settingEdition : Toml.Edition := { relaxed := false }

/-- The members of a settings file of the given kind. -/
def settingMembers? (kind text : String) : Option (List (String × SettingValue)) :=
  match kind with
  | "toml" => do return SettingValue.tableOfToml (← Toml.read? settingEdition text).root
  | "json" => do members? (SettingValue.ofJson (← Json.read? text))
  | "yaml" | "yml" => do
    match ← Yaml.read? text with
    | none => some []
    | some root => members? (← SettingValue.ofYaml? (root.size + 1) root)
  | _ => none
where
  members? : SettingValue → Option (List (String × SettingValue))
    | .table members => some members
    | .null => some []
    | _ => none

/-- Reads a settings file; its extension, in lower case, tells its kind. -/
def readSettings (read : String → FileRead) (path : String) : Except Error (List (String × SettingValue)) :=
  let kind := ((Path.extension path).drop 1).toString
  let failed (cause : Error) : Error :=
    .hinted (.context ("read config " ++ path) cause) "config files are TOML or YAML with dialect, generate, output and log sections"
  if !settingExtensions.contains kind then .error (failed (.plain "unsupported kind of file"))
  else match read path with
    | .absent => .error (failed .absentFile)
    | .unreadable => .error (failed (.plain "unreadable"))
    | .text text =>
      match settingMembers? kind text with
      | some members => .ok members
      | none => .error (failed (.plain "malformed settings"))

end Parcelgen

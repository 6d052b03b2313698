import Parcelgen.Text.Quoted

/-!
Faults and errors.

A fault says in which phase something went wrong, of what kind it is and where (a path of names); its text is derived from these in one
place. Errors add to faults a cause, plain messages and messages with context.
-/

namespace Parcelgen

inductive Phase where
  | render
  | emit
  | declare
  | generate
  | load
  | resolve
  | intake
  | config
deriving Repr, DecidableEq, Inhabited

namespace Phase

def all : List Phase := [.render, .emit, .declare, .generate, .load, .resolve, .intake, .config]

def name : Phase → String
  | .render => "render"
  | .emit => "emit"
  | .declare => "declare"
  | .generate => "generate"
  | .load => "load"
  | .resolve => "resolve"
  | .intake => "import"
  | .config => "config"

def ofName? (s : String) : Option Phase := all.find? (·.name == s)

end Phase

inductive FaultKind where
  | nilElement
  | nonEmptySuffix
  | unknownStorageMode
  | unknownErrorMode
  | unknownKind
  | unsupported
  | invalidInput
  | notFound
  | duplicate
  | cycle
  | write
deriving Repr, DecidableEq, Inhabited

namespace FaultKind

def all : List FaultKind :=
  [.nilElement, .nonEmptySuffix, .unknownStorageMode, .unknownErrorMode, .unknownKind, .unsupported, .invalidInput, .notFound,
    .duplicate, .cycle, .write]

def name : FaultKind → String
  | .nilElement => "nil_element"
  | .nonEmptySuffix => "non_empty_suffix"
  | .unknownStorageMode => "unknown_storage_mode"
  | .unknownErrorMode => "unknown_error_mode"
  | .unknownKind => "unknown_kind"
  | .unsupported => "unsupported"
  | .invalidInput => "invalid_input"
  | .notFound => "not_found"
  | .duplicate => "duplicate"
  | .cycle => "cycle"
  | .write => "write"

def ofName? (s : String) : Option FaultKind := all.find? (·.name == s)

/-- Kinds that report a malformed type tree or a value outside its closed set, not bad input. -/
def isContract : FaultKind → Bool
  | .nilElement | .nonEmptySuffix | .unknownStorageMode | .unknownErrorMode | .unknownKind => true
  | _ => false

end FaultKind

structure Fault where
  phase : Phase
  kind : FaultKind
  path : List String := []
  typeName : String := ""
  detail : String := ""
deriving Repr, DecidableEq, Inhabited

namespace Fault

/-- `[phase] kind at a.b: type T - detail`, without the parts that are empty. -/
def message (f : Fault) : String :=
  "[" ++ f.phase.name ++ "] " ++ f.kind.name ++
    (if f.path.isEmpty then "" else " at " ++ ".".intercalate f.path) ++
    (if f.typeName == "" then "" else ": type " ++ f.typeName) ++
    (if f.detail == "" then "" else (if f.typeName == "" then ": " else " - ") ++ f.detail)

/-- The same fault seen from further out: the path gets more names in front. -/
def within (f : Fault) (path : List String) : Fault := { f with path := path ++ f.path }

def isContract (f : Fault) : Bool := f.kind.isContract

def nilElement (phase : Phase) (typeName : String) : Fault :=
  { phase, kind := .nilElement, typeName, detail := "element type is nil" }

def nonEmptySuffix (typeName suffix : String) : Fault :=
  { phase := .render, kind := .nonEmptySuffix, typeName, detail := "declarator suffix " ++ Text.quote suffix ++ " must be empty" }

def unknownStorageMode (typeName mode : String) : Fault :=
  { phase := .render, kind := .unknownStorageMode, typeName, detail := "unhandled storage mode " ++ mode }

def unknownErrorMode (mode : String) : Fault :=
  { phase := .emit, kind := .unknownErrorMode, detail := "unhandled error mode " ++ mode }

def unknownKind (phase : Phase) (kindName : String) : Fault :=
  { phase, kind := .unknownKind, detail := "unhandled type kind " ++ kindName }

def unsupported (phase : Phase) (typeName what : String) : Fault :=
  { phase, kind := .unsupported, typeName, detail := what }

def notFound (phase : Phase) (path : List String) (what name : String) : Fault :=
  { phase, kind := .notFound, path, detail := what ++ " " ++ Text.quote name ++ " not found" }

def duplicate (phase : Phase) (path : List String) (what name : String) : Fault :=
  { phase, kind := .duplicate, path, detail := what ++ " " ++ Text.quote name ++ " declared more than once" }

def cycle (phase : Phase) (chain : List String) : Fault :=
  { phase, kind := .cycle, path := chain, detail := "type contains itself by value" }

def invalidInput (phase : Phase) (path : List String) (detail : String) : Fault :=
  { phase, kind := .invalidInput, path, detail }

end Fault

inductive Error where
  | plain (text : String)
  | context (text : String) (cause : Error)
  | fault (f : Fault)
  | caused (f : Fault) (cause : Error)
  /-- A file that is not there. -/
  | absentFile
  /-- An error with advice for the user, which is no part of its message. -/
  | hinted (e : Error) (hint : String)
deriving Repr, DecidableEq, Inhabited

namespace Error

def message : Error → String
  | .plain text => text
  | .context text cause => text ++ ": " ++ cause.message
  | .fault f => f.message
  | .caused f cause => f.message ++ " (caused by: " ++ cause.message ++ ")"
  | .absentFile => "file does not exist"
  | .hinted e _ => e.message

/-- Whether the root of the error is a file that is not there. -/
def isAbsentFile : Error → Bool
  | .absentFile => true
  | .context _ cause | .caused _ cause => cause.isAbsentFile
  | .hinted e _ => e.isAbsentFile
  | _ => false

/-- Only a fault has a path to extend; other errors pass unchanged. -/
def within (e : Error) (path : List String) : Error :=
  match e with
  | .fault f => .fault (f.within path)
  | .caused f cause => .caused (f.within path) cause
  | e => e

def cause? : Error → Option Error
  | .context _ cause | .caused _ cause | .hinted cause _ => some cause
  | _ => none

def fault? : Error → Option Fault
  | .fault f | .caused f _ => some f
  | _ => none

/-- The faults along the chain of causes, outermost first. -/
def faults : Error → List Fault
  | .plain _ | .absentFile => []
  | .context _ cause | .hinted cause _ => cause.faults
  | .fault f => [f]
  | .caused f cause => f :: cause.faults

def isContract (e : Error) : Bool := e.faults.any (·.isContract)

/-- Some fault of the chain has the phase and kind of `target`'s own fault. -/
def matchesFault (e target : Error) : Bool :=
  match target.fault? with
  | some t => e.faults.any fun f => f.phase == t.phase && f.kind == t.kind
  | none => false

end Error

instance : Coe Fault Error := ⟨.fault⟩

end Parcelgen

import Parcelgen.Unwind

/-! The vocabulary of the runtime that generated code compiles against, and the identifiers made in it. -/

namespace Parcelgen

structure Dialect where
  /-- Starts every generated identifier. -/
  lead : String := "_hidl_"
  errVar : String := "_hidl_err"
  ok : String := "::android::OK"
  unknownError : String := "::android::UNKNOWN_ERROR"
  badType : String := "::android::BAD_TYPE"
  errorLabel : String := "_hidl_error"
  statusType : String := "::android::status_t"
  parcelType : String := "::android::hardware::Parcel"
  stringType : String := "::android::hardware::hidl_string"
  vectorTemplate : String := "::android::hardware::hidl_vec"
  strongPointer : String := "::android::sp"
  binderType : String := "::android::hardware::IBinder"
  readBuffer : String := "readBuffer"
  writeBuffer : String := "writeBuffer"
  readEmbedded : String := "readEmbeddedFromParcel"
  writeEmbedded : String := "writeEmbeddedToParcel"
  readBinder : String := "readNullableStrongBinder"
  writeBinder : String := "writeStrongBinder"
  readEmbeddedBinder : String := "readNullableEmbeddedStrongBinder"
  writeEmbeddedBinder : String := "writeEmbeddedStrongBinder"
  writeToken : String := "writeInterfaceToken"
  enforceToken : String := "enforceInterface"
  transact : String := "transact"
  onewayFlag : String := "::android::hardware::IBinder::FLAG_ONEWAY"
  unknownTransaction : String := "::android::UNKNOWN_TRANSACTION"
deriving Repr, DecidableEq, Inhabited

namespace Dialect

def vocabulary (d : Dialect) : Vocabulary := ⟨d.errVar, d.ok, d.errorLabel⟩

def isWordChar (c : Char) : Bool := c.isAlphanum

/-- Keeps ASCII letters and digits and puts one underscore for every run of other characters; none right after an underscore. -/
def wordChars (afterUnderscore : Bool) : List Char → List Char
  | [] => []
  | c :: cs =>
    if isWordChar c then c :: wordChars false cs
    else if afterUnderscore then wordChars true cs
    else '_' :: wordChars true cs

def dropLead (lead expr : List Char) : List Char :=
  if lead.isPrefixOf expr then expr.drop lead.length else expr

def trimUnderscores (cs : List Char) : List Char := (cs.reverse.dropWhile (· == '_')).reverse

/-- An identifier made from an expression: `entries[i].label` gives `_hidl_entries_i_label`. An expression that starts with the lead
keeps one copy of it. Different expressions can give the same identifier. -/
def ident (d : Dialect) (expr tail : String) : String :=
  let lead := d.lead.toList
  let words := wordChars (lead.getLast? == some '_') (dropLead lead expr.toList)
  String.ofList (trimUnderscores (lead ++ words)) ++ (if tail == "" then "" else "_" ++ tail)

/-- The counter of a loop with `depth` loops around it. -/
def indexVar (d : Dialect) (depth : Int) : String := d.lead ++ "index_" ++ toString depth

def binderVar (d : Dialect) : String := d.lead ++ "binder"

def strongPointerTo (d : Dialect) (target : String) : String := d.strongPointer ++ "<" ++ target ++ ">"

/-- Every entry under its configuration key, with the way to change it. -/
def entries : List (String × (Dialect → String) × (Dialect → String → Dialect)) := [
  ("prefix", lead, fun d s => { d with lead := s }),
  ("err_var", errVar, fun d s => { d with errVar := s }),
  ("ok", ok, fun d s => { d with ok := s }),
  ("unknown_error", unknownError, fun d s => { d with unknownError := s }),
  ("bad_type", badType, fun d s => { d with badType := s }),
  ("error_label", errorLabel, fun d s => { d with errorLabel := s }),
  ("status_type", statusType, fun d s => { d with statusType := s }),
  ("parcel_type", parcelType, fun d s => { d with parcelType := s }),
  ("string_type", stringType, fun d s => { d with stringType := s }),
  ("vector_template", vectorTemplate, fun d s => { d with vectorTemplate := s }),
  ("strong_pointer", strongPointer, fun d s => { d with strongPointer := s }),
  ("binder_type", binderType, fun d s => { d with binderType := s }),
  ("read_buffer", readBuffer, fun d s => { d with readBuffer := s }),
  ("write_buffer", writeBuffer, fun d s => { d with writeBuffer := s }),
  ("read_embedded", readEmbedded, fun d s => { d with readEmbedded := s }),
  ("write_embedded", writeEmbedded, fun d s => { d with writeEmbedded := s }),
  ("read_binder", readBinder, fun d s => { d with readBinder := s }),
  ("write_binder", writeBinder, fun d s => { d with writeBinder := s }),
  ("read_embedded_binder", readEmbeddedBinder, fun d s => { d with readEmbeddedBinder := s }),
  ("write_embedded_binder", writeEmbeddedBinder, fun d s => { d with writeEmbeddedBinder := s }),
  ("write_token", writeToken, fun d s => { d with writeToken := s }),
  ("enforce_token", enforceToken, fun d s => { d with enforceToken := s }),
  ("transact", transact, fun d s => { d with transact := s }),
  ("oneway_flag", onewayFlag, fun d s => { d with onewayFlag := s }),
  ("unknown_transaction", unknownTransaction, fun d s => { d with unknownTransaction := s })]

end Dialect

end Parcelgen

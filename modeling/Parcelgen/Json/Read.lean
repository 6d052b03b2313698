import Parcelgen.Json.Token

/-! Reading JSON text. The containers that are open form a stack, so one pass over the units builds the value. -/

namespace Parcelgen.Json

/-- An open container; what it holds so far is kept in reverse. -/
inductive Frame where
  | array (items : List Json)
  | object (members : List (String × Json)) (key : String)

/-- What may come next. -/
inductive Expect where
  | value
  /-- A first element, or the end of the array. -/
  | firstValue
  /-- A first key, or the end of the object. -/
  | firstKey (members : List (String × Json))
  | key (members : List (String × Json))
  | colon (members : List (String × Json)) (key : String)
  /-- A comma or the end of the innermost container, or the end of the text. -/
  | after (v : Json)

abbrev Building := List Frame × Expect

def step? (t : Token) : Building → Option Building
  | (frames, .value) => opening t frames
  | (frames, .firstValue) =>
    match t, frames with
    | .closeArray, .array _ :: outer => some (outer, .after (.array []))
    | t, frames => opening t frames
  | (frames, .firstKey members) =>
    match t with
    | .closeObject => some (frames, .after (.object []))
    | .string key => some (frames, .colon members key)
    | _ => none
  | (frames, .key members) =>
    match t with
    | .string key => some (frames, .colon members key)
    | _ => none
  | (frames, .colon members key) =>
    match t with
    | .colon => some (.object members key :: frames, .value)
    | _ => none
  | (.array items :: outer, .after v) =>
    match t with
    | .comma => some (.array (v :: items) :: outer, .value)
    | .closeArray => some (outer, .after (.array (v :: items).reverse))
    | _ => none
  | (.object members key :: outer, .after v) =>
    match t with
    | .comma => some (outer, .key ((key, v) :: members))
    | .closeObject => some (outer, .after (.object ((key, v) :: members).reverse))
    | _ => none
  | ([], .after _) => none
where
  opening (t : Token) (frames : List Frame) : Option Building :=
    match t with
    | .openObject => some (frames, .firstKey [])
    | .openArray => some (.array [] :: frames, .firstValue)
    | .string s => some (frames, .after (.string s))
    | .number text => some (frames, .after (.number text))
    | .word none => some (frames, .after .null)
    | .word (some b) => some (frames, .after (.bool b))
    | _ => none

def build? : Building → List Token → Option Json
  | ([], .after v), [] => some v
  | _, [] => none
  | state, t :: ts => do build? (← step? t state) ts

/-- The value of a JSON text, or nothing where it is malformed. -/
def read? (text : String) : Option Json :=
  match tokens [] .idle text.toList with
  | (ts, true) => build? ([], .value) ts
  | (_, false) => none

def buildFirst? : Building → List Token → Option Json
  | ([], .after v), _ => some v
  | _, [] => none
  | state, t :: ts => do buildFirst? (← step? t state) ts

/-- The first value of a text; what follows it is not looked at. -/
def readFirst? (text : String) : Option Json := buildFirst? ([], .value) (tokens [] .idle text.toList).1

end Parcelgen.Json

import Parcelgen.Browser.Entry
import Parcelgen.Browser.FilterInput
import Parcelgen.Browser.Viewport
import Parcelgen.Text.Case

/-!
The browser of a package as a state machine. A list of entries can be narrowed by a filter, and the code of the selected entry can be shown.
The visible entries are those that pass the filter, and the selection is always one of them, unless there are none.
-/

namespace Parcelgen.Browser

inductive Mode where
  | list
  | filter
  | code
deriving Repr, DecidableEq, Inhabited

def Mode.name : Mode → String
  | .list => "list"
  | .filter => "filter"
  | .code => "code"

inductive Message where
  | resize (width height : Nat)
  | key (k : Key)
deriving Repr, DecidableEq, Inhabited

structure Model where
  generator : Generator
  package : Package
  entries : List Entry
  /-- The entries that pass the filter, by index. -/
  visible : List Nat := []
  filter : FilterInput := {}
  code : Viewport := {}
  /-- Why the code of the selected entry cannot be shown. -/
  error : Option Error := none
  selected : Nat := 0
  mode : Mode := .list
deriving Inhabited

/-- Whether a text occurs in another. -/
def occursIn (part : List Char) : List Char → Bool
  | [] => part.isEmpty
  | c :: cs => part.isPrefixOf (c :: cs) || occursIn part cs

/-- Letter case and blanks around the filter do not count. -/
def passes (filter : String) (title : String) : Bool :=
  occursIn (Text.lower (Text.trim filter)).toList (Text.lower title).toList

/-- The indices, counted from `start`, of the entries that pass. -/
def passing (filter : String) : Nat → List Entry → List Nat
  | _, [] => []
  | start, e :: es => if passes filter e.title then start :: passing filter (start + 1) es else passing filter (start + 1) es

namespace Model

def filterText (m : Model) : String := String.ofList m.filter.text

/-- Finds the visible entries again and keeps the selection among them. -/
def applyFilter (m : Model) : Model :=
  let visible := passing m.filterText 0 m.entries
  { m with visible, selected := min m.selected (visible.length - 1) }

def start (g : Generator) (p : Package) : Model :=
  ({ generator := g, package := p, entries := Entry.ofPackage p } : Model).applyFilter

/-- The selected entry. -/
def current? (m : Model) : Option Entry := do m.entries[(← m.visible[m.selected]?)]?

/-- Shows the code of the selected entry, or why there is none. -/
def openCode (m : Model) : Model :=
  match m.current? with
  | none => m
  | some e =>
    match e.code m.generator with
    | .ok text => { m with code := m.code.showing text, error := none, mode := .code }
    | .error err => { m with code := m.code.showing "", error := some err, mode := .code }

def pressInList (m : Model) (k : Key) : Model :=
  match k.name with
  | "up" | "k" => { m with selected := m.selected - 1 }
  | "down" | "j" => if m.selected + 1 < m.visible.length then { m with selected := m.selected + 1 } else m
  | "/" => { m with mode := .filter, filter := { m.filter with focused := true } }
  | "enter" => m.openCode
  | _ => m

/-- Keys go to the filter line, `edit`, until it is left. -/
def pressInFilter (edit : Key → FilterInput → FilterInput) (m : Model) (k : Key) : Model :=
  match k.name with
  | "enter" | "esc" => { m with mode := .list, filter := { m.filter with focused := false } }
  | "ctrl+c" => m
  | _ => { m with filter := edit k m.filter }.applyFilter

def pressInCode (m : Model) (k : Key) : Model :=
  match k.name with
  | "ctrl+c" | "q" => m
  | "esc" | "enter" => { m with mode := .list, error := none }
  | _ => { m with code := m.code.press k.name }

/-- What a message does, for any way of editing the filter line. -/
def stepWith (edit : Key → FilterInput → FilterInput) (m : Model) : Message → Model
  | .resize width height => { m with code := { m.code with width, height := max (height - 4) 1 } }
  | .key k =>
    match m.mode with
    | .list => m.pressInList k
    | .filter => m.pressInFilter edit k
    | .code => m.pressInCode k

def step (m : Model) (msg : Message) : Model := m.stepWith FilterInput.press msg

/-- Whether a message ends the browser; while a filter is typed, the letter does not. -/
def quits (m : Model) : Message → Bool
  | .resize .. => false
  | .key k => k.name == "ctrl+c" || (k.name == "q" && m.mode != .filter)

end Model

end Parcelgen.Browser

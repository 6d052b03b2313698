import Parcelgen.Browser.Model

/-! The screen of the browser as lines of text. -/

namespace Parcelgen.Browser

/-- Text pieces with a style of their own have their tabs written as spaces. -/
def expandTabs (s : String) : String := s.replace "\t" "    "

/-- Fills up with spaces. -/
def padRight (width : Nat) (s : String) : String := s ++ "".pushn ' ' (width - s.length)

namespace Entry

/-- The line of an entry in the list. -/
def line (e : Entry) (selected : Bool) : String :=
  let kind := padRight 7 e.kind.name
  if selected then expandTabs ("> " ++ kind ++ " " ++ e.title ++ " " ++ e.type.text)
  else "  " ++ kind ++ " " ++ e.title ++ " " ++ expandTabs e.type.text

end Entry

namespace Model

def titleLine (m : Model) : String :=
  " marshalgen  " ++ m.package.name ++ (if m.package.space == "" then "" else " (" ++ m.package.space ++ ")")

def listLines (m : Model) : List String :=
  (if m.mode == .filter || !m.filter.text.isEmpty then [m.filter.line, ""] else []) ++
    (if m.visible.isEmpty then ["No matching entries."] else []) ++
    (m.visible.zipIdx.filterMap fun (index, row) => (m.entries[index]?).map (·.line (row == m.selected))) ++
    ["", "↑/↓ select • enter show code • / filter • q quit"]

def codeLines (m : Model) : List String :=
  let head := match m.current? with
    | some e => e.kind.name ++ " " ++ e.title
    | none => ""
  let body := match m.error with
    | some err => [expandTabs ("Error: " ++ err.message)]
    | none => m.code.shown.map expandTabs
  [head, ""] ++ body ++ ["↑/↓ scroll • esc back • q quit"]

/-- The lines on the screen, without spaces at their ends. -/
def view (m : Model) : List String :=
  let lines := m.titleLine :: "" :: (if m.mode == .code then m.codeLines else m.listLines)
  (lines.flatMap (·.splitOn "\n")).map fun l => String.ofList (l.toList.reverse.dropWhile (· == ' ')).reverse

end Model

end Parcelgen.Browser

import Parcelgen.Text.Blank
import Parcelgen.Text.Width

/-! The line on which a filter is typed. It shows a window of its text around the cursor. -/

namespace Parcelgen.Browser

/-- A key by its name, with the characters it types. -/
structure Key where
  name : String
  typed : List Char := []
deriving Repr, DecidableEq, Inhabited

structure FilterInput where
  text : List Char := []
  cursor : Nat := 0
  /-- The window, from one index to before the other. -/
  shownFrom : Nat := 0
  shownTo : Nat := 0
  focused : Bool := false
deriving Repr, DecidableEq, Inhabited

namespace FilterInput

/-- The width of the window. -/
def room : Nat := 40

def placeholder : String := "filter"

/-- How many characters fit to the right; the last one may reach one cell further. -/
def fitRight : Nat → List Char → Nat
  | _, [] => 0
  | used, c :: cs =>
    let used' := used + Text.charWidth c
    if used ≤ room && used' ≤ room + 1 then fitRight used' cs + 1 else 0

/-- How many characters fit to the left, given from right to left. -/
def fitLeft : Nat → List Char → Nat
  | _, [] => 0
  | used, c :: cs =>
    let used' := used + Text.charWidth c
    if used < room && used' ≤ room then fitLeft used' cs + 1 else 0

/-- Moves the window so that the cursor is in it. -/
def scroll (i : FilterInput) : FilterInput :=
  if Text.width i.text ≤ room then { i with shownFrom := 0, shownTo := i.text.length }
  else
    let i := { i with shownTo := min i.shownTo i.text.length }
    if i.cursor < i.shownFrom then
      { i with shownFrom := i.cursor, shownTo := i.cursor + fitRight 0 (i.text.drop i.cursor) }
    else if i.cursor ≥ i.shownTo then
      { i with shownFrom := i.cursor - fitLeft 0 ((i.text.take i.cursor).drop 1).reverse, shownTo := i.cursor }
    else i

def moveTo (i : FilterInput) (n : Nat) : FilterInput := scroll { i with cursor := min n i.text.length }

/-- What may be typed: line breaks and tabs become spaces, other control characters are left out. -/
def clean (cs : List Char) : List Char :=
  cs.filterMap fun c =>
    if c == '\n' || c == '\r' || c == '\t' then some ' '
    else if c == '\ufffd' || c.toNat < 0x20 || (0x7f ≤ c.toNat && c.toNat < 0xa0) then none
    else some c

def insert (i : FilterInput) (cs : List Char) : FilterInput :=
  let cs := clean cs
  let cursor := i.cursor + cs.length
  let text := i.text.take i.cursor ++ cs ++ i.text.drop i.cursor
  scroll { i with text, cursor }

/-- The length of a run of blanks and a run of other characters after it. -/
def wordLength (cs : List Char) : Nat :=
  let blanks := cs.takeWhile Text.isBlank
  blanks.length + ((cs.drop blanks.length).takeWhile fun c => !Text.isBlank c).length

/-- The start of the word before the cursor. -/
def wordStart (i : FilterInput) : Nat := i.cursor - wordLength (i.text.take i.cursor).reverse

/-- The end of the word after the cursor. -/
def wordEnd (i : FilterInput) : Nat := i.cursor + wordLength (i.text.drop i.cursor)

/-- Takes out the characters from one index to before another, and puts the cursor there. -/
def cut (i : FilterInput) (start stop : Nat) : FilterInput :=
  moveTo { i with text := i.text.take start ++ i.text.drop stop } start

/-- Where deleting a word forward stops: the character under the cursor always goes. -/
def deleteEnd (i : FilterInput) : Nat := i.cursor + 1 + wordLength (i.text.drop (i.cursor + 1))

/-- Where deleting a word backward starts: at the start of the word, or at the front if only one character would be left. -/
def deleteStart (i : FilterInput) : Nat := if i.wordStart == 1 then 0 else i.wordStart

/-- What a key does while the line has the focus. -/
def press (k : Key) (i : FilterInput) : FilterInput :=
  if !i.focused then i
  else
    let count := i.text.length
    let is (names : List String) : Bool := names.contains k.name
    if is ["alt+backspace", "ctrl+w"] then (if i.cursor == 0 then i else i.cut i.deleteStart i.cursor)
    else if is ["backspace", "ctrl+h"] then (if i.cursor == 0 then i else i.cut (i.cursor - 1) i.cursor)
    else if is ["alt+left", "ctrl+left", "alt+b"] then i.moveTo i.wordStart
    else if is ["left", "ctrl+b"] then i.moveTo (i.cursor - 1)
    else if is ["alt+right", "ctrl+right", "alt+f"] then i.moveTo i.wordEnd
    else if is ["right", "ctrl+f"] then i.moveTo (i.cursor + 1)
    else if is ["home", "ctrl+a"] then i.moveTo 0
    else if is ["delete", "ctrl+d"] then (if i.cursor < count then i.cut i.cursor (i.cursor + 1) else i)
    else if is ["end", "ctrl+e"] then i.moveTo count
    else if is ["ctrl+k"] then i.cut i.cursor count
    else if is ["ctrl+u"] then moveTo { i with text := i.text.drop i.cursor, shownFrom := 0 } 0
    else if is ["ctrl+v", "down", "ctrl+n", "up", "ctrl+p"] then i
    else if is ["alt+delete", "alt+d"] then (if i.cursor < count then i.cut i.cursor i.deleteEnd else i)
    else i.insert k.typed

/-- The line as it is shown. -/
def line (i : FilterInput) : String :=
  "/" ++ if i.text.isEmpty then placeholder else String.ofList ((i.text.take i.shownTo).drop i.shownFrom)

end FilterInput

end Parcelgen.Browser

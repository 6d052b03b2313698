import Parcelgen.Text.Width

/-! A window on lines of text that scrolls down and sideways. -/

namespace Parcelgen.Browser

structure Viewport where
  width : Nat := 80
  height : Nat := 20
  lines : List String := []
  top : Nat := 0
  /-- The first column shown. It can stand before the text, if all lines are narrower than the window. -/
  left : Int := 0
deriving Repr, DecidableEq, Inhabited

namespace Viewport

def longest (v : Viewport) : Nat := (v.lines.map fun l => Text.width l.toList).foldl max 0

/-- The last line that can be at the top. -/
def lastTop (v : Viewport) : Nat := v.lines.length - v.height

/-- Shows a new text from its first line on. -/
def showing (v : Viewport) (text : String) : Viewport := { v with lines := text.splitOn "\n", top := 0 }

def scrollDown (v : Viewport) (n : Nat) : Viewport := if v.top ≥ v.lastTop then v else { v with top := min (v.top + n) v.lastTop }

def scrollUp (v : Viewport) (n : Nat) : Viewport :=
  if v.top == 0 || n == 0 then v else { v with top := min (v.top - n) v.lastTop }

/-- The columns to move by. -/
def sideStep : Int := 6

/-- Moves sideways, between the first column and the one that shows the end of the longest line, whichever comes first. -/
def moveTo (v : Viewport) (column : Int) : Viewport :=
  let other := (v.longest : Int) - v.width
  { v with left := min (max 0 other) (max (min 0 other) column) }

def press (name : String) (v : Viewport) : Viewport :=
  if ["pgdown", " ", "f"].contains name then v.scrollDown v.height
  else if ["pgup", "b"].contains name then v.scrollUp v.height
  else if ["d", "ctrl+d"].contains name then v.scrollDown (v.height / 2)
  else if ["u", "ctrl+u"].contains name then v.scrollUp (v.height / 2)
  else if ["down", "j"].contains name then v.scrollDown 1
  else if ["up", "k"].contains name then v.scrollUp 1
  else if ["left", "h"].contains name then v.moveTo (v.left - sideStep)
  else if ["right", "l"].contains name then v.moveTo (v.left + sideStep)
  else v

/-- The part of a line between two columns. -/
def cutLine (start stop : Int) (line : String) : String :=
  if stop ≤ start then "" else String.ofList (Text.dropWidth start.toNat (Text.takeWidth stop.toNat line.toList))

/-- The lines in the window, as many as it is high. -/
def shown (v : Viewport) : List String :=
  let lines := (v.lines.drop v.top).take v.height
  let lines :=
    if (v.left == 0 && v.longest ≤ v.width) || v.width == 0 then lines else lines.map (cutLine v.left (v.left + v.width))
  lines ++ List.replicate (v.height - lines.length) ""

end Viewport

end Parcelgen.Browser

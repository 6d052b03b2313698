import Parcelgen.Error

/-!
Indented printing. A printer puts the current indentation in front of every non-empty line at the moment the line starts, so callers
print plain text with newlines and never write leading blanks. Output goes to a sink that may hold only so many bytes; the first write that
does not fit is remembered and nothing is written after it.
-/

namespace Parcelgen

/-- One level of indentation unless another is asked for. -/
def Printer.standardUnit : String := "    "

structure Printer where
  unit : String := Printer.standardUnit
  depth : Nat := 0
  atLineStart : Bool := true
  error : Option Error := none
  /-- Bytes the sink takes; without a limit it takes all. -/
  limit : Option Nat := none
  written : String := ""

namespace Printer

/-- The lines of a text: every line but the last is followed by a newline. -/
def lines : List Char → List (List Char)
  | [] => [[]]
  | c :: cs =>
    if c == '\n' then [] :: lines cs
    else match lines cs with
      | line :: more => (c :: line) :: more
      | [] => [[c]]

def sinkFull : Error :=
  .caused { phase := .emit, kind := .write, detail := "write output" } (.plain "sink full")

def fits (p : Printer) (s : String) : Bool :=
  match p.limit with
  | none => true
  | some n => p.written.utf8ByteSize + s.utf8ByteSize ≤ n

/-- One write to the sink: all of `s` or, with the error remembered, nothing. -/
def write (p : Printer) (s : String) : Printer :=
  if p.error.isSome then p
  else if p.fits s then { p with written := p.written ++ s }
  else { p with error := some sinkFull }

def indentation (p : Printer) : String := String.join (List.replicate p.depth p.unit)

/-- Writes text without newlines, after the indentation when it starts a line. -/
def putLine (p : Printer) (line : List Char) : Printer :=
  if line.isEmpty then p
  else
    let p := if p.atLineStart then p.write p.indentation else p
    { p.write (String.ofList line) with atLineStart := false }

def endLine (p : Printer) : Printer := { p.write "\n" with atLineStart := true }

def putLines (p : Printer) : List (List Char) → Printer
  | [] => p
  | [line] => p.putLine line
  | line :: more => (p.putLine line).endLine.putLines more

/-- Prints `s`, indenting every line that starts inside it. -/
def print (p : Printer) (s : String) : Printer :=
  if p.error.isSome then p else p.putLines (lines s.toList)

def indent (p : Printer) : Printer := { p with depth := p.depth + 1 }

def unmatchedUnindent : Fault :=
  { phase := .emit, kind := .invalidInput, detail := "unindent without matching indent" }

/-- Takes one level back; at depth zero this is an error, remembered unless there is one already. -/
def unindent (p : Printer) : Printer :=
  match p.depth with
  | 0 => { p with error := p.error <|> some (.fault unmatchedUnindent) }
  | d + 1 => { p with depth := d }

end Printer

end Parcelgen

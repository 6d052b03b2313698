import Parcelgen.Layout.Printer

/-!
Layout scripts: what is to be printed, as data. A script ends early at its first failure; text printed before it stays, and the closing
line of every scope that is open at that moment is still printed. An error of the sink is noticed at the end of a scope or where the
script asks for it.
-/

namespace Parcelgen

inductive EventValue where
  | text (s : String)
  | flag (b : Bool)
  | count (n : Nat)
deriving Repr, DecidableEq, Inhabited

/-- Something worth logging, with its named values. -/
structure Event where
  level : String
  message : String
  fields : List (String × EventValue)
deriving Repr, DecidableEq, Inhabited

inductive Layout where
  | text (s : String)
  | indent
  | unindent
  /-- `opening`, the body one level deeper, `closing`; then `after`, whether or not the body failed. -/
  | scope (opening closing : String) (body : List Layout) (after : String)
  /-- Errors of the body get `path` in front. -/
  | within (path : List String) (body : List Layout)
  | fail (e : Error)
  | note (e : Event)
  /-- Fails with the error of the sink, if there is one. -/
  | settle
deriving Inhabited

namespace Layout

/-- What a script leaves behind: the printer, the events in order, and the failure that ended it early. -/
structure Outcome where
  printer : Printer
  events : List Event := []
  error : Option Error := none

mutual

def run (p : Printer) : Layout → Outcome
  | .text s => { printer := p.print s }
  | .indent => { printer := p.indent }
  | .unindent => { printer := p.unindent }
  | .scope opening closing body after =>
    let inner := runAll (p.print (opening ++ "\n")).indent body
    let closed := inner.printer.unindent.print (closing ++ "\n")
    { inner with printer := closed.print after, error := inner.error <|> closed.error }
  | .within path body =>
    let inner := runAll p body
    { inner with error := inner.error.map (·.within path) }
  | .fail e => { printer := p, error := some e }
  | .note e => { printer := p, events := [e] }
  | .settle => { printer := p, error := p.error }

def runAll (p : Printer) : List Layout → Outcome
  | [] => { printer := p }
  | l :: ls =>
    let first := run p l
    if first.error.isSome then first
    else
      let rest := runAll first.printer ls
      { rest with events := first.events ++ rest.events }

end

/-- Braces around the body. -/
def block (body : List Layout) : Layout := .scope "\x7b" "\x7d" body ""

/-- A list of texts continued on lines of their own, two levels deep. -/
def hanging (s : String) : List Layout := [.indent, .indent, .text s, .unindent, .unindent]

/-- Text one level to the left. -/
def outdented (s : String) : List Layout := [.unindent, .text s, .indent]

/-- The whole text of a script on a sink without limit, unless it fails. -/
def render (ls : List Layout) : Except Error String :=
  let out := runAll {} ls
  match out.error with
  | some e => .error e
  | none => .ok out.printer.written

end Layout

end Parcelgen

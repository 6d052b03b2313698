import Parcelgen.Marshal.Offset

/-!
Statements of generated functions. What later stages ask about is kept apart from plain text: declarations, transfers through the buffer,
loops, jumps and labels. `Stmt.layout` prints them.
-/

namespace Parcelgen

/-- The object that generated code reads from or writes to. -/
structure Buffer where
  name : String
  isPointer : Bool := false
deriving Repr, DecidableEq, Inhabited

namespace Buffer

/-- In front of the name of a method to call. -/
def call (b : Buffer) : String := b.name ++ (if b.isPointer then "->" else ".")

/-- As an argument by reference. -/
def ref (b : Buffer) : String := (if b.isPointer then "*" else "") ++ b.name

/-- As an argument by pointer. -/
def ptr (b : Buffer) : String := (if b.isPointer then "" else "&") ++ b.name

end Buffer

/-- How many bytes a flat block has. -/
inductive Extent where
  | variable (name : String)
  | elements (dim type : String)
deriving Repr, DecidableEq, Inhabited

def Extent.text : Extent → String
  | .variable name => "sizeof(" ++ name ++ ")"
  | .elements dim type => dim ++ " * sizeof(" ++ type ++ ")"

/-- A transfer of bytes that stand in the buffer itself. -/
inductive Transfer where
  | readBlock (target type handle : String)
  | writeBlock (source : String) (extent : Extent) (handle : String)
  | readScalar (s : Scalar) (target : String)
  | writeScalar (s : Scalar) (source : String)
  | readBinder (target : String)
  | writeBinder (source : String)
deriving Repr, DecidableEq, Inhabited

def Transfer.text (d : Dialect) (b : Buffer) : Transfer → String
  | .readBlock target type handle =>
    target ++ " = (const " ++ type ++ " *)" ++ b.call ++ d.readBuffer ++ "(&" ++ handle ++ ");\n\n"
  | .writeBlock source extent handle =>
    d.errVar ++ " = " ++ b.call ++ d.writeBuffer ++ "(" ++ source ++ ", " ++ extent.text ++ ", &" ++ handle ++ ");\n"
  | .readScalar s target => d.errVar ++ " = " ++ b.call ++ "read" ++ s.accessor ++ "(" ++ target ++ ");\n"
  | .writeScalar s source => d.errVar ++ " = " ++ b.call ++ "write" ++ s.accessor ++ "(" ++ source ++ ");\n"
  | .readBinder target => d.errVar ++ " = " ++ b.call ++ d.readBinder ++ "(" ++ target ++ ");\n"
  | .writeBinder source => d.errVar ++ " = " ++ b.call ++ d.writeBinder ++ "(" ++ source ++ ");\n"

/-- What an embedded call resolves. -/
inductive EmbeddedNode where
  | string
  /-- The elements live in a region of their own, whose handle is `child`. -/
  | vector (child : String)
  | binder
deriving Repr, DecidableEq, Inhabited

/-- A call that resolves content outside its block: `parent` is the block's handle and `offset` the place in it. -/
structure EmbeddedCall where
  node : EmbeddedNode
  callee : String
  carried : String
  parent : String
  offset : Offset
deriving Repr, DecidableEq, Inhabited

namespace EmbeddedCall

def lastArgument (c : EmbeddedCall) : String :=
  match c.node with
  | .vector child => c.offset.text ++ ", &" ++ child
  | .string | .binder => c.offset.text

def layout (d : Dialect) (c : EmbeddedCall) : List Layout :=
  .text (d.errVar ++ " = " ++ c.callee ++ "(\n") ::
    Layout.hanging (",\n".intercalate [c.carried, c.parent, c.lastArgument] ++ ");\n\n")

end EmbeddedCall

/-- How far an element loop runs. -/
inductive Bound where
  | dimension (dim : String)
  | elementsOf (vector : String)
deriving Repr, DecidableEq, Inhabited

def Bound.text : Bound → String
  | .dimension dim => dim
  | .elementsOf vector => vector ++ ".size()"

inductive Stmt where
  | blank
  /-- Text that neither declares, jumps nor transfers. -/
  | code (text : String)
  /-- `type name rest;`, where `rest` is an array suffix or an initialiser. -/
  | declare (type name rest : String)
  | transfer (buffer : Buffer) (t : Transfer)
  | embedded (call : EmbeddedCall)
  /-- Tests the status and unwinds. -/
  | check (mode : Unwind)
  /-- Unwinds without a test. -/
  | unwind (mode : Unwind)
  /-- `head` and the body in braces; then `after`, whether or not the body failed. -/
  | block (head : String) (body : List Stmt) (after : String)
  /-- Runs one of two bodies. -/
  | choice (test : String) (yes no : List Stmt)
  | loop (index : String) (bound : Bound) (body : List Stmt)
  /-- A call whose last argument is a function literal; `head` ends with its opening brace. -/
  | callback (head : String) (body : List Stmt)
  | label
  | leave
  | leaveCase
  | within (path : List String) (body : List Stmt)
  | fail (f : Fault)
  | note (e : Event)
deriving Inhabited

namespace Stmt

/-- Declares a handle, which stays without a value until a call sets it. -/
def handle (name : String) : List Stmt := [.declare "size_t" name "", .blank]

mutual

def layout (d : Dialect) : Stmt → List Layout
  | .blank => [.text "\n"]
  | .code text => [.text text]
  | .declare type name rest => [.text (type ++ " " ++ name ++ rest ++ ";\n")]
  | .transfer b t => [.text (t.text d b)]
  | .embedded call => call.layout d
  | .check mode => [mode.check d.vocabulary]
  | .unwind mode => [mode.failure d.vocabulary]
  | .block head body after => [.text head, .scope "\x7b" "\x7d" (layoutAll d body) after]
  | .choice test yes no => [
      .text ("if (" ++ test ++ ") "), .scope "\x7b" "\x7d" (layoutAll d yes) "", .text "else ",
      .scope "\x7b" "\x7d" (layoutAll d no) ""]
  | .loop index bound body => [
      .text ("for (size_t " ++ index ++ " = 0; " ++ index ++ " < " ++ bound.text ++ "; ++" ++ index ++ ") "),
      .scope "\x7b" "\x7d" (layoutAll d body) "\n"]
  | .callback head body => [.scope head "\x7d);" (layoutAll d body) ""]
  | .label => Layout.outdented (d.errorLabel ++ ":\n")
  | .leave => [.text ("return " ++ d.errVar ++ ";\n")]
  | .leaveCase => [.text "break;\n"]
  | .within path body => [.within path (layoutAll d body)]
  | .fail f => [.fail f]
  | .note e => [.note e]

def layoutAll (d : Dialect) : List Stmt → List Layout
  | [] => []
  | s :: ss => layout d s ++ layoutAll d ss

end

end Stmt

end Parcelgen

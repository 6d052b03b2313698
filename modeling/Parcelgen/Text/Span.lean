/-! Spans of code points, the entries of the character tables. -/

namespace Parcelgen.Text

/-- The code points `first`, `first + step`, … up to `last`. -/
structure Span where
  first : Nat
  last : Nat
  step : Nat

def Span.contains (s : Span) (n : Nat) : Bool :=
  s.first ≤ n && n ≤ s.last && (n - s.first) % s.step == 0

end Parcelgen.Text

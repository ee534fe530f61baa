/-! Tables of code points, as lists of evenly spaced spans. All of them are of Unicode 16.0. -/

namespace ProviderCoverage.Unicode

/-- The code points `first, first + step, …, last`. -/
structure Span where
  first : Nat
  last : Nat
  step : Nat

def Span.contains (s : Span) (n : Nat) : Bool :=
  s.first ≤ n && n ≤ s.last && (n - s.first) % s.step == 0

/-- A span whose code points are shifted so that `first` goes to `target`. -/
structure Shift extends Span where
  target : Nat

def Shift.image? (s : Shift) (n : Nat) : Option Nat :=
  if s.contains n then some (s.target + (n - s.first)) else none

/-- The image of a code point under the first shift that covers it. -/
def shifted? (table : List Shift) (n : Nat) : Option Nat :=
  table.findSome? (·.image? n)

def covered (table : List Span) (n : Nat) : Bool :=
  table.any (·.contains n)

end ProviderCoverage.Unicode

import ProviderCoverage.Number.Binary64

/-! Decimal text of binary numbers: with a fixed number of places, and with the fewest digits that
read back. No exponent is ever written. -/

namespace ProviderCoverage.Decimal

def digits (n : Nat) : List Char :=
  Nat.toDigits 10 n

def power (e : Int) : Rat :=
  if 0 ≤ e then (Nat.pow 10 e.toNat : Rat) else mkRat 1 (Nat.pow 10 (-e).toNat)

/-- The digits of `n` with a point before the last `places` of them. -/
def pointed (places : Nat) (n : Nat) : List Char :=
  let ds := digits n
  let ds := List.replicate (places + 1 - ds.length) '0' ++ ds
  let whole := ds.take (ds.length - places)
  if places = 0 then whole else whole ++ '.' :: ds.drop (ds.length - places)

/-- The number with `places` digits after the point, a half going to the even neighbour. -/
def fixed (places : Nat) (q : Rat) : String :=
  let n := roundDiv (q.num.natAbs * Nat.pow 10 places) q.den
  String.ofList ((if q < 0 then ['-'] else []) ++ pointed places n)

/-- A number of digits and the power of ten that scales them. -/
structure Scaled where
  digits : Nat
  exponent : Int

def Scaled.value (d : Scaled) : Rat :=
  (d.digits : Rat) * power d.exponent

/-- The exponent `e` with `10 ^ e ≤ q < 10 ^ (e + 1)`, for positive `q` in the format's range. -/
def magnitude (q : Rat) : Int :=
  let guess : Int := ((digits q.num.natAbs).length : Int) - ((digits q.den).length : Int)
  if power guess ≤ q then guess else guess - 1

/-- The neighbour of `q` on the grid of multiples of `10 ^ e` that rounds back to `q`, the nearer
one if both do. -/
def neighbour? (q : Rat) (e : Int) : Option Scaled :=
  let low := (q / power e).floor.toNat
  let candidates := [(⟨low, e⟩ : Scaled), ⟨low + 1, e⟩].filter (Binary64.nearest ·.value == q)
  match candidates with
  | [a, b] => if q - a.value ≤ b.value - q then some a else some b
  | candidates => candidates.head?

/-- The coarsest of the grids from `10 ^ e` on downward, `fuel` of them, with a point that rounds
back to `q`. -/
def shortestFrom (q : Rat) (e : Int) : Nat → Scaled
  | 0 => ⟨(q / power e).floor.toNat, e⟩
  | fuel + 1 =>
    match neighbour? q e with
    | some d => d
    | none => shortestFrom q (e - 1) fuel

/-- The fewest digits that round back to the positive number `q`. -/
def shortestDigits (q : Rat) : Scaled :=
  shortestFrom q (magnitude q + 1) 18

/-- Digits and exponent written out, without a point when the number is whole. -/
def Scaled.text (d : Scaled) : List Char :=
  if 0 ≤ d.exponent then
    if d.digits = 0 then ['0'] else Decimal.digits d.digits ++ List.replicate d.exponent.toNat '0'
  else
    pointed (-d.exponent).toNat d.digits

/-- The fewest digits that read back. -/
def shortest (q : Rat) : String :=
  if q = 0 then "0"
  else
    let sign := if q < 0 then ['-'] else []
    String.ofList (sign ++ (shortestDigits (if q < 0 then -q else q)).text)

end ProviderCoverage.Decimal

namespace ProviderCoverage.Binary64

def shortest : Binary64 → String
  | nan => "NaN"
  | infinity => "inf"
  | negInfinity => "-inf"
  | negZero => "-0"
  | finite q => Decimal.shortest q

def fixed (places : Nat) : Binary64 → String
  | nan => "NaN"
  | infinity => "inf"
  | negInfinity => "-inf"
  | negZero => "-" ++ Decimal.fixed places 0
  | finite q => Decimal.fixed places q

end ProviderCoverage.Binary64

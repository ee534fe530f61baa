/-! Binary floating point with 53 significant bits, by exact arithmetic: rounding of rationals,
and the values that a setting may hold. -/

namespace ProviderCoverage

/-- The integer nearest to `num / den`; of two, the even one. -/
def roundDiv (num den : Nat) : Nat :=
  let q := num / den
  let r := num % den
  if 2 * r < den then q else if den < 2 * r then q + 1 else q + q % 2

/-- The integer nearest to `num / den`; of two, the larger one. -/
def roundHalfUp (num den : Nat) : Nat :=
  (2 * num + den) / (2 * den)

/-- A number that stands for a rational after rounding. -/
abbrev Rounding := Rat → Rat

/-- `2 ^ e`. -/
def powerOfTwo (e : Int) : Rat :=
  if 0 ≤ e then (Nat.pow 2 e.toNat : Rat) else mkRat 1 (Nat.pow 2 (-e).toNat)

namespace Binary64

/-- The exponent `e` with `2 ^ e ≤ num / den < 2 ^ (e + 1)`, for positive `num` and `den`. -/
def exponent (num den : Nat) : Int :=
  let e : Int := (num.log2 : Int) - (den.log2 : Int)
  let below := if 0 ≤ e then num < den * Nat.pow 2 e.toNat else num * Nat.pow 2 (-e).toNat < den
  if below then e - 1 else e

/-- The exponent of the last place of a number with this exponent. -/
def lastPlace (e : Int) : Int :=
  max (e - 52) (-1074)

/-- The multiple of `2 ^ p` nearest to `num / den`; of two, the even one. -/
def roundTo (p : Int) (num den : Nat) : Rat :=
  if 0 ≤ p then ((roundDiv num (den * Nat.pow 2 p.toNat) * Nat.pow 2 p.toNat : Nat) : Rat)
  else mkRat (roundDiv (num * Nat.pow 2 (-p).toNat) den) (Nat.pow 2 (-p).toNat)

/-- The nearest number with 53 significant bits and a last place of at least `2 ^ (-1074)`. Large
numbers are not cut off here. -/
def nearest : Rounding := fun q =>
  if q.num = 0 then 0
  else
    let magnitude := roundTo (lastPlace (exponent q.num.natAbs q.den)) q.num.natAbs q.den
    if q.num < 0 then -magnitude else magnitude

/-- The least magnitude that is no longer finite. -/
def overflow : Rat :=
  powerOfTwo 1024

end Binary64

/-- A value of the format. The finite ones are rationals, apart from a zero with a minus sign. -/
inductive Binary64 where
  | nan
  | infinity
  | negInfinity
  | negZero
  | finite (q : Rat)
deriving DecidableEq

namespace Binary64

def ofRat (q : Rat) : Binary64 :=
  let r := nearest q
  if overflow ≤ r then infinity else if r ≤ -overflow then negInfinity else finite r

/-- Whether a finite number is below the value. No number is below `nan`. -/
def exceeds : Binary64 → Rat → Bool
  | nan, _ | negInfinity, _ => false
  | infinity, _ => true
  | negZero, q => q < 0
  | finite v, q => q < v

/-- Whether the value lies between the two numbers, the ends included. -/
def within (lo hi : Rat) : Binary64 → Bool
  | finite v => lo ≤ v && v ≤ hi
  | negZero => lo ≤ 0 && 0 ≤ hi
  | _ => false

/-- The larger of the value and a positive number; the number if the value is `nan`. -/
def atLeast (floor : Rat) : Binary64 → Binary64
  | infinity => infinity
  | finite v => if v < floor then finite floor else finite v
  | _ => finite floor

end Binary64
end ProviderCoverage

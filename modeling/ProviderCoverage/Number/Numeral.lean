import ProviderCoverage.Number.Decimal
import ProviderCoverage.Text.Cut

/-! Numbers as they are written: integers, and decimal numbers with a point and an exponent. -/

namespace ProviderCoverage.Numeral

def asciiLower (s : List Char) : List Char :=
  s.map Char.toLower

/-- A sign at the front: whether it is a minus, and the rest. -/
def sign : List Char → Bool × List Char
  | '-' :: rest => (true, rest)
  | '+' :: rest => (false, rest)
  | s => (false, s)

/-- The value of a digit sequence. -/
def digitsValue (ds : List Char) : Nat :=
  ds.foldl (fun n c => 10 * n + (c.toNat - '0'.toNat)) 0

def natural? (s : List Char) : Option Nat :=
  if !s.isEmpty && s.all Char.isDigit then some (digitsValue s) else none

/-- An integer that fits into 64 bits, with or without a sign of its own. -/
def integer? (s : List Char) : Option Int :=
  let (negative, rest) := sign s
  (natural? rest).bind fun n =>
    if negative then (if n ≤ Nat.pow 2 63 then some (-(n : Int)) else none)
    else if n < Nat.pow 2 64 then some n
    else none

/-- Digits with at most one point, at least one digit. -/
structure Mantissa where
  digits : List Char
  /-- How many of the digits are after the point. -/
  places : Nat

def mantissa? (s : List Char) : Option Mantissa :=
  let whole := s.takeWhile Char.isDigit
  let part := match s.dropWhile Char.isDigit with
    | [] => some []
    | '.' :: rest => if rest.all Char.isDigit then some rest else none
    | _ => none
  part.bind fun part =>
    if whole.isEmpty && part.isEmpty then none else some ⟨whole ++ part, part.length⟩

/-- The text before an exponent, and the exponent, zero if there is none. -/
def exponent? (s : List Char) : Option (List Char × Int) :=
  match (Text.splitFirst? 'e' s).or (Text.splitFirst? 'E' s) with
  | none => some (s, 0)
  | some (before, after) =>
    let (negative, rest) := sign after
    (natural? rest).map fun n => (before, if negative then -(n : Int) else n)

/-- The magnitude of a decimal number. Exponents beyond the range of the format are cut off. -/
def magnitude? (s : List Char) : Option Binary64 :=
  (exponent? s).bind fun (before, exponent) =>
    (mantissa? before).map fun m =>
      let digits := digitsValue m.digits
      let exponent := exponent - m.places
      if digits = 0 || exponent + m.digits.length < -400 then .finite 0
      else if 400 < exponent then .infinity
      else .ofRat (digits * Decimal.power exponent)

def negate : Binary64 → Binary64
  | .nan => .nan
  | .infinity => .negInfinity
  | .negInfinity => .infinity
  | .negZero => .finite 0
  | .finite q => if q = 0 then .negZero else .finite (-q)

/-- A number, or the words for infinity and for what is not a number, whatever their case. -/
def binary64? (s : List Char) : Option Binary64 :=
  let (negative, rest) := sign s
  let magnitude : Option Binary64 := match String.ofList (asciiLower rest) with
    | "inf" | "infinity" => some .infinity
    | "nan" => some .nan
    | _ => magnitude? rest
  magnitude.map fun x => if negative then negate x else x

end ProviderCoverage.Numeral

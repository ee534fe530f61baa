import ProviderCoverage.Number.Numeral
import ProviderCoverage.Text.Quoted

/-! Durations as they are written in settings: `300ms`, `5m`, `1h30m`, `1.5h`. A duration is a
whole number of nanoseconds below `2 ^ 64`; larger ones become the largest. -/

namespace ProviderCoverage.Duration

inductive ParseError where
  | empty
  | negative
  | noNumber (rest : String)
  | badNumber (text : String)
  | noUnit (input : String)
  | badUnit (unit input : String)
deriving DecidableEq

def ParseError.message : ParseError → String
  | empty => "empty duration"
  | negative => "negative durations are not allowed"
  | noNumber rest => "expected a number at " ++ Text.quoted rest
  | badNumber text => "invalid number " ++ Text.quoted text
  | noUnit input => "missing unit in duration " ++ Text.quoted input
  | badUnit unit input => "unknown unit " ++ Text.quoted unit ++ " in duration " ++ Text.quoted input

def isNumeric (c : Char) : Bool :=
  c.isDigit || c == '.'

/-- A run of digits and points with the run of other characters after it. -/
structure Segment where
  number : List Char
  unit : List Char
deriving DecidableEq

/-- The segments of a text. Only the first can be without a number, only the last without a
unit. -/
def segments (s : List Char) : List Segment :=
  match s with
  | [] => []
  | c :: rest =>
    if isNumeric c then
      let afterNumber := rest.dropWhile isNumeric
      ⟨c :: rest.takeWhile isNumeric, afterNumber.takeWhile (!isNumeric ·)⟩
        :: segments (afterNumber.dropWhile (!isNumeric ·))
    else
      ⟨[], c :: rest.takeWhile (!isNumeric ·)⟩ :: segments (rest.dropWhile (!isNumeric ·))
termination_by s.length
decreasing_by
  · have h := Text.length_dropWhile_le (!isNumeric ·) (rest.dropWhile isNumeric)
    have := Text.length_dropWhile_le isNumeric rest
    simp only [List.length_cons]; omega
  · have := Text.length_dropWhile_le (!isNumeric ·) rest
    simp only [List.length_cons]; omega

/-- A decimal number: digits with at most one point, at least one digit. -/
def number? (s : List Char) : Option Rat :=
  match Text.splitOn '.' s with
  | [whole] => if whole.isEmpty then none else some (Binary64.nearest (Numeral.digitsValue whole))
  | [whole, part] =>
    if whole.isEmpty && part.isEmpty then none
    else some (Binary64.nearest (mkRat (Numeral.digitsValue (whole ++ part)) (Nat.pow 10 part.length)))
  | _ => none

/-- Nanoseconds in a unit. -/
def unit? (s : List Char) : Option Nat :=
  match String.ofList s with
  | "ns" => some 1
  | "us" | "µs" | "μs" => some 1000
  | "ms" => some 1000000
  | "s" => some 1000000000
  | "m" => some 60000000000
  | "h" => some 3600000000000
  | _ => none

def Segment.nanoseconds (input : String) (seg : Segment) : Except ParseError Rat :=
  match number? seg.number with
  | none => .error (.badNumber (String.ofList seg.number))
  | some value =>
    match unit? seg.unit with
    | some n => .ok (Binary64.nearest (value * n))
    | none =>
      if seg.unit.isEmpty then .error (.noUnit input)
      else .error (.badUnit (String.ofList seg.unit) input)

/-- The largest duration. -/
def limit : Nat :=
  Nat.pow 2 64 - 1

/-- The sum of the segments, each step rounded. -/
def total (input : String) : Rat → List Segment → Except ParseError Rat
  | sum, [] => .ok sum
  | sum, seg :: rest =>
    match seg.nanoseconds input with
    | .error e => .error e
    | .ok n => total input (Binary64.nearest (sum + n)) rest

def withoutPlus : List Char → List Char
  | '+' :: rest => rest
  | s => s

def parse (input : String) : Except ParseError Nat :=
  let s := Text.trim input.toList
  if s.isEmpty then .error .empty
  else if s = ['0'] then .ok 0
  else if s.head? = some '-' then .error .negative
  else
    let amount := withoutPlus s
    if amount.head?.any (!isNumeric ·) then .error (.noNumber (String.ofList amount))
    else
      (total input 0 (segments amount)).map fun sum =>
        min (roundHalfUp sum.num.toNat sum.den) limit

end ProviderCoverage.Duration

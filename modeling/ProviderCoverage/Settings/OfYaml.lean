import ProviderCoverage.Number.Numeral
import ProviderCoverage.Settings.Overrides
import ProviderCoverage.Yaml.Node

/-! Settings from YAML: a mapping from keys to values, which override the defaults. Unknown keys
are passed over, and a value of nothing leaves the default. -/

namespace ProviderCoverage.Settings

open Yaml

/-- What a plain scalar stands for. -/
inductive PlainValue where
  | nothing
  | flag (b : Bool)
  | integer (n : Int)
  | number (x : Binary64)
  | text (s : List Char)

def isNothing (s : List Char) : Bool :=
  ["", "~", "null", "Null", "NULL"].contains (String.ofList s)

/-- The words for yes and no, whatever their case. -/
def flagOfWord? (s : List Char) : Option Bool :=
  match String.ofList (Numeral.asciiLower s) with
  | "true" | "yes" | "on" => some true
  | "false" | "no" | "off" => some false
  | _ => none

def specialNumber? (s : List Char) : Option Binary64 :=
  match String.ofList (Numeral.asciiLower s) with
  | ".inf" | "+.inf" => some .infinity
  | "-.inf" => some .negInfinity
  | ".nan" => some .nan
  | _ => none

def PlainValue.ofText (s : List Char) : PlainValue :=
  if isNothing s then nothing
  else match flagOfWord? s with
    | some b => flag b
    | none =>
      match Numeral.integer? s with
      | some n => integer n
      | none =>
        match (specialNumber? s).or (Numeral.binary64? s) with
        | some x => number x
        | none => text s

/-- The number nearest to an integer. -/
def ofInteger (n : Int) : Binary64 :=
  .ofRat n

/-- The number that a scalar gives. -/
def numberOf? (isPlain : Bool) (s : List Char) : Option Binary64 :=
  if isPlain then
    match PlainValue.ofText s with
    | .integer n => some (ofInteger n)
    | .number x => some x
    | _ => none
  else Numeral.binary64? s

/-- The text that a scalar gives. Plain numbers are written in their shortest form, and plain words
for yes and no are refused. -/
def textOf? (isPlain : Bool) (s : List Char) : Option String :=
  if isPlain then
    match PlainValue.ofText s with
    | .nothing => some ""
    | .flag _ => none
    | .integer n => some (toString n)
    | .number x => some x.shortest
    | .text s => some (String.ofList s)
  else some (String.ofList s)

def itemText? : Node → Option String
  | .scalar isPlain s => textOf? isPlain s
  | _ => none

/-- The value that a node gives a setting, if it has the right form. -/
def valueOf? : Setting → Node → Option SettingValue
  | .flag .., .scalar _ s => (flagOfWord? s).map .flag
  | .number .., .scalar isPlain s => (numberOf? isPlain s).map .number
  | .text .., .scalar isPlain s => (textOf? isPlain s).map .text
  | .texts .., .sequence items => (items.mapM itemText?).map .texts
  | _, _ => none

def isNothingNode : Node → Bool
  | .scalar true s => isNothing s
  | _ => false

/-- The values in the entries of a mapping, those that leave the default being left out. No known
key may come twice. -/
def valuesOf? (seen : List String) : List (Node × Node) → Option (List (Setting × SettingValue))
  | [] => some []
  | (.scalar _ key, value) :: rest =>
    let key := String.ofList key
    match Setting.ofKey? key with
    | none => valuesOf? seen rest
    | some setting =>
      if seen.contains key then none
      else if isNothingNode value then valuesOf? (key :: seen) rest
      else match valueOf? setting value with
        | none => none
        | some v => (valuesOf? (key :: seen) rest).map ((setting, v) :: ·)
  | _ => none

/-- The settings of a YAML text; `none` if it is malformed or a value has the wrong form. -/
def ofYaml? (text : String) : Option Settings :=
  match Yaml.read? text with
  | some (.mapping entries) => (valuesOf? [] entries).map Settings.default.override
  | some node => if isNothingNode node then some .default else none
  | none => none

end ProviderCoverage.Settings

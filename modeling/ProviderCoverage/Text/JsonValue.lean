import ProviderCoverage.Number.Decimal

/-! JSON values and their text, laid out over lines with an indentation of two spaces. -/

namespace ProviderCoverage

inductive JsonValue where
  | null
  | bool (b : Bool)
  | count (n : Nat)
  | number (q : Rat)
  | string (s : String)
  | array (items : List JsonValue)
  | object (fields : List (String × JsonValue))

namespace JsonValue

/-- A code point below 256 in four hexadecimal digits. -/
def hexEscape (c : Char) : List Char :=
  let digits := Nat.toDigits 16 c.toNat
  ['\\', 'u'] ++ List.replicate (4 - digits.length) '0' ++ digits

def isControl (c : Char) : Bool :=
  c.toNat < 32 || c.toNat == 127

def escapeChar (c : Char) : List Char :=
  if c = '"' then ['\\', '"']
  else if c = '\\' then ['\\', '\\']
  else if c = '\n' then ['\\', 'n']
  else if c = '\r' then ['\\', 'r']
  else if c = '\t' then ['\\', 't']
  else if c.toNat = 8 then ['\\', 'b']
  else if c.toNat = 12 then ['\\', 'f']
  else if isControl c then hexEscape c
  else [c]

def quote (s : String) : String :=
  String.ofList ('"' :: s.toList.flatMap escapeChar ++ ['"'])

def newline (indent : Nat) : String :=
  "\n" ++ String.ofList (List.replicate (2 * indent) ' ')

/-- Items in brackets, each on a line of its own one level deeper. -/
def enclose (opening closing : String) (indent : Nat) (items : List String) : String :=
  if items.isEmpty then opening ++ closing
  else opening ++ newline (indent + 1) ++ ("," ++ newline (indent + 1)).intercalate items
    ++ newline indent ++ closing

mutual

/-- The text of a value that begins at this depth. -/
def layout (indent : Nat) : JsonValue → String
  | null => "null"
  | bool b => if b then "true" else "false"
  | count n => toString n
  | number q => Decimal.shortest q
  | string s => quote s
  | array items => enclose "[" "]" indent (layoutItems (indent + 1) items)
  | object fields => enclose "\x7b" "\x7d" indent (layoutFields (indent + 1) fields)

def layoutItems (indent : Nat) : List JsonValue → List String
  | [] => []
  | v :: vs => v.layout indent :: layoutItems indent vs

def layoutFields (indent : Nat) : List (String × JsonValue) → List String
  | [] => []
  | (name, v) :: rest => (quote name ++ ": " ++ v.layout indent) :: layoutFields indent rest

end

def text (v : JsonValue) : String :=
  v.layout 0

end JsonValue
end ProviderCoverage

import ProviderCoverage.Pattern.Basic

/-! The written form of regular expressions: literals, `.`, classes, escapes, groups, alternatives,
repetitions, anchors and flags. There are no back-references and there is no look-around. -/

namespace ProviderCoverage.Pattern

structure Flags where
  ignoreCase : Bool
  multiLine : Bool
  dotAll : Bool

def Flags.none : Flags :=
  ⟨false, false, false⟩

def charRange (f : Flags) (first last : Char) : CharClass :=
  if f.ignoreCase then .foldedRange first last else .range first last

/-! ### Escapes -/

/-- What an escape stands for: a character, a class, or an assertion. -/
inductive Escape where
  | char (c : Char)
  | cls (c : CharClass)
  | assertion (a : Assertion)

def hexValue? (c : Char) : Option Nat :=
  if c.isDigit then some (c.toNat - '0'.toNat)
  else if 'a' ≤ c && c ≤ 'f' then some (c.toNat - 'a'.toNat + 10)
  else if 'A' ≤ c && c ≤ 'F' then some (c.toNat - 'A'.toNat + 10)
  else none

/-- The character of a sequence of hexadecimal digits. -/
def hexChar? (digits : List Char) : Option Char :=
  if digits.isEmpty then none
  else
    match digits.mapM hexValue? with
    | none => none
    | some ds =>
      let n := ds.foldl (fun n d => 16 * n + d) 0
      if n.isValidChar then some (Char.ofNat n) else none

/-- Exactly `n` hexadecimal digits, or any number between braces. -/
def hexEscape? (n : Nat) : List Char → Option (Char × List Char)
  | '\x7b' :: rest =>
    let digits := rest.takeWhile (· != '\x7d')
    match rest.drop digits.length with
    | _ :: rest => (hexChar? digits).map (·, rest)
    | [] => none
  | s => if s.length < n then none else (hexChar? (s.take n)).map (·, s.drop n)

/-- Whether a backslash before the character makes it stand for itself. -/
def isEscapable (c : Char) : Bool :=
  c.toNat < 128 && !c.isAlphanum && c != '<' && c != '>'

/-- What follows a backslash. -/
def escape? : List Char → Option (Escape × List Char)
  | [] => none
  | c :: rest =>
    match c with
    | 'd' => some (.cls .digit, rest)
    | 'D' => some (.cls (.complement .digit), rest)
    | 's' => some (.cls .space, rest)
    | 'S' => some (.cls (.complement .space), rest)
    | 'w' => some (.cls .word, rest)
    | 'W' => some (.cls (.complement .word), rest)
    | 'x' => (hexEscape? 2 rest).map fun (c, rest) => (.char c, rest)
    | 'u' => (hexEscape? 4 rest).map fun (c, rest) => (.char c, rest)
    | 'U' => (hexEscape? 8 rest).map fun (c, rest) => (.char c, rest)
    | 'a' => some (.char '\x07', rest)
    | 'f' => some (.char '\x0c', rest)
    | 't' => some (.char '\t', rest)
    | 'n' => some (.char '\n', rest)
    | 'r' => some (.char '\r', rest)
    | 'v' => some (.char '\x0b', rest)
    | 'A' => some (.assertion .textStart, rest)
    | 'z' => some (.assertion .textEnd, rest)
    | 'b' => some (.assertion .wordBoundary, rest)
    | 'B' => some (.assertion .noWordBoundary, rest)
    | '<' => some (.assertion .wordStart, rest)
    | '>' => some (.assertion .wordEnd, rest)
    | c => if isEscapable c then some (.char c, rest) else none

/-! ### Classes -/

/-- The operators between the parts of a class. -/
inductive ClassOperator where
  | both
  | without
  | either

def ClassOperator.join : ClassOperator → CharClass → CharClass → CharClass
  | both => .both
  | without => .without
  | either => .either

def asciiRanges (rs : List (Char × Char)) : CharClass :=
  .union (rs.map fun (a, b) => .range a b)

/-- The named classes of ASCII characters. -/
def asciiClass? (name : String) : Option CharClass :=
  match name with
  | "alnum" => some (asciiRanges [('0', '9'), ('A', 'Z'), ('a', 'z')])
  | "alpha" => some (asciiRanges [('A', 'Z'), ('a', 'z')])
  | "ascii" => some (asciiRanges [('\x00', '\x7f')])
  | "blank" => some (asciiRanges [('\t', '\t'), (' ', ' ')])
  | "cntrl" => some (asciiRanges [('\x00', '\x1f'), ('\x7f', '\x7f')])
  | "digit" => some (asciiRanges [('0', '9')])
  | "graph" => some (asciiRanges [('!', '~')])
  | "lower" => some (asciiRanges [('a', 'z')])
  | "print" => some (asciiRanges [(' ', '~')])
  | "punct" => some (asciiRanges [('!', '/'), (':', '@'), ('[', '\x60'), ('\x7b', '~')])
  | "space" => some (asciiRanges [('\t', '\r'), (' ', ' ')])
  | "upper" => some (asciiRanges [('A', 'Z')])
  | "word" => some (asciiRanges [('0', '9'), ('A', 'Z'), ('_', '_'), ('a', 'z')])
  | "xdigit" => some (asciiRanges [('0', '9'), ('A', 'F'), ('a', 'f')])
  | _ => none

/-- A named class after its opening bracket: `:alpha:]`. -/
def namedClass? : List Char → Option (CharClass × List Char)
  | ':' :: rest =>
    let (negated, rest) := match rest with
      | '^' :: rest => (true, rest)
      | rest => (false, rest)
    let name := rest.takeWhile (· != ':')
    match rest.drop name.length with
    | ':' :: ']' :: rest =>
      (asciiClass? (String.ofList name)).map fun c =>
        (if negated then .complement c else c, rest)
    | _ => none
  | _ => none

/-- A class being read: the part before the last operator, and the members since then. -/
structure OpenSet where
  left : Option (CharClass × ClassOperator)
  members : List CharClass

namespace OpenSet

def value (s : OpenSet) : CharClass :=
  let right := CharClass.union s.members
  match s.left with
  | some (left, op) => op.join left right
  | none => right

def add (s : OpenSet) (c : CharClass) : OpenSet :=
  { s with members := c :: s.members }

def operator (s : OpenSet) (op : ClassOperator) : OpenSet :=
  ⟨some (s.value, op), []⟩

end OpenSet

/-- A character or class at the front of a class. -/
def classItem? : List Char → Option (Escape × List Char)
  | [] => none
  | '\\' :: rest => escape? rest
  | c :: rest => some (.char c, rest)

/-- The start of a class after its bracket: whether it is negated, and the hyphens and the bracket
that stand for themselves there. -/
def classStart (f : Flags) (s : List Char) : Bool × OpenSet × List Char :=
  let (negated, s) := match s with
    | '^' :: rest => (true, rest)
    | s => (false, s)
  let hyphens := s.takeWhile (· == '-')
  let rest := s.drop hyphens.length
  let members := hyphens.map fun _ => charRange f '-' '-'
  match members, rest with
  | [], ']' :: rest => (negated, ⟨none, [charRange f ']' ']']⟩, rest)
  | members, rest => (negated, ⟨none, members⟩, rest)

/-- The rest of a class up to its closing bracket. -/
def readClass (f : Flags) : Nat → Bool → OpenSet → List Char → Option (CharClass × List Char)
  | 0, _, _, _ => none
  | fuel + 1, negated, set, s =>
    match s with
    | [] => none
    | ']' :: rest => some (if negated then .complement set.value else set.value, rest)
    | '[' :: rest =>
      match namedClass? rest with
      | some (c, rest) => readClass f fuel negated (set.add c) rest
      | none =>
        let (inner, start, rest) := classStart f rest
        match readClass f fuel inner start rest with
        | some (c, rest) => readClass f fuel negated (set.add c) rest
        | none => none
    | '&' :: '&' :: rest => readClass f fuel negated (set.operator .both) rest
    | '-' :: '-' :: rest => readClass f fuel negated (set.operator .without) rest
    | '~' :: '~' :: rest => readClass f fuel negated (set.operator .either) rest
    | s =>
      match classItem? s with
      | some (.char a, '-' :: rest) =>
        if rest.head? = some ']' || rest.head? = some '-' then
          readClass f fuel negated (set.add (charRange f a a)) ('-' :: rest)
        else
          match classItem? rest with
          | some (.char b, rest) =>
            if a ≤ b then readClass f fuel negated (set.add (charRange f a b)) rest else none
          | _ => none
      | some (.char a, rest) => readClass f fuel negated (set.add (charRange f a a)) rest
      | some (.cls c, '-' :: rest) =>
        if rest.head? = some ']' || rest.head? = some '-' then
          readClass f fuel negated (set.add c) ('-' :: rest)
        else none
      | some (.cls c, rest) => readClass f fuel negated (set.add c) rest
      | _ => none

/-! ### Repetitions -/

def skipBlanks (s : List Char) : List Char :=
  s.dropWhile Unicode.isWhiteSpace

/-- A decimal number below `2 ^ 32`, with blanks around it; `none` for the number if there are no
digits. -/
def decimal? (s : List Char) : Option (Option Nat × List Char) :=
  let s := skipBlanks s
  let digits := s.takeWhile (·.isDigit)
  let rest := skipBlanks (s.drop digits.length)
  if digits.isEmpty then some (none, rest)
  else
    let n := digits.foldl (fun n d => 10 * n + (d.toNat - '0'.toNat)) 0
    if n < Nat.pow 2 32 then some (some n, rest) else none

/-- The bounds of a repetition after its opening brace. -/
def bounds? (s : List Char) : Option ((Nat × Option Nat) × List Char) :=
  match decimal? s with
  | some (some least, ',' :: rest) =>
    match skipBlanks rest with
    | '\x7d' :: rest => some ((least, none), rest)
    | rest =>
      match decimal? rest with
      | some (some most, '\x7d' :: rest) =>
        if least ≤ most then some ((least, some most), rest) else none
      | _ => none
  | some (some least, '\x7d' :: rest) => some ((least, some least), rest)
  | _ => none

/-- A question mark after a repetition prefers fewer, which makes no difference to a search. -/
def skipLazy : List Char → List Char
  | '?' :: rest => rest
  | s => s

/-! ### Groups -/

/-- What a group opens with: new flags for the rest of the group around it, or flags and perhaps a
name of its own. -/
inductive GroupStart where
  | flags (f : Flags)
  | group (f : Flags) (name : Option (List Char))

def isNameStart (c : Char) : Bool :=
  c == '_' || (Unicode.isWordChar c && !Unicode.isDigit c)

def isNameChar (c : Char) : Bool :=
  Unicode.isWordChar c || c == '.' || c == '[' || c == ']'

def groupName? (s : List Char) : Option (List Char × List Char) :=
  let name := s.takeWhile (· != '>')
  match name, s.drop name.length with
  | c :: more, _ :: rest =>
    if isNameStart c && more.all isNameChar then some (c :: more, rest) else none
  | _, _ => none

/-- Flags up to a colon or a closing parenthesis. `on` turns false after a hyphen, and `seen` are
the letters so far. -/
def readFlags (f : Flags) (on : Bool) (seen : List Char) :
    List Char → Option (GroupStart × List Char)
  | ')' :: rest =>
    if seen.isEmpty || seen.head? = some '-' then none else some (.flags f, rest)
  | ':' :: rest => if seen.head? = some '-' then none else some (.group f none, rest)
  | '-' :: rest => if on then readFlags f false ('-' :: seen) rest else none
  | c :: rest =>
    if seen.contains c then none
    else match c with
      | 'i' => readFlags { f with ignoreCase := on } on (c :: seen) rest
      | 'm' => readFlags { f with multiLine := on } on (c :: seen) rest
      | 's' => readFlags { f with dotAll := on } on (c :: seen) rest
      | 'U' | 'u' | 'x' | 'R' => readFlags f on (c :: seen) rest
      | _ => none
  | [] => none

def groupStart? (f : Flags) : List Char → Option (GroupStart × List Char)
  | '?' :: 'P' :: '<' :: rest | '?' :: '<' :: rest =>
    (groupName? rest).map fun (name, rest) => (.group f (some name), rest)
  | '?' :: rest => readFlags f true [] rest
  | rest => some (.group f none, rest)

/-! ### Expressions -/

/-- An expression being read: its branches so far and the items of the current one, both in
reverse. A change of flags is an item that cannot be repeated. -/
structure Reading where
  flags : Flags
  branches : List Pattern
  items : List (Option Pattern)
  names : List (List Char)

namespace Reading

def branch (r : Reading) : Pattern :=
  (r.items.filterMap id).foldl (fun p q => seq q p) empty

def push (r : Reading) (p : Pattern) : Reading :=
  { r with items := some p :: r.items }

def nextBranch (r : Reading) : Reading :=
  { r with branches := r.branch :: r.branches, items := [] }

def value (r : Reading) : Pattern :=
  r.branches.foldl (fun p q => alt q p) r.branch

/-- Repeat the last item. -/
def repeatLast? (r : Reading) (least : Nat) (most : Option Nat) : Option Reading :=
  match r.items with
  | some p :: rest => some { r with items := some (repeated p least most) :: rest }
  | _ => none

/-- A group within keeps the names used so far. -/
def inner (r : Reading) (f : Flags) (name : Option (List Char)) : Reading :=
  ⟨f, [], [], name.toList ++ r.names⟩

def anyChar (f : Flags) : CharClass :=
  if f.dotAll then .complement (.union []) else .complement (.range '\n' '\n')

end Reading

/-- The expression up to the end of its group. -/
def readItems : Nat → Reading → List Char → Option (Reading × List Char)
  | 0, _, _ => none
  | fuel + 1, r, s =>
    match s with
    | [] => some (r, [])
    | ')' :: rest => some (r, ')' :: rest)
    | '|' :: rest => readItems fuel r.nextBranch rest
    | '(' :: rest =>
      match groupStart? r.flags rest with
      | none => none
      | some (.flags f, rest) => readItems fuel { r with flags := f, items := none :: r.items } rest
      | some (.group f name, rest) =>
        if name.any r.names.contains then none
        else match readItems fuel (r.inner f name) rest with
          | some (g, ')' :: rest) => readItems fuel { r.push g.value with names := g.names } rest
          | _ => none
    | '*' :: rest => (r.repeatLast? 0 none).bind fun r => readItems fuel r (skipLazy rest)
    | '+' :: rest => (r.repeatLast? 1 none).bind fun r => readItems fuel r (skipLazy rest)
    | '?' :: rest => (r.repeatLast? 0 (some 1)).bind fun r => readItems fuel r (skipLazy rest)
    | '\x7b' :: rest =>
      match bounds? rest with
      | some ((least, most), rest) =>
        (r.repeatLast? least most).bind fun r => readItems fuel r (skipLazy rest)
      | none => none
    | '[' :: rest =>
      let (negated, start, rest) := classStart r.flags rest
      match readClass r.flags (rest.length + 1) negated start rest with
      | some (c, rest) => readItems fuel (r.push (one c)) rest
      | none => none
    | '\\' :: rest =>
      match escape? rest with
      | some (.char c, rest) => readItems fuel (r.push (one (charRange r.flags c c))) rest
      | some (.cls c, rest) => readItems fuel (r.push (one c)) rest
      | some (.assertion a, rest) => readItems fuel (r.push (assert a)) rest
      | none => none
    | '^' :: rest =>
      readItems fuel (r.push (assert (if r.flags.multiLine then .lineStart else .textStart))) rest
    | '$' :: rest =>
      readItems fuel (r.push (assert (if r.flags.multiLine then .lineEnd else .textEnd))) rest
    | '.' :: rest => readItems fuel (r.push (one (Reading.anyChar r.flags))) rest
    | c :: rest => readItems fuel (r.push (one (charRange r.flags c c))) rest

/-- The expression of a text, if it is well formed. -/
def read? (text : String) : Option Pattern :=
  let s := text.toList
  match readItems (s.length + 1) ⟨.none, [], [], []⟩ s with
  | some (r, []) => some r.value
  | _ => none

/-- The texts in which the expression of a text is found, if that is well formed. -/
def finder? (text : String) : Option (String → Bool) :=
  (read? text).map found

end ProviderCoverage.Pattern

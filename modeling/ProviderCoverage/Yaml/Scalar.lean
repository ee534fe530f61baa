import ProviderCoverage.Yaml.Cursor

/-! YAML scalars in their five styles: plain, with single or double quotes, literal and folded.
Within the first three a line break counts as a space, and each further one as itself. -/

namespace ProviderCoverage.Yaml

/-! ### Plain scalars -/

/-- Whether a colon before this text ends a key. -/
def endsKey (flow : Bool) : List Char → Bool
  | [] => true
  | c :: _ => isBlank c || c == '\n' || (flow && isFlowIndicator c)

/-- Whether a plain scalar ends before this text. -/
def endsPlain (flow afterBlank : Bool) : List Char → Bool
  | [] => true
  | '\n' :: _ => true
  | '#' :: _ => afterBlank
  | ':' :: rest => endsKey flow rest
  | c :: _ => flow && isFlowIndicator c

/-- Whether a plain scalar can begin with this text. -/
def beginsPlain (flow : Bool) : List Char → Bool
  | [] => false
  | c :: rest =>
    if ['-', '?', ':'].contains c then
      !(atSpace rest || (flow && rest.head?.any isFlowIndicator))
    else !([',', '[', ']', '\x7b', '\x7d', '#', '&', '*', '!', '|', '>', '\'', '"', '%', '@', '\x60',
      '\n', ' ', '\t'].contains c)

/-- The part of a plain scalar on one line, and what follows. -/
def plainLine (flow afterBlank : Bool) : List Char → List Char × List Char
  | [] => ([], [])
  | c :: rest =>
    if endsPlain flow afterBlank (c :: rest) then ([], c :: rest)
    else
      let (text, after) := plainLine flow (isBlank c) rest
      (c :: text, after)

/-- The text for `n` line breaks between two parts. -/
def folded (n : Nat) : List Char :=
  if n = 1 then [' '] else List.replicate (n - 1) '\n'

structure BlankLines where
  count : Nat
  content : Cursor

/-- The line breaks at the front, with the blanks around them. -/
def blankLines (count column : Nat) : List Char → BlankLines
  | [] => ⟨count, ⟨column, []⟩⟩
  | c :: rest =>
    if c = '\n' then blankLines (count + 1) 0 rest
    else if isBlank c then blankLines count (column + 1) rest
    else ⟨count, ⟨column, c :: rest⟩⟩

/-- A scalar as read, with the place after it. -/
structure Scanned where
  text : List Char
  after : Cursor
  /-- Whether it goes over several lines. -/
  multiline : Bool

/-- A plain scalar. It goes on with the next line if that is indented to at least this column. -/
def plain (flow : Bool) (least : Nat) : Nat → Cursor → Scanned
  | 0, c => ⟨[], c, false⟩
  | fuel + 1, c =>
    let (line, after) := plainLine flow false c.rest
    let text := Text.dropEndWhile isBlank line
    let stop : Scanned := ⟨text, c.skip text.length, false⟩
    match after with
    | '\n' :: _ =>
      let gap := blankLines 0 0 after
      let next := gap.content
      if next.atEnd || next.column < least || endsPlain flow true next.rest then stop
      else
        let more := plain flow least fuel next
        ⟨text ++ folded gap.count ++ more.text, more.after, true⟩
    | _ => stop

/-! ### Quoted scalars -/

/-- White space within quotes that has not been decided on. -/
inductive Pending where
  | blanks (s : List Char)
  /-- A line break and `more` empty lines. If the first break was escaped, it counts for nothing. -/
  | breaks (escaped : Bool) (more : Nat)

namespace Pending

def text : Pending → List Char
  | blanks s => s
  | breaks escaped more =>
    if more = 0 then (if escaped then [] else [' ']) else List.replicate more '\n'

def blank (c : Char) : Pending → Pending
  | blanks s => blanks (s ++ [c])
  | p => p

def newLine : Pending → Pending
  | blanks _ => breaks false 0
  | breaks escaped more => breaks escaped (more + 1)

end Pending

/-- A part of the text, the white space before it, and the rest as far as it can be read. -/
def joined (p : Pending) (c : Option Char) (rest : Option (List Char × List Char)) :
    Option (List Char × List Char) :=
  match c, rest with
  | some c, some (text, after) => some (p.text ++ c :: text, after)
  | _, _ => none

/-- The text up to the closing single quote, and what follows it. -/
def singleQuoted (p : Pending) : List Char → Option (List Char × List Char)
  | [] => none
  | '\'' :: '\'' :: rest =>
    joined p (some '\'') (singleQuoted (.blanks []) rest)
  | '\'' :: rest => some (p.text, rest)
  | c :: rest =>
    if c = '\n' then if atMarker rest then none else singleQuoted p.newLine rest
    else if isBlank c then singleQuoted (p.blank c) rest
    else joined p (some c) (singleQuoted (.blanks []) rest)

/-- What an escape of one letter stands for. -/
def escaped? : Char → Option Char
  | '0' => some '\x00'
  | 'a' => some '\x07'
  | 'b' => some '\x08'
  | 't' | '\t' => some '\t'
  | 'n' => some '\n'
  | 'v' => some '\x0b'
  | 'f' => some '\x0c'
  | 'r' => some '\r'
  | 'e' => some '\x1b'
  | ' ' => some ' '
  | '"' => some '"'
  | '/' => some '/'
  | '\\' => some '\\'
  | 'N' => some '\u0085'
  | '_' => some '\u00a0'
  | 'L' => some '\u2028'
  | 'P' => some '\u2029'
  | _ => none

def hexDigit? (c : Char) : Option Nat :=
  if c.isDigit then some (c.toNat - '0'.toNat)
  else if 'a' ≤ c && c ≤ 'f' then some (c.toNat - 'a'.toNat + 10)
  else if 'A' ≤ c && c ≤ 'F' then some (c.toNat - 'A'.toNat + 10)
  else none

/-- The character of a code point in hexadecimal digits. -/
def hexChar? (digits : List Char) : Option Char :=
  let value := digits.foldl (fun n c => n.bind fun n => (hexDigit? c).map (16 * n + ·)) (some 0)
  value.bind fun n => if h : n.isValidChar then some (Char.ofNatAux n h) else none

/-- The text up to the closing double quote, and what follows it. -/
def doubleQuoted (p : Pending) : List Char → Option (List Char × List Char)
  | [] => none
  | '"' :: rest => some (p.text, rest)
  | '\\' :: '\n' :: rest =>
    (doubleQuoted (.breaks true 0) rest).map fun (text, after) => (p.text ++ text, after)
  | '\\' :: 'x' :: d1 :: d2 :: rest =>
    joined p (hexChar? [d1, d2]) (doubleQuoted (.blanks []) rest)
  | '\\' :: 'u' :: d1 :: d2 :: d3 :: d4 :: rest =>
    joined p (hexChar? [d1, d2, d3, d4]) (doubleQuoted (.blanks []) rest)
  | '\\' :: 'U' :: d1 :: d2 :: d3 :: d4 :: d5 :: d6 :: d7 :: d8 :: rest =>
    joined p (hexChar? [d1, d2, d3, d4, d5, d6, d7, d8]) (doubleQuoted (.blanks []) rest)
  | '\\' :: c :: rest => joined p (escaped? c) (doubleQuoted (.blanks []) rest)
  | c :: rest =>
    if c = '\n' then if atMarker rest then none else doubleQuoted p.newLine rest
    else if isBlank c then doubleQuoted (p.blank c) rest
    else joined p (some c) (doubleQuoted (.blanks []) rest)

/-- A quoted scalar, from its opening quote on. -/
def quoted? (c : Cursor) : Option Scanned :=
  let found := match c.rest with
    | '\'' :: rest => singleQuoted (.blanks []) rest
    | '"' :: rest => doubleQuoted (.blanks []) rest
    | _ => none
  found.map fun (text, after) =>
    ⟨text, c.upTo after, (c.rest.take (c.rest.length - after.length)).contains '\n'⟩

/-! ### Literal and folded scalars -/

inductive Chomping where
  | clip
  | strip
  | keep
deriving DecidableEq

structure BlockHeader where
  chomping : Chomping
  /-- The indentation beyond that of the parent, if given. -/
  indent : Option Nat

/-- The indicators after `|` or `>`, in either order. -/
def blockHeader (h : BlockHeader) : List Char → BlockHeader × List Char
  | '+' :: rest => blockHeader { h with chomping := .keep } rest
  | '-' :: rest => blockHeader { h with chomping := .strip } rest
  | c :: rest =>
    if '1' ≤ c && c ≤ '9' then blockHeader { h with indent := some (c.toNat - '0'.toNat) } rest
    else (h, c :: rest)
  | [] => (h, [])

def isSpaces (line : List Char) : Bool :=
  line.all (· == ' ')

def indentation (line : List Char) : Nat :=
  (line.takeWhile (· == ' ')).length

/-- The lines of a block scalar: those indented to at least this column, and empty ones. -/
def blockLines (column : Nat) (lines : List (List Char)) : List (List Char) :=
  lines.takeWhile fun line => isSpaces line || column ≤ indentation line

/-- The column of the first line that is more than spaces, if it is indented enough. -/
def detectColumn (least : Nat) (lines : List (List Char)) : Nat :=
  max (max least 1) (((lines.find? (!isSpaces ·)).map indentation).getD 0)

/-- How a line break between two parts counts: as a space between lines of text, if lines are
folded, and as itself elsewhere. -/
def joint (fold : Bool) (before after : List Char) (empty : Nat) : List Char :=
  let textual := !before.head?.any isBlank && !after.head?.any isBlank
  if fold && textual then folded (empty + 1) else List.replicate (empty + 1) '\n'

/-- The lines after `before` and some empty ones, joined to it. -/
def joinLines (fold : Bool) (before : List Char) (empty : Nat) : List (List Char) → List Char
  | [] => []
  | line :: rest =>
    if line.isEmpty then joinLines fold before (empty + 1) rest
    else joint fold before line empty ++ line ++ joinLines fold line 0 rest

def withoutFinalEmpty : List (List Char) → List (List Char)
  | [] => []
  | line :: rest =>
    match withoutFinalEmpty rest with
    | [] => if line.isEmpty then [] else [line]
    | kept => line :: kept

/-- The text of content lines, which are without their indentation. -/
def blockText (fold : Bool) (chomping : Chomping) (lines : List (List Char)) : List Char :=
  let content := withoutFinalEmpty lines
  let trailing := lines.length - content.length
  let leading := content.takeWhile (·.isEmpty)
  let body := match content.dropWhile (·.isEmpty) with
    | [] => []
    | first :: rest => List.replicate leading.length '\n' ++ first ++ joinLines fold first 0 rest
  let finish := match chomping with
    | .strip => 0
    | .clip => if content.isEmpty then 0 else 1
    | .keep => if content.isEmpty then trailing else trailing + 1
  body ++ List.replicate finish '\n'

/-- A literal or folded scalar after its indicator. Content is indented to at least `least`. -/
def blockScalar? (fold : Bool) (least : Nat) (c : Cursor) : Option (List Char × Cursor) :=
  let (header, after) := blockHeader ⟨.clip, none⟩ c.rest
  let line := after.takeWhile (· != '\n')
  let note := line.dropWhile isBlank
  if !(note.isEmpty || (note.head? == some '#' && note.length < line.length)) then none
  else
    let lines := Text.splitOn '\n' ((after.dropWhile (· != '\n')).drop 1)
    -- the text after the last line break is not a line
    let whole := if (lines.getLast?.getD []).isEmpty then lines.dropLast else lines
    let column := match header.indent with
      | some n => least - 1 + n
      | none => detectColumn least whole
    let content := blockLines column whole
    let rest := List.drop 1 ((lines.drop content.length).flatMap ('\n' :: ·))
    some (blockText fold header.chomping (content.map (·.drop column)), ⟨0, rest⟩)

end ProviderCoverage.Yaml

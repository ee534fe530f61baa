import ProviderCoverage.Text.Cut

/-! Places in YAML text, and what separates its parts: blanks, comments and line breaks. -/

namespace ProviderCoverage.Yaml

/-- Texts have line feeds for all line breaks. -/
def normalizeBreaks : List Char → List Char
  | [] => []
  | '\r' :: '\n' :: rest => '\n' :: normalizeBreaks rest
  | '\r' :: rest => '\n' :: normalizeBreaks rest
  | c :: rest => c :: normalizeBreaks rest

def isBlank (c : Char) : Bool :=
  c == ' ' || c == '\t'

/-- Whether a text begins with a blank or a line break, or is empty. -/
def atSpace : List Char → Bool
  | [] => true
  | c :: _ => isBlank c || c == '\n'

def isFlowIndicator (c : Char) : Bool :=
  [',', '[', ']', '\x7b', '\x7d'].contains c

/-- Whether a marker between documents begins here, if this is the start of a line. -/
def atMarker : List Char → Bool
  | '-' :: '-' :: '-' :: rest | '.' :: '.' :: '.' :: rest => atSpace rest
  | _ => false

/-- What comes after a place, and the column of the place, from zero. -/
structure Cursor where
  column : Nat
  rest : List Char

namespace Cursor

/-- The column after some text. -/
def columnAfter (column : Nat) (text : List Char) : Nat :=
  text.foldl (fun n c => if c = '\n' then 0 else n + 1) column

/-- The later place that `rest` follows. -/
def upTo (c : Cursor) (rest : List Char) : Cursor :=
  ⟨columnAfter c.column (c.rest.take (c.rest.length - rest.length)), rest⟩

/-- The place `n` characters later on the same line. -/
def skip (c : Cursor) (n : Nat) : Cursor :=
  ⟨c.column + n, c.rest.drop n⟩

def skipBlanks (c : Cursor) : Cursor :=
  c.upTo (c.rest.dropWhile isBlank)

/-- Whether a document ends here. -/
def atEnd (c : Cursor) : Bool :=
  c.rest.isEmpty || (c.column == 0 && atMarker c.rest)

end Cursor

/-- What lies before the next content. -/
structure Gap where
  content : Cursor
  /-- Whether the content is on a later line. -/
  newLine : Bool
  /-- The column of the first tab before the content on its line. -/
  tab : Option Nat

/-- The gap from a place on. A comment begins at the start of a line or after white space. -/
def gapFrom (inComment spaced newLine : Bool) (tab : Option Nat) (column : Nat) :
    List Char → Gap
  | [] => ⟨⟨column, []⟩, newLine, none⟩
  | c :: rest =>
    if c = '\n' then gapFrom false true true none 0 rest
    else if inComment then gapFrom true spaced newLine tab (column + 1) rest
    else if c = ' ' then gapFrom false true newLine tab (column + 1) rest
    else if c = '\t' then gapFrom false true newLine (tab.or (some column)) (column + 1) rest
    else if c = '#' && spaced then gapFrom true true newLine tab (column + 1) rest
    else ⟨⟨column, c :: rest⟩, newLine, tab⟩

/-- The gap after an indicator or between nodes. The first column is always that of a new line. -/
def Cursor.gap (c : Cursor) : Gap :=
  gapFrom false (c.column == 0) (c.column == 0) none c.column c.rest

/-- Whether the content is indented by tabs where there must be spaces. -/
def Gap.isTabbed (g : Gap) (least : Nat) : Bool :=
  g.newLine && g.tab.any (· < least)

end ProviderCoverage.Yaml

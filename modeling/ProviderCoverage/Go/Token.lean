import ProviderCoverage.Unicode.Class

/-! Tokens of Go source text. A token keeps the blanks and comments before it, so that the text of
any run of tokens can be given back as it was written. -/

namespace ProviderCoverage.Go

/-- Line and column, from one; columns count bytes. -/
structure Position where
  line : Nat
  column : Nat
deriving DecidableEq

def Position.start : Position :=
  ⟨1, 1⟩

def Position.advance (p : Position) (c : Char) : Position :=
  if c = '\n' then ⟨p.line + 1, 1⟩ else ⟨p.line, p.column + c.utf8Size⟩

inductive TokenKind where
  | identifier
  | keyword
  | number
  | rune
  | rawString
  | interpretedString
  | operator
  /-- The end of a statement that a line break implies. Its text is empty. -/
  | lineEnd
deriving DecidableEq

structure Token where
  kind : TokenKind
  /-- Blanks and comments before the token. -/
  leading : String
  text : String
  position : Position
deriving DecidableEq

def keywords : List String :=
  ["break", "case", "chan", "const", "continue", "default", "defer", "else", "fallthrough", "for",
   "func", "go", "goto", "if", "import", "interface", "map", "package", "range", "return",
   "select", "struct", "switch", "type", "var"]

/-- Operators and punctuation, longer ones first. -/
def operators : List String :=
  ["<<=", ">>=", "&^=", "...",
   "&&", "||", "<-", "++", "--", "==", "!=", "<=", ">=", ":=", "+=", "-=", "*=", "/=", "%=", "&=",
   "|=", "^=", "<<", ">>", "&^",
   "+", "-", "*", "/", "%", "&", "|", "^", "<", ">", "=", "!", "(", ")", "[", "]", "\x7b", "\x7d",
   ",", ";", ".", ":", "~"]

def assignmentOperators : List String :=
  ["=", "+=", "-=", "*=", "/=", "%=", "&=", "|=", "^=", "<<=", ">>=", "&^="]

/-- How tightly a binary operator binds, from one to five. -/
def precedence? (op : String) : Option Nat :=
  if op ∈ ["||"] then some 1
  else if op ∈ ["&&"] then some 2
  else if op ∈ ["==", "!=", "<", "<=", ">", ">="] then some 3
  else if op ∈ ["+", "-", "|", "^"] then some 4
  else if op ∈ ["*", "/", "%", "<<", ">>", "&", "&^"] then some 5
  else none

def unaryOperators : List String :=
  ["+", "-", "!", "^", "*", "&", "<-"]

/-- Whether a line break after the token ends a statement. -/
def Token.endsStatement (t : Token) : Bool :=
  match t.kind with
  | .identifier | .number | .rune | .rawString | .interpretedString => true
  | .keyword => t.text ∈ ["break", "continue", "fallthrough", "return"]
  | .operator => t.text ∈ [")", "]", "\x7d", "++", "--"]
  | .lineEnd => false

def Token.is (t : Token) (text : String) : Bool :=
  (t.kind == .operator || t.kind == .keyword) && t.text == text

end ProviderCoverage.Go

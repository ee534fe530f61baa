import ProviderCoverage.Go.Token

/-! Scanning Go source text: first into lexemes, which together are the text, then into tokens,
with blanks and comments attached to the token after them and statement ends put in at line
breaks. -/

namespace ProviderCoverage.Go

inductive LexemeKind where
  | blank
  | comment
  | token (kind : TokenKind)
deriving DecidableEq

structure Lexeme where
  kind : LexemeKind
  text : List Char

/-- Letters, digits and underscores of any script. -/
def isIdentifierChar (c : Char) : Bool :=
  Unicode.isWordChar c

def isBlank (c : Char) : Bool :=
  c == ' ' || c == '\t' || c == '\n' || c == '\r' || Unicode.isWhiteSpace c

/-- The number of characters up to and including the next `quote` that no backslash precedes, or
up to the end of the line or text. -/
def quotedExtent (quote : Char) : List Char → Nat
  | [] => 0
  | '\\' :: _ :: rest => 2 + quotedExtent quote rest
  | c :: rest => if c = quote then 1 else if c = '\n' then 0 else 1 + quotedExtent quote rest

/-- The number of characters up to and including the next backquote. -/
def rawExtent : List Char → Nat
  | [] => 0
  | c :: rest => if c = '\x60' then 1 else 1 + rawExtent rest

/-- The number of characters of a comment after its opening, its closing included. -/
def commentExtent : List Char → Nat
  | [] => 0
  | '*' :: '/' :: _ => 2
  | _ :: rest => 1 + commentExtent rest

/-- The number of characters that continue a number: letters, digits, points, and a sign after an
exponent mark. `previous` is the character before and `hex` says whether `e` is a digit. -/
def numberExtent (hex : Bool) (previous : Char) : List Char → Nat
  | [] => 0
  | c :: rest =>
    let mark := previous == 'p' || previous == 'P' || (!hex && (previous == 'e' || previous == 'E'))
    if c.isAlphanum || c == '_' || c == '.' || ((c == '+' || c == '-') && mark) then
      1 + numberExtent (hex || (previous == '0' && (c == 'x' || c == 'X'))) c rest
    else 0

/-- The number of characters of the longest operator that begins the text. -/
def operatorExtent (s : List Char) : Nat :=
  ((operators.find? fun op => op.toList.isPrefixOf s).map (·.length)).getD 0

/-- The kind of the lexeme that begins with `c`, and how many of the characters after `c` belong
to it. -/
def lexeme (c : Char) (rest : List Char) : LexemeKind × Nat :=
  if isBlank c then (.blank, (rest.takeWhile isBlank).length)
  else if c = '/' && rest.head? = some '/' then
    (.comment, (rest.takeWhile (· != '\n')).length)
  else if c = '/' && rest.head? = some '*' then (.comment, 1 + commentExtent (rest.drop 1))
  else if c = '"' then (.token .interpretedString, quotedExtent '"' rest)
  else if c = '\x60' then (.token .rawString, rawExtent rest)
  else if c = '\'' then (.token .rune, quotedExtent '\'' rest)
  else if c.isDigit || (c == '.' && rest.head?.any (·.isDigit)) then
    (.token .number, numberExtent false c rest)
  else if isIdentifierChar c then
    let more := rest.takeWhile isIdentifierChar
    (.token (if String.ofList (c :: more) ∈ keywords then .keyword else .identifier), more.length)
  else (.token .operator, operatorExtent (c :: rest) - 1)

/-- The lexemes of a text, in order. -/
def lexemes (s : List Char) : List Lexeme :=
  match s with
  | [] => []
  | c :: rest =>
    let found := lexeme c rest
    ⟨found.1, c :: rest.take found.2⟩ :: lexemes (rest.drop found.2)
termination_by s.length
decreasing_by simp only [List.length_drop, List.length_cons]; omega

/-- Nothing of the text is lost. -/
theorem flatMap_text_lexemes (s : List Char) : (lexemes s).flatMap (·.text) = s := by
  fun_induction lexemes s with
  | case1 => rfl
  | case2 c rest found ih => simp [ih]

def lineEnd (p : Position) : Token :=
  ⟨.lineEnd, "", "", p⟩

/-- Tokens from lexemes. `leading` are the blanks and comments read since the last token, and
`ends` says whether a line break would end a statement here. -/
def tokensFrom (p : Position) (leading : List Char) (ends : Bool) : List Lexeme → List Token
  | [] => if ends then [lineEnd p] else []
  | ⟨kind, text⟩ :: rest =>
    let next := text.foldl Position.advance p
    match kind with
    | .token kind =>
      let token : Token := ⟨kind, String.ofList leading, String.ofList text, p⟩
      token :: tokensFrom next [] token.endsStatement rest
    | .blank | .comment =>
      if ends && text.contains '\n' then
        lineEnd p :: tokensFrom next (leading ++ text) false rest
      else tokensFrom next (leading ++ text) ends rest

def tokens (s : List Char) : List Token :=
  tokensFrom .start [] false (lexemes s)

end ProviderCoverage.Go

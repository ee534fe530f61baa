import ProviderCoverage.Go.Node

/-! The values of string literals. -/

namespace ProviderCoverage.Go.StringLiteral

/-- The character that an escape of one letter stands for. -/
def escaped? : Char → Option Char
  | 'n' => some '\n'
  | 't' => some '\t'
  | 'r' => some '\r'
  | '"' => some '"'
  | '\\' => some '\\'
  | '\'' => some '\''
  | _ => none

/-- Replace the escapes of one letter. All others stay as they are. -/
def unescape : List Char → List Char
  | [] => []
  | '\\' :: c :: rest =>
    match escaped? c with
    | some d => d :: unescape rest
    | none => '\\' :: c :: unescape rest
  | c :: rest => c :: unescape rest

/-- The text between two quotes, or all of it if they are not there. -/
def withoutQuotes (s : List Char) : List Char :=
  match s with
  | '"' :: rest => (['"'].isSuffixOf? rest).getD s
  | _ => s

def withoutBackquotes (s : List Char) : List Char :=
  Text.dropEndWhile (· == '\x60') (s.dropWhile (· == '\x60'))

/-- The value of a string token. -/
def ofToken? (t : Token) : Option (List Char) :=
  match t.kind with
  | .rawString => some (withoutBackquotes t.text.toList)
  | .interpretedString => some (unescape (withoutQuotes t.text.toList))
  | _ => none

end ProviderCoverage.Go.StringLiteral

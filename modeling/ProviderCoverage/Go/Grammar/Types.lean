import ProviderCoverage.Go.Grammar.Reader

/-! The grammar of Go as open rules: each takes readers for the constructs that it may nest. First
the types, with the signatures of functions. -/

namespace ProviderCoverage.Go.Grammar

open Reader

def openBrace : String := "\x7b"

def closeBrace : String := "\x7d"

/-- The constructs that nest in each other. In the header of a statement a name before a brace is
no composite literal: `headed` is `true` there. -/
inductive Construct where
  | expression (headed : Bool)
  | type
  | block
  | statement
  | element
deriving DecidableEq

/-- Readers for nested constructs. -/
abbrev Nested := Construct → Reader Node

def typeOfIdentifier (n : Node) : Node :=
  .branch .typeName [n]

/-- A type name, a qualified one, or either with type arguments. -/
def namedType (nested : Nested) : Reader Node := do
  let first ← identifier
  let base ← orElse
    (do
      let dot ← symbol "."
      let name ← identifier
      pure (.branch .qualifiedType [first, dot, name]))
    (pure (typeOfIdentifier first))
  orElse
    (do
      let arguments ← bracketed "[" "]" (nested .type)
      if arguments.length ≤ 2 then fail
      else pure (.branch .genericType [base, .branch .other arguments]))
    (pure base)

/-- `[]T`, `[...]T` or `[n]T`. -/
def bracketType (nested : Nested) : Reader Node := do
  let o ← symbol "["
  if ← sees "]" then
    let c ← symbol "]"
    let element ← nested .type
    pure (.branch .sliceType [o, c, element])
  else
    let size ← orElse (symbol "...") (nested (.expression false))
    let c ← symbol "]"
    let element ← nested .type
    pure (.branch .other [o, size, c, element])

def mapType (nested : Nested) : Reader Node := do
  let m ← symbol "map"
  let o ← symbol "["
  let key ← nested .type
  let c ← symbol "]"
  let value ← nested .type
  pure (.branch .other [m, o, key, c, value])

def channelType (nested : Nested) : Reader Node := do
  let arrow ← optional? (symbol "<-")
  let c ← symbol "chan"
  let after ← optional? (symbol "<-")
  let element ← nested .type
  pure (.branch .other (arrow.toList ++ [c] ++ after.toList ++ [element]))

/-- A parameter with names before its type. -/
def namedParameter (nested : Nested) : Reader Node := do
  let names ← separated comma identifier
  let dots ← optional? (symbol "...")
  let type ← nested .type
  pure (.branch .parameter (names ++ dots.toList ++ [type]))

/-- A parameter that is only a type. -/
def bareParameter (nested : Nested) : Reader Node := do
  let dots ← optional? (symbol "...")
  let type ← nested .type
  pure (.branch .parameter (dots.toList ++ [type]))

/-- Either all parameters of a list have names or none has. -/
def parameterList (nested : Nested) : Reader Node :=
  orElse
    (Node.branch .parameters <$> bracketed "(" ")" (namedParameter nested))
    (Node.branch .parameters <$> bracketed "(" ")" (bareParameter nested))

def result (nested : Nested) : Reader Node :=
  orElse (parameterList nested) (nested .type)

/-- Parameters and result of a function. -/
def signature (nested : Nested) : Reader (List Node) := do
  let ps ← parameterList nested
  let r ← orAbsent (result nested)
  pure [ps, r]

def functionType (nested : Nested) : Reader Node := do
  let f ← symbol "func"
  let s ← signature nested
  pure (.branch .other (f :: s))

/-- Statement ends, explicit or implied. -/
def terminator : Reader Node :=
  tokenWhere fun t => t.kind == .lineEnd || t.is ";"

/-- Items that statement ends follow, the last one perhaps not, between brackets. -/
def terminated (opening closing : String) (p : Reader Node) : Reader (List Node) := do
  let o ← symbol opening
  let inside ← many (orElse
    (do
      let n ← p
      let ends ← orElse (do let t ← terminator; pure [t]) (do
        if ← sees closing then pure [] else fail)
      pure (n :: ends))
    (do let t ← terminator; pure [t]))
  let c ← symbol closing
  pure (o :: inside ++ [c])

def stringLiteral : Reader Node :=
  tokenWhere fun t => t.kind == .rawString || t.kind == .interpretedString

def structField (nested : Nested) : Reader Node := do
  let body ← orElse
    (do
      let names ← separated comma identifier
      let type ← nested .type
      pure (names ++ [type]))
    (do
      let type ← nested .type
      pure [type])
  let tag ← optional? stringLiteral
  pure (.branch .other (body ++ tag.toList))

def structType (nested : Nested) : Reader Node := do
  let s ← symbol "struct"
  let body ← terminated openBrace closeBrace (structField nested)
  pure (.branch .other (s :: body))

/-- A union of types, each perhaps with a tilde. -/
def typeElement (nested : Nested) : Reader Node := do
  let terms ← separated (symbol "|") (do
    let tilde ← optional? (symbol "~")
    let type ← nested .type
    pure (match tilde with
      | some t => .branch .other [t, type]
      | none => type))
  match terms with
  | [only] => pure only
  | terms => pure (.branch .other terms)

def interfaceMember (nested : Nested) : Reader Node :=
  orElse
    (do
      let name ← identifier
      let s ← signature nested
      pure (.branch .other (name :: s)))
    (typeElement nested)

def interfaceType (nested : Nested) : Reader Node := do
  let i ← symbol "interface"
  let body ← terminated openBrace closeBrace (interfaceMember nested)
  pure (.branch .other (i :: body))

def pointerType (nested : Nested) : Reader Node := do
  let star ← symbol "*"
  let type ← nested .type
  pure (.branch .pointerType [star, type])

def parenthesizedType (nested : Nested) : Reader Node := do
  let o ← symbol "("
  let type ← nested .type
  let c ← symbolAfterLineEnds ")"
  pure (.branch .parenthesizedType [o, type, c])

def typeRule (nested : Nested) : Reader Node := do
  match ← peek? with
  | none => fail
  | some t =>
    if t.kind == .identifier then namedType nested
    else if t.is "*" then pointerType nested
    else if t.is "[" then bracketType nested
    else if t.is "map" then mapType nested
    else if t.is "chan" || t.is "<-" then channelType nested
    else if t.is "func" then functionType nested
    else if t.is "struct" then structType nested
    else if t.is "interface" then interfaceType nested
    else if t.is "(" then parenthesizedType nested
    else fail

end ProviderCoverage.Go.Grammar

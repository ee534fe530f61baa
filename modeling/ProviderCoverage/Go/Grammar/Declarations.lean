import ProviderCoverage.Go.Grammar.Types

/-! The grammar of declarations: imports, constants, variables, types and functions. -/

namespace ProviderCoverage.Go.Grammar

open Reader

/-- Specifications after a keyword: one, or any number between parentheses. -/
def grouped (keyword : String) (p : Reader Node) : Reader Node := do
  let k ← symbol keyword
  let specs ← orElse (terminated "(" ")" p) (do let n ← p; pure [n])
  pure (.branch .other (k :: specs))

/-- Names with a type, values, or both. -/
def valueSpec (nested : Nested) : Reader Node := do
  let names ← separated comma identifier
  let type ← optional? (nested .type)
  let values ← orElse
    (do
      let op ← symbol "="
      let ns ← separated comma (nested (.expression false))
      pure (op :: ns))
    (pure [])
  pure (.branch .other (names ++ type.toList ++ values))

def typeParameters (nested : Nested) : Reader Node := do
  let ps ← bracketed "[" "]" (do
    let names ← separated comma identifier
    let constraint ← typeElement nested
    pure (.branch .other (names ++ [constraint])))
  pure (.branch .other ps)

def typeSpec (nested : Nested) : Reader Node := do
  let name ← identifier
  let definition : Reader (List Node) := do
    let equals ← optional? (symbol "=")
    let type ← nested .type
    pure (equals.toList ++ [type])
  let body ← orElse definition (do
    let ps ← typeParameters nested
    let d ← definition
    pure (ps :: d))
  pure (.branch .other (name :: body))

def importSpec : Reader Node := do
  let localName ← orAbsent (orElse identifier (do
    let dot ← symbol "."
    pure (.branch .other [dot])))
  let path ← stringLiteral
  pure (.branch .importSpec [localName, path])

def declaration (nested : Nested) : Reader Node := do
  match ← peek? with
  | none => fail
  | some t =>
    if t.is "var" then grouped "var" (valueSpec nested)
    else if t.is "const" then grouped "const" (valueSpec nested)
    else if t.is "type" then grouped "type" (typeSpec nested)
    else fail

/-- A function or method; the body may be absent. -/
def functionDeclaration (nested : Nested) : Reader Node := do
  let f ← symbol "func"
  orElse
    (do
      let name ← identifier
      let types ← orAbsent (typeParameters nested)
      let s ← signature nested
      let body ← orAbsent (nested .block)
      pure (.branch .function (f :: name :: types :: s ++ [body])))
    (do
      let receiver ← parameterList nested
      let name ← identifier
      let s ← signature nested
      let body ← orAbsent (nested .block)
      pure (.branch .method (f :: receiver :: name :: s ++ [body])))

end ProviderCoverage.Go.Grammar

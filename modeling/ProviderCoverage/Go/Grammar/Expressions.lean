import ProviderCoverage.Go.Grammar.Types

/-! The grammar of expressions: operands, what follows them, and operators of five levels. -/

namespace ProviderCoverage.Go.Grammar

open Reader

/-- The type that an expression denotes when a literal body follows it. -/
def typeOfExpression? : Node → Option Node
  | .leaf t => if t.kind == .identifier then some (typeOfIdentifier (.leaf t)) else none
  | .branch .selector [.leaf package, dot, .leaf name] =>
    if package.kind == .identifier then
      some (.branch .qualifiedType [.leaf package, dot, .leaf name])
    else none
  | _ => none

def elementRule (nested : Nested) : Reader Node := do
  let item : Reader Node := do
    if ← sees openBrace then
      let body ← bracketed openBrace closeBrace (nested .element)
      pure (.branch .literalBody body)
    else nested (.expression false)
  let first ← item
  if ← sees ":" then
    let colon ← symbol ":"
    let value ← item
    pure (.branch .keyed [first, colon, value])
  else pure first

def literalBody (nested : Nested) : Reader Node := do
  let body ← bracketed openBrace closeBrace (nested .element)
  pure (.branch .literalBody body)

/-- A composite literal of the type, or the type by itself. -/
def compositeAfter (nested : Nested) (type : Node) : Reader Node :=
  orElse
    (do
      let body ← literalBody nested
      pure (.branch .composite [type, body]))
    (pure type)

def parenthesizedExpression (nested : Nested) : Reader Node := do
  let o ← symbol "("
  let inner ← orElse (nested (.expression false)) (nested .type)
  let c ← symbolAfterLineEnds ")"
  pure (.branch .parenthesized [o, inner, c])

/-- A function literal or a function type. -/
def functionOperand (nested : Nested) : Reader Node := do
  let f ← symbol "func"
  let s ← signature nested
  if ← sees openBrace then
    let body ← nested .block
    pure (.branch .functionLiteral (f :: s ++ [body]))
  else pure (.branch .other (f :: s))

def operand (nested : Nested) : Reader Node := do
  match ← peek? with
  | none => fail
  | some t =>
    match t.kind with
    | .identifier | .number | .rune | .rawString | .interpretedString => tokenWhere fun _ => true
    | .lineEnd => fail
    | .operator | .keyword =>
      if t.is "(" then parenthesizedExpression nested
      else if t.is "func" then functionOperand nested
      else if t.is "[" then (bracketType nested) >>= compositeAfter nested
      else if t.is "map" then (mapType nested) >>= compositeAfter nested
      else if t.is "struct" then (structType nested) >>= compositeAfter nested
      else if t.is "chan" then channelType nested
      else if t.is "interface" then interfaceType nested
      else fail

def argument (nested : Nested) : Reader Node := do
  let e ← nested (.expression false)
  match ← optional? (symbolAfterLineEnds "...") with
  | some dots => pure (.branch .spread [e, dots])
  | none => pure e

def argumentList (nested : Nested) : Reader Node :=
  Node.branch .arguments <$> bracketed "(" ")" (argument nested)

/-- The arguments of `new` and `make`, of which the first is a type. -/
def typeFirstArguments (nested : Nested) : Reader Node :=
  Node.branch .arguments <$> orElse
    (do
      let o ← symbol "("
      let type ← nested .type
      let more ← many do
        let s ← comma
        let a ← argument nested
        pure [s, a]
      let trailing ← optional? comma
      let c ← symbolAfterLineEnds ")"
      pure ([o, type] ++ more ++ trailing.toList ++ [c]))
    (bracketed "(" ")" (argument nested))

def isAllocation : Node → Bool
  | .leaf t => t.kind == .identifier && (t.text == "new" || t.text == "make")
  | .branch .. => false

/-- Whether a node is a type that can only be converted to, never called. -/
def isTypeOnly : Node → Bool
  | .branch .sliceType _ => true
  | .branch .parenthesized [_, inner, _] => isTypeOnly inner
  | .branch .unary [op, inner] => op.text == "*" && isTypeOnly inner
  | .branch .other (.leaf t :: _) =>
    t.is "[" || t.is "map" || t.is "chan" || t.is "<-" || t.is "interface" || t.is "struct"
      || t.is "func"
  | _ => false

def callAfter (nested : Nested) (function : Node) : Reader Node := do
  if isTypeOnly function then
    let arguments ← argumentList nested
    pure (.branch .conversion [function, arguments])
  else
    let arguments ←
      if isAllocation function then typeFirstArguments nested else argumentList nested
    pure (.branch .call [function, .absent, arguments])

/-- Type arguments after a function or type, with what they are for: one argument makes a
conversion, other arguments a call, a body a composite literal. -/
def typeArgumentsAfter (nested : Nested) (headed : Bool) (function : Node) : Reader Node := do
  let types ← bracketed "[" "]" (typeElement nested)
  let typeArguments := Node.branch .other types
  if types.length ≤ 2 then fail
  else if ← sees "(" then
    let arguments ← argumentList nested
    let single := match arguments.parts with
      | [only] => !only.hasShape .spread
      | _ => false
    match typeOfExpression? function with
    | some type =>
      if single then
        pure (.branch .conversion [.branch .genericType [type, typeArguments], arguments])
      else pure (.branch .call [function, typeArguments, arguments])
    | none => pure (.branch .call [function, typeArguments, arguments])
  else if headed then fail
  else if ← sees openBrace then
    match typeOfExpression? function with
    | some type =>
      let body ← literalBody nested
      pure (.branch .composite [.branch .genericType [type, typeArguments], body])
    | none => fail
  else fail

/-- An index or a slice: expressions and colons between brackets. -/
def indexAfter (nested : Nested) (n : Node) : Reader Node := do
  let o ← symbol "["
  let inside ← many (orElse
    (do let e ← nested (.expression false); pure [e])
    (do let s ← orElse (symbol ":") comma; pure [s]))
  let c ← symbolAfterLineEnds "]"
  pure (.branch .other (n :: o :: inside ++ [c]))

def selectorAfter (nested : Nested) (n : Node) : Reader Node := do
  let dot ← symbol "."
  if ← sees "(" then
    let o ← symbol "("
    let type ← orElse (symbol "type") (nested .type)
    let c ← symbolAfterLineEnds ")"
    pure (.branch .other [n, dot, o, type, c])
  else
    let field ← identifier
    pure (.branch .selector [n, dot, field])

/-- One step to the right of an operand: selector, index, call or literal body. -/
def suffixAfter (nested : Nested) (headed : Bool) (n : Node) : Reader Node := do
  match ← peek? with
  | none => fail
  | some t =>
    if t.is "." then selectorAfter nested n
    else if t.is "[" then
      orElse (typeArgumentsAfter nested headed n) (indexAfter nested n)
    else if t.is "(" then callAfter nested n
    else if t.is openBrace && !headed then
      match typeOfExpression? n with
      | some type =>
        let body ← literalBody nested
        pure (.branch .composite [type, body])
      | none => fail
    else fail

/-- All steps to the right, at most `fuel`. -/
def suffixesUpTo (nested : Nested) (headed : Bool) : Nat → Node → Reader Node
  | 0, n => pure n
  | fuel + 1, n => do
    match ← optional? (suffixAfter nested headed n) with
    | some n => suffixesUpTo nested headed fuel n
    | none => pure n

def primary (nested : Nested) (headed : Bool) : Reader Node := do
  let n ← operand nested
  let remaining ← get
  suffixesUpTo nested headed remaining.length n

/-- A primary expression with its unary operators. -/
def unaryExpression (nested : Nested) (headed : Bool) : Reader Node := do
  let operators ← many do
    let o ← tokenWhere fun t => t.kind == .operator && t.text ∈ unaryOperators
    pure [o]
  let n ← primary nested headed
  pure (operators.foldr (fun o n => .branch .unary [o, n]) n)

/-- Operands still waiting for their right side, innermost first. -/
abbrev Pending := List (Node × Node × Nat)

/-- Close the pending operators that bind at least as tightly as `level`. -/
def close (level : Nat) : Pending → Node → Pending × Node
  | [], n => ([], n)
  | (left, op, p) :: rest, n =>
    if level ≤ p then close level rest (.branch .binary [left, op, n])
    else ((left, op, p) :: rest, n)

/-- The tree of operands joined by binary operators of five levels, each to the left. -/
def joinOperands : Pending → Node → List (Node × Nat × Node) → Node
  | pending, n, [] => (close 0 pending n).2
  | pending, n, (op, level, next) :: more =>
    let (pending, left) := close level pending n
    joinOperands ((left, op, level) :: pending) next more

def binaryOperator? : Reader (Option (Node × Nat)) :=
  fun ts =>
    match ts with
    | t :: rest =>
      match if t.kind == .operator then precedence? t.text else none with
      | some level => some (some (.leaf t, level), rest)
      | none => some (none, ts)
    | [] => some (none, ts)

/-- Operators with the operand after each, at most `fuel`. -/
def operandsUpTo (nested : Nested) (headed : Bool) :
    Nat → Reader (List (Node × Nat × Node))
  | 0 => pure []
  | fuel + 1 => do
    match ← binaryOperator? with
    | none => pure []
    | some (op, level) =>
      let n ← unaryExpression nested headed
      let more ← operandsUpTo nested headed fuel
      pure ((op, level, n) :: more)

def expressionRule (nested : Nested) (headed : Bool) : Reader Node := do
  let first ← unaryExpression nested headed
  let remaining ← get
  let more ← operandsUpTo nested headed remaining.length
  pure (joinOperands [] first more)

end ProviderCoverage.Go.Grammar

import ProviderCoverage.Go.Grammar.Declarations
import ProviderCoverage.Go.Grammar.Expressions

/-! The grammar of statements. A definition, an assignment and a return keep their shape in the
tree; other statements only keep their parts. -/

namespace ProviderCoverage.Go.Grammar

open Reader

def expressionList (nested : Nested) (headed : Bool) : Reader Node := do
  let ns ← separated comma (nested (.expression headed))
  pure (.branch .expressions ns)

/-- Where a simple statement stands: by itself, in the header of a loop, of a switch, or in a case
of a select. -/
inductive Place where
  | plain
  | header
  | communication
deriving DecidableEq

def isTypeGuard (list : Node) : Bool :=
  list.parts.any fun n => n.children.any fun c =>
    match c with
    | .leaf t => t.is "type"
    | .branch .. => false

/-- What an assignment or definition counts as: in the case of a select it receives, and with a
type switch or a range it binds, so it is neither. -/
def bindingShape (s : Shape) (place : Place) (right : Node) : Shape :=
  if place = .communication || isTypeGuard right then .other else s

def rangeClause (nested : Nested) (before : List Node) : Reader Node := do
  let r ← symbol "range"
  let e ← nested (.expression true)
  pure (.branch .other (before ++ [r, e]))

def simpleStatement (nested : Nested) (place : Place) : Reader Node := do
  let headed := place == .header
  let left ← expressionList nested headed
  match ← peek? with
  | none => pure left
  | some t =>
    if t.is ":=" then
      let op ← symbol ":="
      if ← sees "range" then rangeClause nested [left, op]
      else
        let right ← expressionList nested headed
        pure (.branch (bindingShape .definition place right) [left, op, right])
    else if t.kind == .operator && t.text ∈ assignmentOperators then
      let op ← symbol t.text
      if ← sees "range" then rangeClause nested [left, op]
      else
        let right ← expressionList nested headed
        pure (.branch (bindingShape .assignment place right) [left, op, right])
    else if t.is "++" || t.is "--" then
      let op ← symbol t.text
      pure (.branch .other [left, op])
    else if t.is "<-" then
      let op ← symbol "<-"
      let right ← nested (.expression headed)
      pure (.branch .other [left, op, right])
    else pure left

def blockRule (nested : Nested) : Reader Node :=
  Node.branch .block <$> terminated openBrace closeBrace (nested .statement)

/-- The statements of a case, up to the next case or the end of the switch. -/
def caseBody (nested : Nested) : Reader (List Node) :=
  many (orElse
    (do
      if ← seesAny ["case", "default", closeBrace] then fail
      let n ← nested .statement
      let ends ← orElse (do let t ← terminator; pure [t]) (do
        if ← sees closeBrace then pure [] else fail)
      pure (n :: ends))
    (do let t ← terminator; pure [t]))

/-- A case with its statements; `p` reads what stands between `case` and the colon. -/
def caseClause (nested : Nested) (p : Reader Node) : Reader (List Node) := do
  let head ← orElse
    (do
      let k ← symbol "case"
      let n ← p
      pure [k, n])
    (do
      let k ← symbol "default"
      pure [k])
  let colon ← symbol ":"
  let body ← caseBody nested
  pure [.branch .other (head ++ [colon] ++ body)]

def cases (nested : Nested) (p : Reader Node) : Reader (List Node) := do
  let o ← symbol openBrace
  let inside ← many (caseClause nested p)
  let c ← symbol closeBrace
  pure (o :: inside ++ [c])

/-- Expressions or types after `case`. -/
def caseList (nested : Nested) : Reader Node := do
  let ns ← separated comma (orElse (nested (.expression false)) (nested .type))
  pure (.branch .other ns)

/-- A header before a block: parts that semicolons separate, all of them optional. -/
def header (nested : Nested) : Reader (List Node) :=
  many (orElse
    (do let t ← terminator; pure [t])
    (do
      if ← sees openBrace then fail
      let n ← orElse (rangeClause nested []) (simpleStatement nested .header)
      pure [n]))

def ifStatement (nested : Nested) : Reader Node := do
  let i ← symbol "if"
  let h ← header nested
  let body ← nested .block
  let otherwise ← orElse
    (do
      let e ← symbol "else"
      let n ← if ← sees "if" then nested .statement else nested .block
      pure [e, n])
    (pure [])
  pure (.branch .other (i :: h ++ [body] ++ otherwise))

def forStatement (nested : Nested) : Reader Node := do
  let f ← symbol "for"
  let h ← header nested
  let body ← nested .block
  pure (.branch .other (f :: h ++ [body]))

def switchStatement (nested : Nested) : Reader Node := do
  let s ← symbol "switch"
  let h ← header nested
  let body ← cases nested (caseList nested)
  pure (.branch .other (s :: h ++ body))

def selectStatement (nested : Nested) : Reader Node := do
  let s ← symbol "select"
  let body ← cases nested (simpleStatement nested .communication)
  pure (.branch .other (s :: body))

def returnStatement (nested : Nested) : Reader Node := do
  let r ← symbol "return"
  let values ← orElse (separated comma (nested (.expression false))) (pure [])
  pure (.branch .returned (r :: values))

/-- `go` and `defer` with their call. -/
def deferredCall (nested : Nested) (keyword : String) : Reader Node := do
  let k ← symbol keyword
  let e ← nested (.expression false)
  pure (.branch .other [k, e])

/-- `break`, `continue`, `goto` and `fallthrough`. -/
def jump (keyword : String) : Reader Node := do
  let k ← symbol keyword
  let label ← optional? identifier
  pure (.branch .other (k :: label.toList))

def labeled (nested : Nested) : Reader Node := do
  let label ← identifier
  let colon ← symbol ":"
  let n ← orAbsent (do
    skipLineEnds
    nested .statement)
  pure (.branch .other [label, colon, n])


def statementRule (nested : Nested) : Reader Node := do
  match ← peek? with
  | none => fail
  | some t =>
    if t.is openBrace then nested .block
    else if t.is "if" then ifStatement nested
    else if t.is "for" then forStatement nested
    else if t.is "switch" then switchStatement nested
    else if t.is "select" then selectStatement nested
    else if t.is "return" then returnStatement nested
    else if t.is "go" || t.is "defer" then deferredCall nested t.text
    else if t.is "break" || t.is "continue" || t.is "goto" || t.is "fallthrough" then jump t.text
    else if t.is "var" || t.is "const" || t.is "type" then declaration nested
    else orElse (labeled nested) (simpleStatement nested .plain)

end ProviderCoverage.Go.Grammar

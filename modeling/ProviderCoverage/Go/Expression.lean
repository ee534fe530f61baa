import ProviderCoverage.Go.StringLiteral

/-! What expressions, literals and statements consist of. -/

namespace ProviderCoverage.Go.Node

/-- The expression within parentheses. -/
def unparenthesized : Node → Node
  | branch .parenthesized [_, inner, _] => inner.unparenthesized
  | n => n

def stringValue? (n : Node) : Option String :=
  match n.unparenthesized with
  | leaf t => (StringLiteral.ofToken? t).map String.ofList
  | branch .. => none

def isTrue (n : Node) : Bool :=
  match n.unparenthesized with
  | leaf t => t.kind == .identifier && t.text == "true"
  | branch .. => false

/-- The name of a variable, function or constant. -/
def simpleName? : Node → Option String
  | leaf t =>
    if t.kind == .identifier && !(["true", "false", "nil", "iota"].contains t.text) then some t.text
    else none
  | branch .. => none

/-! ### Types -/

/-- `*pkg.Widget[T]` to `Widget`. -/
def baseTypeName? : Node → Option String
  | leaf t => if t.kind == .identifier then some t.text else none
  | branch .typeName [name] => some name.text
  | branch .pointerType [_, inner] => inner.baseTypeName?
  | branch .parenthesizedType [_, inner, _] => inner.baseTypeName?
  | branch .genericType (type :: _) => type.baseTypeName?
  | branch .qualifiedType [_, _, name] => some name.text
  | _ => none

/-- `*schema.Resource` to its package and name. -/
def qualifiedParts? : Node → Option (String × String)
  | branch .pointerType [_, inner] => inner.qualifiedParts?
  | branch .parenthesizedType [_, inner, _] => inner.qualifiedParts?
  | branch .qualifiedType [package, _, name] => some (package.text, name.text)
  | _ => none

/-! ### Composite literals -/

def compositeType? : Node → Option Node
  | branch .composite [type, _] => some type
  | _ => none

/-- The braces of a composite literal, of `&T{...}`, or of an elided `{...}`. -/
def literalBody? : Node → Option Node
  | branch .literalBody ns => some (branch .literalBody ns)
  | branch .composite [_, body] => some body
  | branch .parenthesized [_, inner, _] => inner.literalBody?
  | branch .unary [_, operand] => operand.literalBody?
  | _ => none

structure KeyedElement where
  key : Node
  value : Node

/-- A field name as written, or the value of a string key. -/
def KeyedElement.name (e : KeyedElement) : String :=
  e.key.stringValue?.getD e.key.text

def keyed? : Node → Option KeyedElement
  | branch .keyed [key, _, value] => some ⟨key, value⟩
  | _ => none

def keyedElements (body : Node) : List KeyedElement :=
  body.parts.filterMap keyed?

def positionalElements (body : Node) : List Node :=
  body.parts.filter (!·.hasShape .keyed)

/-- The value of the first element of this key. -/
def fieldValue? (body : Node) (field : String) : Option Node :=
  (body.keyedElements.find? (·.key.text == field)).map (·.value)

/-- A composite literal, perhaps in parentheses and behind one operator. -/
def composite? (n : Node) : Option Node :=
  let n := match n.unparenthesized with
    | branch .unary [_, operand] => operand
    | n => n
  if n.hasShape .composite then some n else none

/-! ### Calls -/

/-- A function as it is called: by its name, or by an operand and a field. -/
structure CallTarget where
  operand : Option String
  name : String
deriving DecidableEq

def selectorField? (n : Node) : Option (String × String) :=
  match n.unparenthesized with
  | branch .selector [operand, _, field] => some (operand.text, field.text)
  | _ => none

def callTarget? : Node → Option CallTarget
  | branch .call (function :: _) =>
    match function.unparenthesized with
    | branch .selector [operand, _, field] => some ⟨some operand.text, field.text⟩
    | n => n.simpleName?.map fun name => ⟨none, name⟩
  | _ => none

def callArguments : Node → List Node
  | branch .call [_, _, arguments] => arguments.parts
  | _ => []

/-- The calls of a tree, outer ones first. -/
def calls (n : Node) : List Node :=
  n.all .call

/-- The composite literals of a tree, outer ones first. -/
def composites (n : Node) : List Node :=
  n.all .composite

/-! ### Binary operators -/

structure BinaryParts where
  left : Node
  operator : String
  right : Node

def binary? : Node → Option BinaryParts
  | branch .binary [left, op, right] => some ⟨left, op.text, right⟩
  | _ => none

/-! ### Statements -/

mutual

/-- The expressions of the return statements, other than those of function literals. -/
def returnedExpressions : Node → List Node
  | leaf _ => []
  | branch .functionLiteral _ => []
  | branch .returned ns => ns.filter (!·.isPunctuation)
  | branch _ ns => listReturnedExpressions ns

def listReturnedExpressions : List Node → List Node
  | [] => []
  | n :: ns => n.returnedExpressions ++ listReturnedExpressions ns

end

/-- The pairs of an assignment or definition, as far as both sides go. -/
def assignedPairs : Node → List (Node × Node)
  | branch .assignment [left, _, right] => left.parts.zip right.parts
  | branch .definition [left, _, right] => left.parts.zip right.parts
  | _ => []

/-- The pairs of all assignments and definitions, in function literals too. -/
def assignments (n : Node) : List (Node × Node) :=
  n.preorder.flatMap assignedPairs

end ProviderCoverage.Go.Node

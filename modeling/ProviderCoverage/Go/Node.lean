import ProviderCoverage.Go.Token
import ProviderCoverage.Text.Cut

/-! Syntax trees of Go source text. The leaves are the tokens in order, punctuation included, so
that a tree holds its own text and place. -/

namespace ProviderCoverage.Go

/-- What a branch is. Where the comment lists parts, they stand in this order; punctuation and
keywords are no parts. -/
inductive Shape where
  /-- Declarations. -/
  | file
  /-- Source text that could not be read. -/
  | unread
  /-- A local name or none, path. -/
  | importSpec
  /-- Name, type parameters or none, parameters, result or none, body or none. -/
  | function
  /-- Receiver, name, parameters, result or none, body or none. -/
  | method
  | parameters
  /-- Names, type. -/
  | parameter
  | block
  /-- Function, type arguments or none, arguments. -/
  | call
  | arguments
  /-- Operand with `...` after it. -/
  | spread
  /-- Type, operand. -/
  | conversion
  /-- Operand, field. -/
  | selector
  /-- Type, body. -/
  | composite
  /-- Elements. -/
  | literalBody
  /-- Key, value. -/
  | keyed
  /-- Operand. -/
  | unary
  /-- Left, right. -/
  | binary
  /-- Operand. -/
  | parenthesized
  | functionLiteral
  /-- Expressions. -/
  | returned
  /-- Left list, right list. -/
  | assignment
  /-- Left list, right list. -/
  | definition
  | expressions
  /-- Name. -/
  | typeName
  /-- Package, name. -/
  | qualifiedType
  /-- Type, type arguments. -/
  | genericType
  /-- Type. -/
  | pointerType
  /-- Type. -/
  | parenthesizedType
  /-- Element type. -/
  | sliceType
  /-- Any other construct. -/
  | other
deriving DecidableEq

inductive Node where
  | leaf (token : Token)
  | branch (shape : Shape) (children : List Node)

namespace Node

mutual

/-- Equality of trees. As tokens carry their places, parts of one source text are equal only if they
are the same part. -/
def decEq : (m n : Node) → Decidable (m = n)
  | leaf s, leaf t => decidable_of_iff (s = t) (by rw [leaf.injEq])
  | branch s ms, branch t ns =>
    match listDecEq ms ns with
    | isTrue h => decidable_of_iff (s = t) (by simp [h])
    | isFalse h => isFalse (by simp [h])
  | leaf _, branch .. => isFalse nofun
  | branch .., leaf _ => isFalse nofun

def listDecEq : (ms ns : List Node) → Decidable (ms = ns)
  | [], [] => isTrue rfl
  | m :: ms, n :: ns =>
    match decEq m n with
    | isTrue h =>
      match listDecEq ms ns with
      | isTrue h' => isTrue (by rw [h, h'])
      | isFalse h' => isFalse (by simp [h'])
    | isFalse h => isFalse (by simp [h])
  | [], _ :: _ => isFalse nofun
  | _ :: _, [] => isFalse nofun

end

instance : DecidableEq Node :=
  decEq

mutual

/-- The tokens of a tree, followed by `rest`. -/
def tokensThen : Node → List Token → List Token
  | leaf t, rest => t :: rest
  | branch _ children, rest => listTokensThen children rest

def listTokensThen : List Node → List Token → List Token
  | [], rest => rest
  | n :: ns, rest => n.tokensThen (listTokensThen ns rest)

end

def tokens (n : Node) : List Token :=
  n.tokensThen []

/-- The text of a run of tokens, from the start of the first to the end of the last. -/
def textOfTokens : List Token → String
  | [] => ""
  | t :: ts => t.text ++ String.join (ts.map fun t => t.leading ++ t.text)

/-- The source text of a tree, comments inside included. -/
def text (n : Node) : String :=
  textOfTokens n.tokens

def position (n : Node) : Position :=
  (n.tokens.head?.map (·.position)).getD .start

/-- The text with every run of white space replaced by one space. -/
def normalizedText (n : Node) : String :=
  String.ofList (Text.normalizeSpace n.text.toList)

def shape? : Node → Option Shape
  | leaf _ => none
  | branch s _ => some s

def hasShape (n : Node) (s : Shape) : Bool :=
  n.shape? == some s

/-- Whether the node is an operator, punctuation or a keyword. -/
def isPunctuation : Node → Bool
  | leaf t => t.kind == .operator || t.kind == .keyword || t.kind == .lineEnd
  | branch .. => false

def children : Node → List Node
  | leaf _ => []
  | branch _ ns => ns

/-- The children other than operators, punctuation and keywords. -/
def parts (n : Node) : List Node :=
  n.children.filter (!·.isPunctuation)

mutual

/-- The nodes of a tree, each before its children, followed by `rest`. -/
def preorderThen : Node → List Node → List Node
  | leaf t, rest => leaf t :: rest
  | branch s children, rest => branch s children :: listPreorderThen children rest

def listPreorderThen : List Node → List Node → List Node
  | [], rest => rest
  | n :: ns, rest => n.preorderThen (listPreorderThen ns rest)

end

/-- The nodes of a tree, each before its children. -/
def preorder (n : Node) : List Node :=
  n.preorderThen []

/-- The nodes of this shape, outer ones first. -/
def all (s : Shape) (n : Node) : List Node :=
  n.preorder.filter (·.hasShape s)

/-- The name that stands for an absent part. -/
def absent : Node :=
  branch .other []

def isAbsent : Node → Bool
  | branch .other [] => true
  | _ => false

end Node
end ProviderCoverage.Go

import ProviderCoverage.Entity
import ProviderCoverage.Go.Expression
import ProviderCoverage.Go.Syntax

/-! Source files and what they declare at the top level. -/

namespace ProviderCoverage

/-- The last component of a path, after either kind of separator. -/
def fileName (path : String) : String :=
  String.ofList (((Text.splitWhere (fun c => c == '/' || c == '\\') path.toList).getLast?).getD [])

namespace Go

structure Import where
  localName : String
  path : String
deriving DecidableEq

/-- A function or method of the top level. -/
structure Function where
  node : Node
  name : String
  /-- The receiver's type without pointers and type arguments. -/
  receiver : Option String
  parameters : Node
  result : Option Node
  body : Option Node

structure SourceFile where
  path : String
  isTest : Bool
  tree : Node

def present? (n : Node) : Option Node :=
  if n.isAbsent then none else some n

/-- The type of a parameter declaration: its last part. -/
def parameterType? : Node → Option Node
  | .branch .parameter ns => ns.getLast?
  | _ => none

/-- The type of the first parameter, its pointers and type arguments removed. -/
def receiverName? (parameters : Node) : Option String :=
  (parameters.parts.findSome? parameterType?).bind (·.baseTypeName?)

def function? (n : Node) : Option Function :=
  match n with
  | .branch .function [_, name, _, parameters, result, body] =>
    some ⟨n, name.text, none, parameters, present? result, present? body⟩
  | .branch .method [_, receiver, name, parameters, result, body] =>
    some ⟨n, name.text, receiverName? receiver, parameters, present? result, present? body⟩
  | _ => none

/-- The text after the last slash. -/
def lastSegment (path : String) : String :=
  match Text.splitLast? '/' path.toList with
  | some (_, after) => String.ofList after
  | none => path

def import? : Node → Option Import
  | .branch .importSpec [localName, path] =>
    path.stringValue?.map fun p => ⟨((present? localName).map (·.text)).getD (lastSegment p), p⟩
  | _ => none

namespace SourceFile

def read (path source : String) (isTest : Bool) : SourceFile :=
  ⟨path, isTest, parse source⟩

def location (f : SourceFile) (n : Node) : Location :=
  ⟨f.path, n.position.line, n.position.column⟩

def imports (f : SourceFile) : List Import :=
  f.tree.preorder.filterMap import?

/-- The names under which a path is imported. -/
def aliasesFor (f : SourceFile) (path : String) : List String :=
  (f.imports.filter (·.path == path)).map (·.localName)

def functions (f : SourceFile) : List Function :=
  f.tree.children.filterMap function?

/-- The path behind a local name. -/
def importPath? (f : SourceFile) (localName : String) : Option String :=
  (f.imports.find? (·.localName == localName)).map (·.path)

/-- The method of this name on this receiver. -/
def method? (f : SourceFile) (receiver name : String) : Option Function :=
  f.functions.find? fun m => m.receiver == some receiver && m.name == name

end SourceFile

/-- The parameter types of a function, and of a result list. -/
def parameterTypes (parameters : Node) : List Node :=
  parameters.parts.filterMap parameterType?

/-- The type of the only result, or of the first one. -/
def Function.firstResult? (f : Function) : Option Node :=
  f.result.bind fun r =>
    if r.hasShape .parameters then (parameterTypes r).head? else some r

end Go
end ProviderCoverage

import ProviderCoverage.Discovery.Attributes
import ProviderCoverage.Discovery.State
import ProviderCoverage.Naming
import ProviderCoverage.Settings.Basic

/-! The ways in which a source file declares entities. Each strategy reads the file by itself; the
order of the list decides which of them finds an entity first. -/

namespace ProviderCoverage

structure Strategy where
  name : String
  discover : Go.SourceFile → Settings → List Discovery

namespace Strategy

open Go Node

def snake (s : List Char) : String :=
  String.ofList (Naming.snakeCase s)

/-! ### Names -/

/-- The kind of component that a type implements, from the end of its name. -/
def kindOfType? (type : String) : Option EntityKind :=
  if Text.ends type "DataSource" then some .dataSource
  else if Text.ends type "Action" then some .action
  else if Text.ends type "Resource" then some .resource
  else none

/-- `WidgetThingResource` to `widget_thing`. -/
def nameOfType (type : String) : String :=
  let stem := ["DataSource", "Resource", "Action"].findSome? (Text.beforeSuffix? type)
  snake (stem.getD type).toList

/-- What follows the opening word of a factory's name, with the kind that the word implies. -/
def factoryStem (function : String) (kind : EntityKind) : EntityKind × String :=
  match Text.afterPrefix? function "New" with
  | some rest => (kind, rest)
  | none =>
    match Text.afterPrefix? function "Resource" with
    | some rest => (kind, rest)
    | none =>
      match ["DataSource", "dataSource"].findSome? (Text.afterPrefix? function) with
      | some rest => (.dataSource, rest)
      | none => (kind, (Text.afterPrefix? function "resource").getD function)

/-- The entity that a factory such as `NewWidgetResource`, `ResourceWidget` or `dataSourceWidget`
is for. -/
def keyOfFactory? (function : String) (kind : EntityKind) : Option EntityKey :=
  let (kind, rest) := factoryStem function kind
  let rest := (Text.beforeSuffix? rest "Resource").getD rest
  let rest := (Text.beforeSuffix? rest "DataSource").getD rest
  if rest.isEmpty then none else some ⟨kind, snake rest.toList⟩

def withoutLeading (c : Char) (s : List Char) : List Char :=
  s.dropWhile (· == c)

/-- The name in a literal type name: `_widget` and `example_widget` both name `widget`. -/
def nameOfLiteral (literal providerPrefix : List Char) : List Char :=
  match literal with
  | '_' :: rest => rest
  | _ =>
    let marker := Text.dropEndWhile (· == '_') providerPrefix ++ ['_']
    match if providerPrefix.isEmpty then none else marker.isPrefixOf? literal with
    | some rest => rest
    | none => (Naming.withoutProviderPrefix? literal).getD literal

/-- The name that an expression assigned to `TypeName` gives: a literal, a sum that ends in one, or
a format that begins with `%s`. -/
def nameOfExpression? (providerPrefix : String) (n : Node) : Option (List Char) :=
  let n := n.unparenthesized
  match n.stringValue? with
  | some literal => some (nameOfLiteral literal.toList providerPrefix.toList)
  | none =>
    match n.binary? with
    | some parts =>
      if parts.operator = "+" then
        parts.right.stringValue?.map fun s => withoutLeading '_' s.toList
      else none
    | none =>
      if n.callTarget? = some ⟨some "fmt", "Sprintf"⟩ then
        let format := n.callArguments.head?.bind (·.stringValue?)
        (format.bind (Text.afterPrefix? · "%s")).map fun s => withoutLeading '_' s.toList
      else none

/-- The name that a `Metadata` body assigns. -/
def assignedName? (providerPrefix : String) (body : Node) : Option String :=
  body.assignments.findSome? fun (left, right) =>
    match left.selectorField? with
    | some (_, "TypeName") =>
      match nameOfExpression? providerPrefix right with
      | some (c :: rest) => some (String.ofList (c :: rest))
      | _ => none
    | _ => none

/-- The name that the `Metadata` method of a type assigns. -/
def metadataName? (f : SourceFile) (s : Settings) (type : String) : Option String :=
  ((f.method? type "Metadata").bind (·.body)).bind (assignedName? s.providerPrefix)

/-! ### Functions and types -/

/-- The methods of this name, with their receivers. -/
def methodsNamed (f : SourceFile) (name : String) : List (Function × String) :=
  f.functions.filterMap fun m => if m.name = name then m.receiver.map (m, ·) else none

def plainFunctions (f : SourceFile) : List Function :=
  f.functions.filter (·.receiver.isNone)

/-- The type of the composite literal that a function returns, when it is a plain name. -/
def returnedType? (body : Node) : Option String :=
  body.returnedExpressions.findSome? fun e =>
    match e.composite?.bind (·.compositeType?) with
    | some (.branch .typeName [name]) => some name.text
    | _ => none

def found (f : SourceFile) (n : Node) (key : EntityKey) : Entity :=
  ⟨key, f.location n, [], false⟩

/-! ### The strategies -/

/-- `Schema` methods of types called `…Resource` or `…DataSource`. Types that begin with `Base` are
parts of others, and actions are named by their factories. -/
def ofSchemaMethods (f : SourceFile) (_ : Settings) : List Discovery :=
  (methodsNamed f "Schema").filterMap fun (m, receiver) =>
    if Text.begins receiver "Base" then none
    else match kindOfType? receiver with
      | none | some .action => none
      | some kind =>
        let name := nameOfType receiver
        if name.isEmpty then none
        else
          let attributes := (m.body.map Schema.attributes).getD []
          some (.insert { found f m.node ⟨kind, name⟩ with attributes } (some receiver))

/-- The kind of a factory called `New…Resource` or `New…DataSource`. -/
def kindOfFactory? (function : String) : Option EntityKind :=
  (Text.afterPrefix? function "New").bind fun rest =>
    if rest ≠ "DataSource" && Text.ends rest "DataSource" then some .dataSource
    else if rest ≠ "Resource" && Text.ends rest "Resource" then some .resource
    else none

def slug? (literal : Node) : Option String :=
  match literal.literalBody?.bind (·.fieldValue? "MetadataEntitySlug") with
  | some value => value.stringValue?.filter (!·.isEmpty)
  | none => none

/-- Factories whose body has a literal with a `MetadataEntitySlug`. -/
def ofFactories (f : SourceFile) (_ : Settings) : List Discovery :=
  (plainFunctions f).filterMap fun g =>
    match kindOfFactory? g.name, g.body.bind (·.composites.findSome? slug?) with
    | some kind, some slug => some (.insert (found f g.node ⟨kind, slug⟩) none)
    | _, _ => none

/-- `Metadata` methods that assign `TypeName`, which names a resource or data source for
certain. -/
def ofMetadataMethods (f : SourceFile) (s : Settings) : List Discovery :=
  (methodsNamed f "Metadata").filterMap fun (m, receiver) =>
    match kindOfType? receiver with
    | none | some .action => none
    | some kind =>
      (m.body.bind (assignedName? s.providerPrefix)).map fun name =>
        .rename receiver (found f m.node ⟨kind, name⟩)

/-- Whether a function's result is an action of the framework. -/
def returnsAction (f : SourceFile) (g : Function) : Bool :=
  match g.firstResult?.bind (·.qualifiedParts?) with
  | some (package, "Action") =>
    match f.importPath? package with
    | some path => Text.ends path "/action"
    | none => package == "action"
  | _ => false

/-- The text without any number of copies of `word` at its end, at most `fuel`. -/
def withoutFinal (word : List Char) : Nat → List Char → List Char
  | 0, s => s
  | fuel + 1, s =>
    match word.isSuffixOf? s with
    | some rest => withoutFinal word fuel rest
    | none => s

/-- Factories called `New…Action`. The `Metadata` method of the type they return names the action,
or else the factory itself does. -/
def ofActionFactories (f : SourceFile) (s : Settings) : List Discovery :=
  (plainFunctions f).filterMap fun g =>
    match (Text.afterPrefix? g.name "New").filter (Text.ends · "Action") with
    | none => none
    | some stem =>
      if !returnsAction f g then none
      else
        let type := (g.body.bind returnedType?).getD stem
        let stemChars := stem.toList
        let name := (metadataName? f s type).getD
          (snake (withoutFinal "Action".toList stemChars.length stemChars))
        if name.isEmpty then none
        else some (.insert (found f g.node ⟨.action, name⟩) (some type))

/-- What the result type of a factory stands for. -/
inductive Capability where
  | framework (kind : EntityKind)
  /-- The older type, which serves for resources and data sources alike. -/
  | legacy
deriving DecidableEq

def capability? (f : SourceFile) (result : Node) : Option Capability :=
  match result.qualifiedParts? with
  | none => none
  | some (package, name) =>
    match f.importPath? package with
    | none => none
    | some path =>
      if name = "Resource" && Text.ends path "helper/schema" then some .legacy
      else if name = "Resource" && Text.ends path "/resource" then some (.framework .resource)
      else if name = "DataSource" && Text.ends path "/datasource" then
        some (.framework .dataSource)
      else none

def Capability.kind (f : SourceFile) : Capability → EntityKind
  | framework kind => kind
  | legacy => if Text.begins (fileName f.path) "data_source_" then .dataSource else .resource

/-- Functions whose result is a resource or data source. -/
def ofReturnTypes (f : SourceFile) (s : Settings) : List Discovery :=
  (plainFunctions f).filterMap fun g =>
    match g.firstResult?.bind (capability? f) with
    | none => none
    | some capability =>
      let kind := capability.kind f
      let returned := g.body.bind returnedType?
      let key : Option EntityKey := match returned.bind (metadataName? f s) with
        | some name => some ⟨kind, name⟩
        | none => keyOfFactory? g.name kind
      let literal := g.body.bind (·.returnedExpressions.findSome? (·.literalBody?))
      key.map fun key =>
        let e := found f g.node key
        let e := match capability, literal with
          | .legacy, some body =>
            { e with
              attributes := Schema.legacyAttributes body
              importable := (body.fieldValue? "Importer").isSome }
          | _, _ => e
        .insert e returned

/-- The kind that a registration call is for; list resources are data sources. -/
def kindOfRegistration? (target : CallTarget) : Option EntityKind :=
  match target.operand, target.name with
  | some _, "AddResourceFactory" => some .resource
  | some _, "AddDataSourceFactory" | some _, "AddListResourceFactory" => some .dataSource
  | _, _ => none

/-- Calls such as `registry.AddResourceFactory("name", …)`. -/
def ofRegistryCalls (f : SourceFile) (_ : Settings) : List Discovery :=
  f.tree.calls.filterMap fun call =>
    match call.callTarget?.bind kindOfRegistration?,
        (call.callArguments.head?.bind (·.stringValue?)).filter (!·.isEmpty) with
    | some kind, some name => some (.insert (found f call ⟨kind, name⟩) none)
    | _, _ => none

/-- All strategies, in the order in which they run. -/
def all : List Strategy :=
  [⟨"schema-method", ofSchemaMethods⟩,
   ⟨"factory-function", ofFactories⟩,
   ⟨"metadata-method", ofMetadataMethods⟩,
   ⟨"action-factory", ofActionFactories⟩,
   ⟨"return-type", ofReturnTypes⟩,
   ⟨"registry-call", ofRegistryCalls⟩]

end Strategy
end ProviderCoverage

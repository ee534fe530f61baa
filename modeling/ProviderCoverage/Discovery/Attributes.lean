import ProviderCoverage.Go.SourceFile

/-! Attributes of schemas, of which there are two forms: a `Schema` literal whose `Attributes` map
names to attribute literals, and a `Schema` field that maps names to descriptions with a `Type`. -/

namespace ProviderCoverage.Schema

open Go Node

/-- The attributes of a map from names, each read by `describe`. Keys other than strings are
passed over. -/
def attributesOf (describe : Node → Attribute → Attribute) (map : Node) : List Attribute :=
  map.keyedElements.filterMap fun e =>
    e.key.stringValue?.map fun name => describe e.value (.named name)

/-- A validator's constructor: the function it calls, the field it selects, or its text. -/
def validatorName (n : Node) : String :=
  let n := n.unparenthesized
  match n.callTarget?, n.selectorField? with
  | some target, _ => target.name
  | none, some (_, field) => field
  | none, none => n.text

def validatorNames (list : Node) : List String :=
  match list.literalBody? with
  | some body => body.parts.map validatorName
  | none => []

def describeField (a : Attribute) (e : KeyedElement) : Attribute :=
  match e.key.text with
  | "Required" => { a with required := e.value.isTrue }
  | "Optional" => { a with optional := e.value.isTrue }
  | "Computed" => { a with computed := e.value.isTrue }
  | "Validators" =>
    let names := validatorNames e.value
    { a with validated := a.validated || !names.isEmpty, validators := a.validators ++ names }
  | "PlanModifiers" =>
    if Text.includes e.value.text "RequiresReplace" then { a with updatable := false } else a
  | _ => a

/-- An attribute from its literal, such as `schema.StringAttribute{...}`. -/
def describe (value : Node) (a : Attribute) : Attribute :=
  let a := { a with typeName := value.compositeType?.bind (·.baseTypeName?) }
  match value.literalBody? with
  | some body => body.keyedElements.foldl describeField a
  | none => a

/-- The map of attributes of a literal of type `Schema`. -/
def attributeMap? (n : Node) : Option Node :=
  match n with
  | .branch .composite [type, body] =>
    if type.baseTypeName? = some "Schema" then
      (body.fieldValue? "Attributes").bind (·.literalBody?)
    else none
  | _ => none

/-- The attributes of the first schema literal in a tree. -/
def attributes (n : Node) : List Attribute :=
  match n.preorder.findSome? attributeMap? with
  | some map => attributesOf describe map
  | none => []

def describeLegacyField (a : Attribute) (e : KeyedElement) : Attribute :=
  match e.key.text with
  | "Type" => { a with typeName := some ((e.value.selectorField?.map (·.2)).getD e.value.text) }
  | "Required" => { a with required := e.value.isTrue }
  | "Optional" => { a with optional := e.value.isTrue }
  | "Computed" => { a with computed := e.value.isTrue }
  | "ForceNew" => if e.value.isTrue then { a with updatable := false } else a
  | "ValidateFunc" | "ValidateDiagFunc" =>
    { a with validated := true, validators := a.validators ++ [validatorName e.value] }
  | _ => a

def describeLegacy (value : Node) (a : Attribute) : Attribute :=
  match value.literalBody? with
  | some body => body.keyedElements.foldl describeLegacyField a
  | none => a

/-- The attributes in the `Schema` field of a resource literal. -/
def legacyAttributes (body : Node) : List Attribute :=
  match (body.fieldValue? "Schema").bind (·.literalBody?) with
  | some map => attributesOf describeLegacy map
  | none => []

end ProviderCoverage.Schema

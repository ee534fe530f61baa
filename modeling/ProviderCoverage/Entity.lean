/-! What a provider declares: resources, data sources and actions, with the attributes of their
schemas. -/

namespace ProviderCoverage

inductive EntityKind where
  | resource
  | dataSource
  | action
deriving DecidableEq

namespace EntityKind

/-- The order in which kinds are tried when only a name is known. -/
def all : List EntityKind :=
  [resource, dataSource, action]

def rank : EntityKind → Nat
  | resource => 0
  | dataSource => 1
  | action => 2

def text : EntityKind → String
  | resource => "resource"
  | dataSource => "data source"
  | action => "action"

/-- The keyword that opens a block of this kind in configuration text. -/
def keyword : EntityKind → String
  | resource => "resource"
  | dataSource => "data"
  | action => "action"

def ofKeyword? (s : String) : Option EntityKind :=
  all.find? (·.keyword == s)

@[simp] theorem mem_all (k : EntityKind) : k ∈ all := by
  cases k <;> simp [all]

@[simp] theorem ofKeyword?_keyword (k : EntityKind) : ofKeyword? k.keyword = some k := by
  cases k <;> decide

end EntityKind

/-- A name identifies an entity only within its kind. -/
structure EntityKey where
  kind : EntityKind
  name : String
deriving DecidableEq

namespace EntityKey

def text (k : EntityKey) : String :=
  k.kind.text ++ ":" ++ k.name

/-- Keys are ordered by kind, then by name. -/
def before (a b : EntityKey) : Bool :=
  a.kind.rank < b.kind.rank || (a.kind == b.kind && a.name < b.name)

end EntityKey

/-- A place in a file; lines and columns count from one, columns in bytes. -/
structure Location where
  file : String
  line : Nat
  column : Nat
deriving DecidableEq

def Location.unknown : Location :=
  ⟨"", 0, 0⟩

def Location.text (l : Location) : String :=
  l.file ++ ":" ++ toString l.line ++ ":" ++ toString l.column

structure Attribute where
  name : String
  /-- The constructor or schema type, such as `StringAttribute` or `TypeString`. -/
  typeName : Option String
  required : Bool
  optional : Bool
  computed : Bool
  /-- Whether a change keeps the object instead of replacing it. -/
  updatable : Bool
  validated : Bool
  validators : List String
deriving DecidableEq

namespace Attribute

def named (name : String) : Attribute :=
  ⟨name, none, false, false, false, true, false, []⟩

/-- It can be changed in place, so a test should do that. -/
def needsUpdateTest (a : Attribute) : Bool :=
  a.optional && a.updatable

/-- Some values are refused, so a test should try one. -/
def needsValidationTest (a : Attribute) : Bool :=
  a.validated || a.required

end Attribute

structure Entity where
  key : EntityKey
  location : Location
  attributes : List Attribute
  importable : Bool
deriving DecidableEq

end ProviderCoverage

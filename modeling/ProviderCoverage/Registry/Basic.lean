import ProviderCoverage.AcceptanceTest
import ProviderCoverage.Text.NameSet

/-! The registry of one analysis: entities in the order of their keys, tests in the order of
registration, and the tests linked to each entity.

Nothing is ever removed or replaced, apart from the link that an unlinked test receives once. -/

namespace ProviderCoverage

/-- A test's position in the order of registration. -/
abbrev TestId := Nat

structure Registry where
  entities : List Entity
  tests : List AcceptanceTest
  /-- The tests linked to each key, in the order of linking. -/
  associations : List (EntityKey × List TestId)
  sweeperFiles : List String

inductive RegistryError where
  | unknownTest (id : TestId)
  | alreadyLinked (name : String) (existing : EntityKey)
  | unknownEntity (key : EntityKey)
deriving DecidableEq

def RegistryError.message : RegistryError → String
  | unknownTest id => "test function #" ++ toString id ++ " is not registered"
  | alreadyLinked name existing =>
    "test function " ++ name ++ " is already linked to " ++ existing.text
  | unknownEntity key => "no entity registered under " ++ key.text

/-- Insertion in key order; no entity of that key may be present. -/
def Entity.insertSorted (e : Entity) : List Entity → List Entity
  | [] => [e]
  | x :: xs => if e.key.before x.key then e :: x :: xs else x :: insertSorted e xs

@[simp] theorem Entity.mem_insertSorted {e x : Entity} {es : List Entity} :
    x ∈ e.insertSorted es ↔ x = e ∨ x ∈ es := by
  induction es with
  | nil => simp [insertSorted]
  | cons y ys ih =>
    rw [insertSorted]
    split
    · simp
    · simp only [List.mem_cons, ih]
      exact or_left_comm

/-- Append a test to those of a key. -/
def associate (key : EntityKey) (id : TestId) :
    List (EntityKey × List TestId) → List (EntityKey × List TestId)
  | [] => [(key, [id])]
  | (k, ids) :: rest =>
    if k = key then (k, ids ++ [id]) :: rest else (k, ids) :: associate key id rest

/-- A key gains the test, all others keep theirs. -/
theorem lookup_associate (key k : EntityKey) (id : TestId)
    (associations : List (EntityKey × List TestId)) :
    ((associate key id associations).lookup k).getD [] =
      (associations.lookup k).getD [] ++ if k = key then [id] else [] := by
  induction associations with
  | nil =>
    by_cases h : k = key
    · simp [associate, h]
    · simp [associate, List.lookup_cons, h, beq_false_of_ne h]
  | cons a rest ih =>
    obtain ⟨a, ids⟩ := a
    rw [associate]
    by_cases ha : a = key
    · subst ha
      by_cases hk : k = a
      · simp [hk]
      · simp [List.lookup_cons, hk, beq_false_of_ne hk]
    · by_cases hk : k = a
      · subst hk
        simp [ha]
      · simp [List.lookup_cons, ha, beq_false_of_ne hk, ih]

def clampConfidence (q : Rat) : Rat :=
  if q < 0 then 0 else if 1 < q then 1 else q

namespace Registry

def empty : Registry :=
  ⟨[], [], [], []⟩

def entity? (r : Registry) (key : EntityKey) : Option Entity :=
  r.entities.find? (·.key = key)

def contains (r : Registry) (key : EntityKey) : Bool :=
  (r.entity? key).isSome

def test? (r : Registry) (id : TestId) : Option AcceptanceTest :=
  r.tests[id]?

/-- Add an entity. The first of a key is kept, and `false` answers for a later one. -/
def registerEntity (r : Registry) (e : Entity) : Registry × Bool :=
  if r.contains e.key then (r, false)
  else ({ r with entities := e.insertSorted r.entities }, true)

def registerTest (r : Registry) (t : AcceptanceTest) : Registry × TestId :=
  ({ r with tests := r.tests ++ [t] }, r.tests.length)

/-- Link a registered test that is not linked yet to a registered entity. -/
def link (r : Registry) (id : TestId) (key : EntityKey) (matchType : MatchType)
    (confidence : Rat) : Registry × Except RegistryError Unit :=
  if !r.contains key then (r, .error (.unknownEntity key))
  else match r.test? id with
    | none => (r, .error (.unknownTest id))
    | some t =>
      match t.linkedKey? with
      | some existing => (r, .error (.alreadyLinked t.name existing))
      | none =>
        let linked := t.linkedBy ⟨key, matchType, clampConfidence confidence⟩
        let r := { r with tests := r.tests.set id linked }
        ({ r with associations := associate key id r.associations }, .ok ())

/-- The first key of this name, in the order of the kinds. -/
def resolve? (r : Registry) (name : String) : Option EntityKey :=
  (EntityKind.all.map fun kind => (⟨kind, name⟩ : EntityKey)).find? r.contains

/-- Link a test to the entity that a bare name resolves to. -/
def linkByName (r : Registry) (id : TestId) (name : String) (matchType : MatchType)
    (confidence : Rat) : Registry × Except RegistryError EntityKey :=
  match r.resolve? name with
  | none => (r, .error (.unknownEntity ⟨.resource, name⟩))
  | some key =>
    let (r, outcome) := r.link id key matchType confidence
    (r, outcome.map fun _ => key)

/-- Note that a file registers test sweepers. -/
def registerSweeperFile (r : Registry) (file : String) : Registry :=
  { r with sweeperFiles := NameSet.insert file r.sweeperFiles }

def keys (r : Registry) : List EntityKey :=
  r.entities.map (·.key)

/-- The first entity of this name, in the order of the kinds. -/
def entityByName? (r : Registry) (name : String) : Option Entity :=
  (r.resolve? name).bind r.entity?

/-- All entities of this name. -/
def entitiesNamed (r : Registry) (name : String) : List Entity :=
  EntityKind.all.filterMap fun kind => r.entity? ⟨kind, name⟩

def testIds (r : Registry) : List TestId :=
  List.range r.tests.length

def linkedIds (r : Registry) (key : EntityKey) : List TestId :=
  (r.associations.lookup key).getD []

/-- The tests linked to this very entity, in the order of linking. -/
def testsFor (r : Registry) (key : EntityKey) : List AcceptanceTest :=
  (r.linkedIds key).filterMap r.test?

/-- The tests linked to entities of this name, in the order of the kinds. -/
def testsForName (r : Registry) (name : String) : List AcceptanceTest :=
  EntityKind.all.flatMap fun kind => r.testsFor ⟨kind, name⟩

/-- The tests that should belong to an entity and have been matched with none. -/
def unmatchedTests (r : Registry) : List AcceptanceTest :=
  r.tests.filter fun t => !t.isMatched && t.category.expectsEntity

def entitiesInFile (r : Registry) (file : String) : List Entity :=
  r.entities.filter (·.location.file == file)

def testsInFile (r : Registry) (file : String) : List AcceptanceTest :=
  r.tests.filter (·.location.file == file)

/-- The entity names, each once, in order. -/
def names (r : Registry) : List String :=
  NameSet.ofList (r.keys.map (·.name))

structure Stats where
  resources : Nat
  dataSources : Nat
  actions : Nat
  tests : Nat
  linkedTests : Nat
deriving DecidableEq

def countKind (r : Registry) (kind : EntityKind) : Nat :=
  r.keys.countP (·.kind == kind)

def stats (r : Registry) : Stats where
  resources := r.countKind .resource
  dataSources := r.countKind .dataSource
  actions := r.countKind .action
  tests := r.tests.length
  linkedTests := r.tests.countP (·.linkedKey?.isSome)

end Registry
end ProviderCoverage

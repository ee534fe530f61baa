import ProviderCoverage.Entity

/-! Acceptance tests: their steps, the configuration blocks found in them, and the entity that a
test is linked to. -/

namespace ProviderCoverage

/-- How a test was matched with its entity, in increasing precedence. -/
inductive MatchType where
  | unmatched
  | fuzzy
  | fileProximity
  | functionName
  | inferredFromConfig
deriving DecidableEq

namespace MatchType

def rank : MatchType → Nat
  | unmatched => 0
  | fuzzy => 1
  | fileProximity => 2
  | functionName => 3
  | inferredFromConfig => 4

def text : MatchType → String
  | unmatched => "none"
  | fuzzy => "fuzzy"
  | fileProximity => "file_proximity"
  | functionName => "function_name"
  | inferredFromConfig => "inferred_from_config"

end MatchType

inductive TestCategory where
  | entity
  | providerConfig
  | function
  | integration
deriving DecidableEq

namespace TestCategory

def text : TestCategory → String
  | entity => "entity"
  | providerConfig => "provider-config"
  | function => "function"
  | integration => "integration"

/-- Whether a test of this category should belong to some entity. -/
def expectsEntity : TestCategory → Bool
  | entity | integration => true
  | providerConfig | function => false

end TestCategory

/-- A typed block of configuration text. The type name is as written, with any provider prefix. -/
structure Block where
  kind : EntityKind
  typeName : String
deriving DecidableEq

structure TestStep where
  /-- Position within the test case, from zero. -/
  index : Nat
  hasConfig : Bool
  /-- Empty without a configuration. -/
  fingerprint : String
  /-- The fingerprint of the step before, empty for the first step. -/
  previousFingerprint : String
  hasCheck : Bool
  hasStateCheck : Bool
  hasPlanCheck : Bool
  importState : Bool
  importStateVerify : Bool
  expectError : Bool
  expectNonEmptyPlan : Bool
  refreshState : Bool
  /-- The check functions that `Check` calls. -/
  checkFunctions : List String
  blocks : List Block
deriving DecidableEq

namespace TestStep

/-- A step after the first that applies a configuration, other than an import. -/
def isUpdate (s : TestStep) : Bool :=
  0 < s.index && s.hasConfig && !s.importState

/-- An update whose configuration differs from that of the step before. -/
def changesConfig (s : TestStep) : Bool :=
  s.isUpdate && s.fingerprint != s.previousFingerprint

end TestStep

/-- The entity that a test is matched with, how that was found, and how sure it is, from zero to
one. -/
structure Link where
  target : EntityKey
  matchType : MatchType
  confidence : Rat
deriving DecidableEq

structure AcceptanceTest where
  name : String
  location : Location
  steps : List TestStep
  category : TestCategory
  hasCheckDestroy : Bool
  hasPreCheck : Bool
  hasImportStep : Bool
  hasErrorCase : Bool
  /-- The blocks of all steps, each once, in the order of the source. -/
  blocks : List Block
  /-- The entry point of the test harness that the test calls. -/
  helper : String
  matchType : MatchType
  confidence : Rat
  /-- The entity that the test is linked to. -/
  linkedKey? : Option EntityKey
deriving DecidableEq

namespace AcceptanceTest

/-- The test with a link recorded. -/
def linkedBy (t : AcceptanceTest) (l : Link) : AcceptanceTest :=
  { t with matchType := l.matchType, confidence := l.confidence, linkedKey? := some l.target }

/-- A test without a link and without anything recorded of one. -/
structure IsNew (t : AcceptanceTest) : Prop where
  linkedKey? : t.linkedKey? = none
  matchType : t.matchType = .unmatched
  confidence : t.confidence = 0

def isMatched (t : AcceptanceTest) : Bool :=
  t.matchType != .unmatched

def blockNames (t : AcceptanceTest) : List String :=
  t.blocks.map (·.typeName)

end AcceptanceTest
end ProviderCoverage

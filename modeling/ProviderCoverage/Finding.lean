import ProviderCoverage.AcceptanceTest
import ProviderCoverage.Naming
import ProviderCoverage.Number.Binary64

/-! Findings: the gaps that analyzers report, how serious they are, and where a missing test is
expected. -/

namespace ProviderCoverage

inductive Analyzer where
  | basic
  | update
  | importing
  | error
  | stateCheck
  | checkDestroy
  | sweeper
deriving DecidableEq

def Analyzer.text : Analyzer → String
  | basic => "basic"
  | update => "update"
  | importing => "import"
  | error => "error"
  | stateCheck => "state-check"
  | checkDestroy => "check-destroy"
  | sweeper => "sweeper"

inductive Severity where
  | info
  | warning
  | error
deriving DecidableEq

namespace Severity

def text : Severity → String
  | info => "info"
  | warning => "warning"
  | error => "error"

/-- The surer the link of a test to its entity, the more serious the finding. The limits are 0.9
and 0.7, as binary numbers. -/
def ofConfidence (confidence : Rat) : Severity :=
  if Binary64.nearest (mkRat 9 10) ≤ confidence then error
  else if Binary64.nearest (mkRat 7 10) ≤ confidence then warning
  else info

end Severity

structure Finding where
  analyzer : Analyzer
  severity : Severity
  entity : Option EntityKey
  location : Location
  message : String
  suggestions : List String
deriving DecidableEq

namespace Entity

/-- The test file beside the file of an entity: `widget_test.go` for `widget.go`. -/
def expectedTestFile (e : Entity) : String :=
  match Text.beforeSuffix? e.location.file ".go" with
  | some stem => if stem.isEmpty then e.key.name ++ "_test.go" else stem ++ "_test.go"
  | none => e.key.name ++ "_test.go"

def expectedTestFunction (e : Entity) : String :=
  let title := String.ofList (Naming.titleCase e.key.name.toList)
  match e.key.kind with
  | .resource => "TestAcc" ++ title ++ "_basic"
  | .dataSource => "TestAccDataSource" ++ title ++ "_basic"
  | .action => "TestAcc" ++ title ++ "Action_basic"

end Entity
end ProviderCoverage

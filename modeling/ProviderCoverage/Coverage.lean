import ProviderCoverage.Registry.Basic

/-! What the tests of each entity cover. Only the steps of one test are ever compared with each
other, and that has been done when the test was read. -/

namespace ProviderCoverage

structure Coverage where
  hasBasicTest : Bool
  hasUpdateTest : Bool
  hasImportTest : Bool
  hasErrorTest : Bool
  hasStateCheck : Bool
  hasPlanCheck : Bool
  hasCheckDestroy : Bool
  testCount : Nat
  stepCount : Nat
  updateStepCount : Nat
  importStepCount : Nat
deriving DecidableEq

namespace Coverage

def ofTests (tests : List AcceptanceTest) : Coverage :=
  let steps := tests.flatMap (·.steps)
  { hasBasicTest := !tests.isEmpty
    hasUpdateTest := steps.any (·.isUpdate)
    hasImportTest := tests.any (·.hasImportStep)
    hasErrorTest := tests.any (·.hasErrorCase)
    hasStateCheck := steps.any (·.hasStateCheck)
    hasPlanCheck := steps.any (·.hasPlanCheck)
    hasCheckDestroy := tests.any (·.hasCheckDestroy)
    testCount := tests.length
    stepCount := steps.length
    updateStepCount := steps.countP (·.isUpdate)
    importStepCount := steps.countP (·.importState) }

/-- Tested, while nothing asserts on state or plan. -/
def missingStateChecks (c : Coverage) : Bool :=
  c.hasBasicTest && !c.hasStateCheck && !c.hasPlanCheck

end Coverage

structure CoverageEntry where
  entity : Entity
  coverage : Coverage
deriving DecidableEq

/-- Tested, while no test checks that the object is gone afterwards. Data sources have nothing to
destroy. -/
def CoverageEntry.missingCheckDestroy (e : CoverageEntry) : Bool :=
  e.entity.key.kind != .dataSource && e.coverage.hasBasicTest && !e.coverage.hasCheckDestroy

/-- The coverage of every entity, in key order. -/
structure CoverageReport where
  entries : List CoverageEntry
deriving DecidableEq

namespace CoverageReport

def ofRegistry (r : Registry) : CoverageReport :=
  ⟨r.entities.map fun e => ⟨e, Coverage.ofTests (r.testsFor e.key)⟩⟩

def get? (report : CoverageReport) (key : EntityKey) : Option Coverage :=
  (report.entries.find? (·.entity.key = key)).map (·.coverage)

def untested (report : CoverageReport) : List CoverageEntry :=
  report.entries.filter (!·.coverage.hasBasicTest)

def missingStateChecks (report : CoverageReport) : List CoverageEntry :=
  report.entries.filter (·.coverage.missingStateChecks)

def missingCheckDestroy (report : CoverageReport) : List CoverageEntry :=
  report.entries.filter (·.missingCheckDestroy)

end CoverageReport
end ProviderCoverage

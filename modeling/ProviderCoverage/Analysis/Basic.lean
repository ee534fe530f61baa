import ProviderCoverage.Findings

/-! What is reported about a registry. -/

namespace ProviderCoverage

/-- What a report shows, detached from the registry. -/
structure Analysis where
  root : String
  stats : Registry.Stats
  coverage : CoverageReport
  /-- The tests of each key, in key order. -/
  tests : List (EntityKey × List AcceptanceTest)
  unmatched : List AcceptanceTest
  findings : List Finding
  warnings : List String

namespace Analysis

def ofRegistry (root : String) (r : Registry) (s : Settings) (patterns : PatternReader) :
    Except SettingsError Analysis :=
  (Findings.evaluate r s patterns).map fun findings =>
    { root
      stats := r.stats
      coverage := .ofRegistry r
      tests := r.keys.map fun key => (key, r.testsFor key)
      unmatched := r.unmatchedTests
      findings
      warnings := [] }

def testsFor (a : Analysis) (key : EntityKey) : List AcceptanceTest :=
  (a.tests.lookup key).getD []

def entityCount (a : Analysis) : Nat :=
  a.coverage.entries.length

def testedCount (a : Analysis) : Nat :=
  a.entityCount - a.coverage.untested.length

/-- The share of entities with a test, from 0 to 100. -/
def testedPercent (round : Rounding) (a : Analysis) : Rat :=
  if a.entityCount = 0 then 100
  else round (round (mkRat a.testedCount a.entityCount) * 100)

def hasErrors (a : Analysis) : Bool :=
  a.findings.any (·.severity == .error)

end Analysis
end ProviderCoverage

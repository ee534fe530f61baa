import ProviderCoverage.Coverage
import ProviderCoverage.Finding
import ProviderCoverage.Settings.Validation

/-! Findings of the analyzers about a registry: those about each entity in key order, then the one
about the package. An entity without tests has no finding but that. -/

namespace ProviderCoverage

/-- What the analyzers look at for one entity. -/
structure EntityReview where
  entity : Entity
  coverage : Coverage
  severity : Severity

namespace EntityReview

def entry (r : EntityReview) : CoverageEntry :=
  ⟨r.entity, r.coverage⟩

def finding (r : EntityReview) (analyzer : Analyzer) (severity : Severity)
    (message suggestion : String) : Finding :=
  ⟨analyzer, severity, some r.entity.key, r.entity.location, message, [suggestion]⟩

/-- The entity as messages call it: `resource 'widget'`. -/
def title (r : EntityReview) : String :=
  r.entity.key.kind.text ++ " '" ++ r.entity.key.name ++ "'"

def untested (r : EntityReview) : Finding :=
  r.finding .basic .error (r.title ++ " has no acceptance test")
    ("Create " ++ r.entity.expectedTestFile ++ " with function "
      ++ r.entity.expectedTestFunction)

def isResource (r : EntityReview) : Bool :=
  r.entity.key.kind == .resource

def namesWhere (r : EntityReview) (p : Attribute → Bool) : List String :=
  (r.entity.attributes.filter p).map (·.name)

def listed (names : List String) : String :=
  ", ".intercalate names

/-- A resource with attributes that can be changed in place, and no step that changes one. -/
def missingUpdate (r : EntityReview) : Bool :=
  r.isResource && !r.coverage.hasUpdateTest && r.entity.attributes.any (·.needsUpdateTest)

def update (r : EntityReview) : Finding :=
  r.finding .update r.severity
    (r.title ++ " has updatable attributes but no update test coverage (updatable: "
      ++ listed (r.namesWhere (·.needsUpdateTest)) ++ ")")
    "Add a test step that modifies one of these attributes"

/-- A resource that can be imported, and no step that imports it. -/
def missingImport (r : EntityReview) : Bool :=
  r.isResource && r.entity.importable && !r.coverage.hasImportTest

def importing (r : EntityReview) : Finding :=
  r.finding .importing r.severity
    (r.title ++ " implements ImportState but has no import test coverage")
    "Add a test step with ImportState: true, ImportStateVerify: true"

/-- A resource that refuses some values, and no step that tries one. -/
def missingError (r : EntityReview) : Bool :=
  r.isResource && !r.coverage.hasErrorTest && r.entity.attributes.any (·.needsValidationTest)

def error (r : EntityReview) : Finding :=
  r.finding .error r.severity
    (r.title ++ " has validation rules but no error case tests (validated: "
      ++ listed (r.namesWhere (·.needsValidationTest)) ++ ")")
    "Add a test step with ExpectError to verify validation"

def stateCheck (r : EntityReview) : Finding :=
  r.finding .stateCheck r.severity
    (r.title ++ " has " ++ toString r.coverage.testCount
      ++ " test(s) but none include state validation (Check) or plan checks (ConfigPlanChecks)")
    "Add Check: resource.ComposeTestCheckFunc(...) or ConfigPlanChecks to at least one test"

def checkDestroy (r : EntityReview) : Finding :=
  r.finding .checkDestroy r.severity
    (r.title ++ " has " ++ toString r.coverage.testCount
      ++ " test(s) but none include CheckDestroy")
    "Add CheckDestroy to at least one test's resource.TestCase"

def when (condition : Bool) (f : Finding) : List Finding :=
  if condition then [f] else []

/-- The findings about one entity. -/
def findings (s : Settings) (r : EntityReview) : List Finding :=
  if !r.coverage.hasBasicTest then when s.enableBasicTest r.untested
  else
    when (s.enableUpdateTest && r.missingUpdate) r.update
      ++ when (s.enableImportTest && r.missingImport) r.importing
      ++ when (s.enableErrorTest && r.missingError) r.error
      ++ when (s.enableStateCheck && r.coverage.missingStateChecks) r.stateCheck
      ++ when (s.anyAnalyzer && r.entry.missingCheckDestroy) r.checkDestroy

end EntityReview

namespace Findings

/-- The highest confidence among tests, zero without any. -/
def confidence (tests : List AcceptanceTest) : Rat :=
  tests.foldl (fun best t => if best < t.confidence then t.confidence else best) 0

def review (r : Registry) (entry : CoverageEntry) : EntityReview :=
  ⟨entry.entity, entry.coverage,
    Severity.ofConfidence (confidence (r.testsFor entry.entity.key))⟩

/-- Whether the findings about an entity are wanted: its name matches the pattern, if there is
one. -/
def admits (pattern : Option (String → Bool)) (name : String) : Bool :=
  pattern.all (· name)

/-- The finding about a package without sweepers. Its place is the file of the first test. -/
def noSweepers (r : Registry) : Finding where
  analyzer := .sweeper
  severity := .warning
  entity := none
  location := match r.tests.head? with
    | some t => ⟨t.location.file, 1, 1⟩
    | none => .unknown
  message := "package has no test sweeper registrations"
  suggestions := ["Add resource.AddTestSweepers() calls for cleanup"]

def ofEntries (r : Registry) (s : Settings) (pattern : Option (String → Bool)) : List Finding :=
  ((CoverageReport.ofRegistry r).entries.filter (admits pattern ·.entity.key.name)).flatMap
    fun entry => (review r entry).findings s

def ofPackage (r : Registry) (s : Settings) : List Finding :=
  if s.anyAnalyzer && r.sweeperFiles.isEmpty then [noSweepers r] else []

/-- All findings about a registry. -/
def evaluate (r : Registry) (s : Settings) (patterns : PatternReader) :
    Except SettingsError (List Finding) :=
  (s.namingPattern patterns).map fun pattern => ofEntries r s pattern ++ ofPackage r s

end Findings
end ProviderCoverage

import ProviderCoverage.Analysis.Basic
import ProviderCoverage.Text.JsonValue

/-! The report as JSON. Everything is in it, whatever the options are. -/

namespace ProviderCoverage.Report.Structured

def coverage (c : Coverage) : JsonValue :=
  .object
    [("has_basic_test", .bool c.hasBasicTest),
     ("has_update_test", .bool c.hasUpdateTest),
     ("has_import_test", .bool c.hasImportTest),
     ("has_error_test", .bool c.hasErrorTest),
     ("has_state_check", .bool c.hasStateCheck),
     ("has_plan_check", .bool c.hasPlanCheck),
     ("has_check_destroy", .bool c.hasCheckDestroy),
     ("test_count", .count c.testCount),
     ("step_count", .count c.stepCount),
     ("update_step_count", .count c.updateStepCount),
     ("import_step_count", .count c.importStepCount)]

def test (t : AcceptanceTest) : JsonValue :=
  .object
    [("name", .string t.name),
     ("file", .string t.location.file),
     ("line", .count t.location.line),
     ("category", .string t.category.text),
     ("match_type", .string t.matchType.text),
     ("match_confidence", .number t.confidence)]

def entity (a : Analysis) (entry : CoverageEntry) : JsonValue :=
  let e := entry.entity
  .object
    [("kind", .string e.key.kind.text),
     ("name", .string e.key.name),
     ("file", .string e.location.file),
     ("line", .count e.location.line),
     ("import_capable", .bool e.importable),
     ("coverage", coverage entry.coverage),
     ("tests", .array ((a.testsFor e.key).map test))]

def finding (f : Finding) : JsonValue :=
  .object
    [("analyzer", .string f.analyzer.text),
     ("severity", .string f.severity.text),
     ("entity", f.entity.elim .null fun key => .string key.text),
     ("file", .string f.location.file),
     ("line", .count f.location.line),
     ("message", .string f.message),
     ("suggestions", .array (f.suggestions.map .string))]

def report (a : Analysis) : JsonValue :=
  .object
    [("root", .string a.root),
     ("tested_percent", .number (a.testedPercent Binary64.nearest)),
     ("resources", .count a.stats.resources),
     ("data_sources", .count a.stats.dataSources),
     ("actions", .count a.stats.actions),
     ("test_functions", .count a.stats.tests),
     ("linked_test_functions", .count a.stats.linkedTests),
     ("entities", .array (a.coverage.entries.map (entity a))),
     ("findings", .array (a.findings.map finding)),
     ("unmatched_tests", .array (a.unmatched.map test)),
     ("warnings", .array (a.warnings.map .string))]

/-- The text of the report. -/
def render (a : Analysis) : String :=
  (report a).text

end ProviderCoverage.Report.Structured

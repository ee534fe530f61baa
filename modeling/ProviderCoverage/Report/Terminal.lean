import ProviderCoverage.Analysis.Basic
import ProviderCoverage.Text.Styled

/-! The report for a terminal: a summary, then warnings, entities, findings and tests without an
entity, each part as far as there is something to show and it is wanted. -/

namespace ProviderCoverage.Report

structure Options where
  /-- List every entity with its tests. -/
  verbose : Bool
  showUnmatched : Bool
  /-- Show how each test was matched. -/
  showConfidence : Bool

/-- Settings ask for parts of the report, and so may the caller. -/
def Options.ofSettings (s : Settings) (verbose showUnmatched : Bool) : Options where
  verbose := verbose || s.verbose
  showUnmatched := showUnmatched || s.showUnmatchedTests
  showConfidence := s.showMatchConfidence

namespace Terminal

def lines (ls : List String) : String :=
  String.join (ls.map (· ++ "\n"))

/-- The line above a part: an empty line, a marker, and what follows. -/
def heading (marker : String) (styles : List Style) (title : String) : List String :=
  ["", styled styles marker ++ " " ++ title]

def percentStyle (percent : Rat) : Style :=
  if 80 ≤ percent then .green else if 50 ≤ percent then .yellow else .red

def fraction (part whole : Nat) : String :=
  toString part ++ "/" ++ toString whole

def summary (a : Analysis) : List String :=
  let percent := a.testedPercent Binary64.nearest
  ["",
   styled [.bold] "##" ++ " " ++ styled [.cyan, .bold] a.root ++ " Test Coverage",
   "",
   "Tested: " ++ styled [percentStyle percent] (Decimal.fixed 1 percent ++ "%")
     ++ " (" ++ fraction a.testedCount a.entityCount ++ " entities)",
   "  " ++ styled [.dimmed]
     (toString a.stats.resources ++ " resources, " ++ toString a.stats.dataSources
       ++ " data sources, " ++ toString a.stats.actions ++ " actions; "
       ++ fraction a.stats.linkedTests a.stats.tests ++ " test functions linked")]

def warnings (ws : List String) : List String :=
  if ws.isEmpty then []
  else heading "!" [.yellow, .bold] (toString ws.length ++ " files could not be read:")
    ++ ws.map fun w => "  " ++ styled [.yellow] "-" ++ " " ++ styled [.dimmed] w

/-- What the tests of an entity cover beyond the basics. -/
def coveredParts (c : Coverage) : List String :=
  [(c.hasUpdateTest, "update"),
   (c.hasImportTest, "import"),
   (c.hasErrorTest, "error"),
   (c.hasStateCheck || c.hasPlanCheck, "checks"),
   (c.hasCheckDestroy, "destroy")].filterMap fun (covered, part) =>
    if covered then some part else none

def coverageNote (c : Coverage) : String :=
  if !c.hasBasicTest then "(no tests)"
  else
    let parts := coveredParts c
    "(" ++ toString c.testCount ++ " tests, " ++ toString c.stepCount ++ " steps; "
      ++ (if parts.isEmpty then "basic only" else ", ".intercalate parts) ++ ")"

def testLine (showConfidence : Bool) (t : AcceptanceTest) : String :=
  if showConfidence then
    t.name ++ " " ++ styled [.dimmed]
      ("[" ++ t.matchType.text ++ " " ++ Decimal.fixed 2 t.confidence ++ "]")
  else t.name

def entity (a : Analysis) (showConfidence : Bool) (entry : CoverageEntry) : List String :=
  let key := entry.entity.key
  let marker :=
    if entry.coverage.hasBasicTest then styled [.green, .bold] "+" else styled [.red, .bold] "-"
  let title := "  " ++ marker ++ " " ++ styled [.dimmed] key.kind.text ++ " "
    ++ styled [.cyan] key.name ++ " " ++ styled [.dimmed] (coverageNote entry.coverage)
  title :: (a.testsFor key).map fun t => "      " ++ testLine showConfidence t

def entities (a : Analysis) (o : Options) : List String :=
  if o.verbose then
    heading "#" [.bold] "Entities:" ++ a.coverage.entries.flatMap (entity a o.showConfidence)
  else []

def severityStyles : Severity → List Style
  | .error => [.red, .bold]
  | .warning => [.yellow, .bold]
  | .info => [.blue]

def finding (f : Finding) : List String :=
  let title := "  " ++ styled (severityStyles f.severity) f.severity.text ++ " ["
    ++ styled [.dimmed] f.analyzer.text ++ "] " ++ f.message
  let place :=
    if f.location.file.isEmpty then []
    else ["      at " ++ styled [.dimmed] f.location.text]
  title :: place ++ f.suggestions.map fun s => "      " ++ styled [.blue] "->" ++ " " ++ s

def findings (fs : List Finding) : List String :=
  if fs.isEmpty then []
  else heading "!" [.red, .bold] (toString fs.length ++ " findings:") ++ fs.flatMap finding

def unmatched (ts : List AcceptanceTest) : List String :=
  if ts.isEmpty then []
  else
    heading "?" [.yellow, .bold] (toString ts.length ++ " test functions not linked to any entity:")
      ++ ts.map fun t => "  " ++ styled [.yellow] "-" ++ " " ++ t.name ++ " "
        ++ styled [.dimmed] ("(" ++ t.location.text ++ ", " ++ t.category.text ++ ")")

/-- The text of the report. -/
def render (a : Analysis) (o : Options) : String :=
  lines (summary a ++ warnings a.warnings ++ entities a o ++ findings a.findings
    ++ if o.showUnmatched then unmatched a.unmatched else [])

end Terminal
end ProviderCoverage.Report

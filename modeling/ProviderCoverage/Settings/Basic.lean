import ProviderCoverage.Duration
import ProviderCoverage.Number.Decimal

/-! The settings of an analysis and their defaults. -/

namespace ProviderCoverage

structure Settings where
  enableBasicTest : Bool
  enableUpdateTest : Bool
  enableImportTest : Bool
  enableErrorTest : Bool
  enableStateCheck : Bool
  resourcePathPattern : String
  dataSourcePathPattern : String
  /-- A glob on the file name that tells which files hold tests. -/
  testFilePattern : String
  /-- Paths, file names or parts of paths that are left out. -/
  excludePaths : List String
  excludeBaseClasses : Bool
  excludeSweeperFiles : Bool
  excludeMigrationFiles : Bool
  /-- Globs on the file name. -/
  excludePatterns : List String
  /-- Names of tests, or their beginnings with `*` after them. -/
  testNamePatterns : List String
  /-- Entry points of the form `package.Function`. -/
  customTestHelpers : List String
  enableFuzzyMatching : Bool
  fuzzyMatchThreshold : Binary64
  /-- File name conventions `marker:is_data_source`. -/
  testFilePrefixPatterns : List String
  testFileSuffixPatterns : List String
  testFileSuffixStrip : List String
  /-- Globs on the names of what looks like an entity and is part of one. -/
  nestedSchemaPatterns : List String
  functionNameKeywordsToStrip : List String
  /-- Empty for the usual suffixes, `["-"]` for none. -/
  testFunctionSuffixes : List String
  providerPrefix : String
  /-- A regular expression; other entities have no findings. -/
  resourceNamingPattern : String
  verbose : Bool
  showMatchConfidence : Bool
  showUnmatchedTests : Bool
  showOrphanedResources : Bool
  /-- A duration; empty for five minutes, zero for no expiry. -/
  cacheTtl : String

namespace Settings

def default : Settings where
  enableBasicTest := true
  enableUpdateTest := true
  enableImportTest := true
  enableErrorTest := true
  enableStateCheck := true
  resourcePathPattern := "resource_*.go"
  dataSourcePathPattern := "data_source_*.go"
  testFilePattern := "*_test.go"
  excludePaths := []
  excludeBaseClasses := true
  excludeSweeperFiles := true
  excludeMigrationFiles := true
  excludePatterns := ["*_sweeper.go", "*_test_helpers.go"]
  testNamePatterns := []
  customTestHelpers := []
  enableFuzzyMatching := false
  fuzzyMatchThreshold := .finite (Binary64.nearest (mkRat 7 10))
  testFilePrefixPatterns :=
    ["resource_:false", "data_source_:true", "ephemeral_:false", "action_:false", "iam_:false"]
  testFileSuffixPatterns :=
    ["_resource:false", "_data_source:true", "_datasource:true", "_action:false"]
  testFileSuffixStrip := ["_generated", "_gen"]
  nestedSchemaPatterns := ["*_schema", "*_schema_*"]
  functionNameKeywordsToStrip := ["IamBinding", "IamMember", "IamPolicy", "Iam", "Generated"]
  testFunctionSuffixes := []
  providerPrefix := ""
  resourceNamingPattern := ""
  verbose := false
  showMatchConfidence := false
  showUnmatchedTests := false
  showOrphanedResources := false
  cacheTtl := "5m"

def usualSuffixes : List String :=
  ["_basic", "_generated", "_complete", "_update", "_import", "_disappears", "_migrate", "_full",
   "_minimal"]

/-- The suffixes that are taken off the names of tests. -/
def suffixes (s : Settings) : List String :=
  match s.testFunctionSuffixes with
  | [] => usualSuffixes
  | ["-"] => []
  | custom => custom

def anyAnalyzer (s : Settings) : Bool :=
  s.enableBasicTest || s.enableUpdateTest || s.enableImportTest || s.enableErrorTest
    || s.enableStateCheck

/-- The threshold of fuzzy matching, never below one half. -/
def fuzzyThreshold (s : Settings) : Binary64 :=
  s.fuzzyMatchThreshold.atLeast (mkRat 1 2)

/-- Whether a name matches a pattern: the pattern itself, or what begins as it does before a final
`*`. -/
def matchesNamePattern (name pattern : String) : Bool :=
  match Text.beforeSuffix? pattern "*" with
  | some start => Text.begins name start
  | none => name == pattern

/-- Whether the name of a test is wanted; every name is if no patterns are given. -/
def admitsTestName (s : Settings) (name : String) : Bool :=
  s.testNamePatterns.isEmpty || s.testNamePatterns.any (matchesNamePattern name)

end Settings
end ProviderCoverage

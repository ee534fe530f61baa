import ProviderCoverage.Settings.Basic

/-! The settings by the keys under which they are written, and settings that override others. -/

namespace ProviderCoverage

inductive SettingValue where
  | flag (b : Bool)
  | number (x : Binary64)
  | text (s : String)
  | texts (ss : List String)
deriving DecidableEq

/-- One setting: how it is read from all of them and written to them. -/
inductive Setting where
  | flag (key : String) (get : Settings → Bool) (put : Bool → Settings → Settings)
  | number (key : String) (get : Settings → Binary64) (put : Binary64 → Settings → Settings)
  | text (key : String) (get : Settings → String) (put : String → Settings → Settings)
  | texts (key : String) (get : Settings → List String)
      (put : List String → Settings → Settings)

namespace Setting

def key : Setting → String
  | flag key .. | number key .. | text key .. | texts key .. => key

def value (s : Settings) : Setting → SettingValue
  | flag _ get _ => .flag (get s)
  | number _ get _ => .number (get s)
  | text _ get _ => .text (get s)
  | texts _ get _ => .texts (get s)

/-- The settings with this one set. A value of another form changes nothing. -/
def set (s : Settings) : Setting → SettingValue → Settings
  | flag _ _ put, .flag b => put b s
  | number _ _ put, .number x => put x s
  | text _ _ put, .text t => put t s
  | texts _ _ put, .texts ts => put ts s
  | _, _ => s

/-- Every setting, in the order in which they are declared. -/
def all : List Setting :=
  [.flag "enable-basic-test" (·.enableBasicTest) fun b s => { s with enableBasicTest := b },
   .flag "enable-update-test" (·.enableUpdateTest) fun b s => { s with enableUpdateTest := b },
   .flag "enable-import-test" (·.enableImportTest) fun b s => { s with enableImportTest := b },
   .flag "enable-error-test" (·.enableErrorTest) fun b s => { s with enableErrorTest := b },
   .flag "enable-state-check" (·.enableStateCheck) fun b s => { s with enableStateCheck := b },
   .text "resource-path-pattern" (·.resourcePathPattern)
     fun t s => { s with resourcePathPattern := t },
   .text "data-source-path-pattern" (·.dataSourcePathPattern)
     fun t s => { s with dataSourcePathPattern := t },
   .text "test-file-pattern" (·.testFilePattern) fun t s => { s with testFilePattern := t },
   .texts "exclude-paths" (·.excludePaths) fun ts s => { s with excludePaths := ts },
   .flag "exclude-base-classes" (·.excludeBaseClasses)
     fun b s => { s with excludeBaseClasses := b },
   .flag "exclude-sweeper-files" (·.excludeSweeperFiles)
     fun b s => { s with excludeSweeperFiles := b },
   .flag "exclude-migration-files" (·.excludeMigrationFiles)
     fun b s => { s with excludeMigrationFiles := b },
   .texts "exclude-patterns" (·.excludePatterns) fun ts s => { s with excludePatterns := ts },
   .texts "test-name-patterns" (·.testNamePatterns) fun ts s => { s with testNamePatterns := ts },
   .texts "custom-test-helpers" (·.customTestHelpers)
     fun ts s => { s with customTestHelpers := ts },
   .flag "enable-fuzzy-matching" (·.enableFuzzyMatching)
     fun b s => { s with enableFuzzyMatching := b },
   .number "fuzzy-match-threshold" (·.fuzzyMatchThreshold)
     fun x s => { s with fuzzyMatchThreshold := x },
   .texts "test-file-prefix-patterns" (·.testFilePrefixPatterns)
     fun ts s => { s with testFilePrefixPatterns := ts },
   .texts "test-file-suffix-patterns" (·.testFileSuffixPatterns)
     fun ts s => { s with testFileSuffixPatterns := ts },
   .texts "test-file-suffix-strip" (·.testFileSuffixStrip)
     fun ts s => { s with testFileSuffixStrip := ts },
   .texts "nested-schema-patterns" (·.nestedSchemaPatterns)
     fun ts s => { s with nestedSchemaPatterns := ts },
   .texts "function-name-keywords-to-strip" (·.functionNameKeywordsToStrip)
     fun ts s => { s with functionNameKeywordsToStrip := ts },
   .texts "test-function-suffixes" (·.testFunctionSuffixes)
     fun ts s => { s with testFunctionSuffixes := ts },
   .text "provider-prefix" (·.providerPrefix) fun t s => { s with providerPrefix := t },
   .text "resource-naming-pattern" (·.resourceNamingPattern)
     fun t s => { s with resourceNamingPattern := t },
   .flag "verbose" (·.verbose) fun b s => { s with verbose := b },
   .flag "show-match-confidence" (·.showMatchConfidence)
     fun b s => { s with showMatchConfidence := b },
   .flag "show-unmatched-tests" (·.showUnmatchedTests)
     fun b s => { s with showUnmatchedTests := b },
   .flag "show-orphaned-resources" (·.showOrphanedResources)
     fun b s => { s with showOrphanedResources := b },
   .text "cache-ttl" (·.cacheTtl) fun t s => { s with cacheTtl := t }]

def ofKey? (key : String) : Option Setting :=
  all.find? (·.key == key)

end Setting

namespace Settings

/-- The settings with these values in place of their own. -/
def override (s : Settings) (values : List (Setting × SettingValue)) : Settings :=
  values.foldl (fun s (setting, value) => setting.set s value) s

/-- The settings that differ from others, with the values they have. -/
def differences (s other : Settings) : List (String × SettingValue) :=
  (Setting.all.filter fun f => f.value s ≠ f.value other).map fun f => (f.key, f.value s)

end Settings
end ProviderCoverage

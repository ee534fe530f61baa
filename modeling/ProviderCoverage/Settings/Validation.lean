import ProviderCoverage.Settings.FileFilter

/-! Validation: settings that pass are fit for every later stage. -/

namespace ProviderCoverage

/-- What a library of patterns makes of a text: the names in which the pattern is found, or nothing
if the text is no pattern. -/
abbrev PatternReader := String → Option (String → Bool)

namespace Settings

/-- Five minutes. -/
def usualCacheTtl : Nat :=
  5 * 60 * 1000000000

/-- Nanoseconds until a cached registry expires, or `none` if it never does. -/
def cacheLifetime (s : Settings) : Except SettingsError (Option Nat) :=
  let value := String.ofList (Text.trim s.cacheTtl.toList)
  if value.isEmpty then .ok (some usualCacheTtl)
  else match Duration.parse value with
    | .error e => .error (.badCacheTtl value e)
    | .ok n => .ok (if n = 0 then none else some n)

/-- The pattern that the names of entities must match to have findings, if there is one. -/
def namingPattern (s : Settings) (patterns : PatternReader) :
    Except SettingsError (Option (String → Bool)) :=
  if s.resourceNamingPattern.isEmpty then .ok none
  else match patterns s.resourceNamingPattern with
    | some p => .ok (some p)
    | none => .error (.badNamingPattern s.resourceNamingPattern)

def nestedSchemaGlobs (s : Settings) : Except SettingsError (List Glob) :=
  readGlobs "nested-schema-patterns" s.nestedSchemaPatterns

def prefixConventions (s : Settings) : Except SettingsError (List FileConvention) :=
  FileConvention.readAll "test-file-prefix-patterns" s.testFilePrefixPatterns

def suffixConventions (s : Settings) : Except SettingsError (List FileConvention) :=
  FileConvention.readAll "test-file-suffix-patterns" s.testFileSuffixPatterns

def checkThreshold (s : Settings) : Except SettingsError Unit :=
  let t := s.fuzzyMatchThreshold
  if !t.within 0 1 then .error (.thresholdOutOfRange t)
  else if s.enableFuzzyMatching && !t.within (mkRat 1 2) 1 then .error (.thresholdTooLow t)
  else .ok ()

def checkHelpers : List String → Except SettingsError Unit
  | [] => .ok ()
  | helper :: rest =>
    if helper.toList.contains '.' then checkHelpers rest
    else .error (.badEntry "custom-test-helpers" helper "package.Function")

def validate (s : Settings) (patterns : PatternReader) : Except SettingsError Unit := do
  s.checkThreshold
  if !s.anyAnalyzer then throw .noAnalyzer
  discard s.cacheLifetime
  discard (s.namingPattern patterns)
  discard (FileFilter.ofSettings s)
  discard s.prefixConventions
  discard s.suffixConventions
  discard s.nestedSchemaGlobs
  checkHelpers s.customTestHelpers

/-- An entry point `package.Function` in its two parts; entries without a point are passed over. -/
def helperPairs (s : Settings) : List (String × String) :=
  s.customTestHelpers.filterMap fun helper =>
    (Text.splitFirst? '.' helper.toList).map fun (package, function) =>
      (String.ofList package, String.ofList function)

end Settings
end ProviderCoverage

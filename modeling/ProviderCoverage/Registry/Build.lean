import ProviderCoverage.Discovery.Extraction
import ProviderCoverage.Findings
import ProviderCoverage.Linker
import ProviderCoverage.Sources
import ProviderCoverage.TestFile.Tests

/-! The registry of some files, with its tests linked. -/

namespace ProviderCoverage

open Go

inductive AnalysisError where
  | settings (e : SettingsError)
  | registry (e : RegistryError)
deriving DecidableEq

def AnalysisError.message : AnalysisError → String
  | settings e => e.message
  | registry e => e.message

def liftSettings {α : Type} (x : Except SettingsError α) : Except AnalysisError α :=
  x.mapError .settings

namespace Registry

def withEntities (r : Registry) (entities : List Entity) : Registry :=
  entities.foldl (fun r e => (r.registerEntity e).1) r

def withTests (r : Registry) (tests : List AcceptanceTest) : Registry :=
  tests.foldl (fun r t => (r.registerTest t).1) r

def withSweepers (r : Registry) (files : List SourceFile) : Registry :=
  (files.filter Harness.registersSweepers).foldl (fun r f => r.registerSweeperFile f.path) r

/-- The registry of these files before any linking. -/
def unlinked (x : Extractor) (s : Settings) (files : List SourceFile) : Registry :=
  let sources := files.filter (!·.isTest)
  let testFiles := files.filter (·.isTest)
  let reader : TestReader := ⟨s, Harness.localHelpers testFiles⟩
  ((empty.withEntities (sources.flatMap x.extract)).withTests
    (testFiles.flatMap reader.tests)).withSweepers files

/-- The registry of these files, registered in this order, with every test linked that matches an
entity. -/
def build (s : Settings) (patterns : PatternReader) (rounding : Rounding)
    (files : List SourceFile) : Except AnalysisError Registry :=
  match liftSettings (do s.validate patterns; Extractor.ofSettings s) with
  | .error e => .error e
  | .ok x =>
    let r := unlinked x s files
    match Linker.ofRegistry r s rounding with
    | .error e => .error (.settings e)
    | .ok linker =>
      match linker.linkAll r with
      | (_, .error e) => .error (.registry e)
      | (r, .ok _) => .ok r

/-- The registry of files in memory. -/
def ofTexts (s : Settings) (patterns : PatternReader) (rounding : Rounding)
    (texts : List (String × String)) : Except AnalysisError Registry :=
  match FileFilter.ofSettings s with
  | .error e => .error (.settings e)
  | .ok filter => build s patterns rounding (Sources.ofTexts filter texts).files

end Registry

end ProviderCoverage

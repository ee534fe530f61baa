import ProviderCoverage.Settings.FileFilter

/-! The Go files of an analysis: those that hold tests and those that are not left out, in the
order of their paths. -/

namespace ProviderCoverage

open Go

/-- Files as read, with a warning for each that could not be read. -/
structure Sources where
  files : List SourceFile
  warnings : List String

namespace Sources

/-- A file whose text is known, unless it is left out. -/
def admit? (filter : FileFilter) (path source : String) : Option SourceFile :=
  let isTest := filter.isTestFile path
  if !isTest && filter.isExcluded path then none
  else some (SourceFile.read path source isTest)

/-- The files in the order of their paths; files of one path keep their order. -/
def sorted (files : List SourceFile) : List SourceFile :=
  files.mergeSort fun a b => a.path ≤ b.path

/-- Files in memory, as pairs of a path and a text. -/
def ofTexts (filter : FileFilter) (texts : List (String × String)) : Sources :=
  ⟨sorted (texts.filterMap fun (path, source) => admit? filter path source), []⟩

def testFiles (s : Sources) : List SourceFile :=
  s.files.filter (·.isTest)

def sourceFiles (s : Sources) : List SourceFile :=
  s.files.filter (!·.isTest)

end Sources
end ProviderCoverage

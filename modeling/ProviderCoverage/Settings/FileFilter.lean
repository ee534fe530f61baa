import ProviderCoverage.Go.SourceFile
import ProviderCoverage.Settings.Error

/-! Which files hold tests, which other files are left out, and what file names say about the
entities in them. -/

namespace ProviderCoverage

def readGlob (setting glob : String) : Except SettingsError Glob :=
  match Glob.read true glob with
  | .ok g => .ok g
  | .error e => .error (.badGlob setting glob e)

def readGlobs (setting : String) : List String → Except SettingsError (List Glob)
  | [] => .ok []
  | glob :: rest =>
    match readGlob setting glob with
    | .error e => .error e
    | .ok g => (readGlobs setting rest).map (g :: ·)

/-- A beginning or end of file names that tells what kind of entity a test is about. -/
structure FileConvention where
  marker : String
  dataSource : Bool
deriving DecidableEq

/-- An entry `marker:true` or `marker:false`; without a colon it is not about data sources. -/
def FileConvention.read (setting entry : String) : Except SettingsError FileConvention :=
  match Text.splitLast? ':' entry.toList with
  | none => .ok ⟨entry, false⟩
  | some (marker, flag) =>
    let marker := String.ofList marker
    let flag := String.ofList (Text.trim flag)
    if flag = "true" then .ok ⟨marker, true⟩
    else if flag = "false" then .ok ⟨marker, false⟩
    else .error (.badEntry setting entry "marker:true or marker:false")

def FileConvention.readAll (setting : String) :
    List String → Except SettingsError (List FileConvention)
  | [] => .ok []
  | entry :: rest =>
    match FileConvention.read setting entry with
    | .error e => .error e
    | .ok c => (readAll setting rest).map (c :: ·)

structure FileFilter where
  testGlob : Glob
  testPattern : String
  excludeGlobs : List Glob
  excludePaths : List String
  excludeBaseClasses : Bool
  excludeSweeperFiles : Bool
  excludeMigrationFiles : Bool

namespace FileFilter

def usualTestPattern : String :=
  "*_test.go"

def ofSettings (s : Settings) : Except SettingsError FileFilter :=
  let pattern := if s.testFilePattern.isEmpty then usualTestPattern else s.testFilePattern
  match readGlob "test-file-pattern" pattern with
  | .error e => .error e
  | .ok testGlob =>
    match readGlobs "exclude-patterns" s.excludePatterns with
    | .error e => .error e
    | .ok excludeGlobs =>
      .ok ⟨testGlob, pattern, excludeGlobs, s.excludePaths, s.excludeBaseClasses,
        s.excludeSweeperFiles, s.excludeMigrationFiles⟩

def isTestFile (f : FileFilter) (path : String) : Bool :=
  f.testGlob.accepts (fileName path)

/-- The part of a text between a beginning and an end, unless it is empty. -/
def between? (head tail s : List Char) : Option (List Char) :=
  ((head.isPrefixOf? s).bind (tail.isSuffixOf? ·)).filter (!·.isEmpty)

/-- The name of a test file without the text before the first and after the last `*` of the
pattern: `resource_widget` for `resource_widget_test.go`. -/
def testFileStem? (f : FileFilter) (path : String) : Option (List Char) :=
  if f.isTestFile path then
    match Text.splitFirst? '*' f.testPattern.toList, Text.splitLast? '*' f.testPattern.toList with
    | some (head, _), some (_, tail) => between? head tail (fileName path).toList
    | _, _ => none
  else none

/-- Whether a file that holds no tests is left out. -/
def isExcluded (f : FileFilter) (path : String) : Bool :=
  let name := fileName path
  (f.excludeBaseClasses && (Text.begins name "base_" || Text.begins name "base."))
    || (f.excludeSweeperFiles && Text.ends name "_sweeper.go")
    || (f.excludeMigrationFiles && (Text.ends name "_migrate.go" || Text.includes name "_migration"
      || Text.ends name "_state_upgrader.go"))
    || (f.excludePaths.any fun p =>
      !p.isEmpty && (path == p || name == p || Text.includes path p))
    || f.excludeGlobs.any (·.accepts name)

end FileFilter
end ProviderCoverage

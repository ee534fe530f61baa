import ProviderCoverage.Files.IgnoreRule
import ProviderCoverage.Sources

/-! The Go files below a folder, and sources that are read from files. -/

namespace ProviderCoverage

namespace Folder

/-- Whether a name ends in `.go` with something before that. -/
def isGoName (name : String) : Bool :=
  match Text.splitLast? '.' name.toList with
  | some (before, after) => !before.isEmpty && after == ['g', 'o']
  | none => false

/-- Whether a walk from `root` reaches a file: no folder on the way is left out, nor the file. -/
def reaches (f : Folder) (root path : FilePath) : Bool :=
  root.isPrefixOf path
    && (List.range path.length).all fun n =>
      n < root.length || !f.leavesOut (path.take (n + 1)) (n + 1 < path.length)

/-- The Go files below a folder, in the order of their paths. -/
def goFilesBelow (f : Folder) (root : FilePath) : List FilePath :=
  ((f.files.map (·.path)).filter fun path =>
    path.getLast?.any isGoName && f.reaches root path).mergeSort (·.text ≤ ·.text)

end Folder

/-- The files that a walk finds, as written below its root, or why it finds none. -/
structure Walk where
  paths : List String
  warnings : List String

namespace Walk

def failure (root : String) (e : FileError) : String :=
  root ++ ": IO error for operation on " ++ root ++ ": " ++ e.message

/-- Walk from a root, which may also be a file. -/
def ofRoot (f : Folder) (root : String) : Walk :=
  match f.entry root with
  | .error e => ⟨[], [failure root e]⟩
  | .ok (.file _) =>
    ⟨if (FilePath.ofText root).getLast?.any Folder.isGoName then [root] else [], []⟩
  | .ok .folder =>
    let top := FilePath.ofText root
    ⟨(f.goFilesBelow top).map fun path =>
      joinPath root (FilePath.text (path.drop top.length)), []⟩

end Walk

namespace Sources

/-- A path as it is shown. -/
def shownPath (path : String) : String :=
  String.ofList (path.toList.map fun c => if c = '\\' then '/' else c)

/-- A file that is read: left out, kept, or the reason why it cannot be read. -/
def readFile (filter : FileFilter) (f : Folder) (path : String) :
    Except String (Option Go.SourceFile) :=
  match f.read path with
  | .ok source => .ok (admit? filter (shownPath path) source)
  | .error e => .error ("Failed to read " ++ shownPath path ++ ": " ++ e.message)

/-- The files of these paths. -/
def ofPaths (filter : FileFilter) (f : Folder) (paths : List String) : Sources :=
  let read := paths.map (readFile filter f)
  { files := sorted (read.filterMap fun r => r.toOption.join)
    warnings := read.filterMap fun
      | .error warning => some warning
      | .ok _ => none }

/-- The Go files below a root. -/
def ofWalk (filter : FileFilter) (f : Folder) (root : String) : Sources :=
  let walk := Walk.ofRoot f root
  let sources := ofPaths filter f walk.paths
  { sources with warnings := walk.warnings ++ sources.warnings }

end Sources
end ProviderCoverage

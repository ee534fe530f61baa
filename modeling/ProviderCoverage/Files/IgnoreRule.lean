import ProviderCoverage.Files.Folder
import ProviderCoverage.Glob.Syntax

/-! Rules that leave files out of a walk. They are written line by line in files whose names are
fixed, and a file's rules are about all that is below its folder. -/

namespace ProviderCoverage

structure IgnoreRule where
  glob : Glob
  /-- Whether the rule keeps what it matches. -/
  keeps : Bool
  foldersOnly : Bool

namespace IgnoreRule

/-- A line without its opening signs. -/
structure Opened where
  keeps : Bool
  /-- Whether the pattern is for paths from the folder of the rule on. -/
  anchored : Bool
  pattern : List Char

/-- A line keeps what it matches if it begins with `!`. A backslash takes the meaning from a first
`!` or `#`. -/
def Opened.ofLine : List Char → Opened
  | '\\' :: '!' :: rest => ⟨false, false, '!' :: rest⟩
  | '\\' :: '#' :: rest => ⟨false, false, '#' :: rest⟩
  | '!' :: '/' :: rest => ⟨true, true, rest⟩
  | '!' :: rest => ⟨true, false, rest⟩
  | '/' :: rest => ⟨false, true, rest⟩
  | line => ⟨false, false, line⟩

/-- The pattern without a final slash, perhaps escaped, if it has one. -/
def withoutFinalSlash? (pattern : List Char) : Option (List Char) :=
  (['/'].isSuffixOf? pattern).map fun rest => (['\\'].isSuffixOf? rest).getD rest

/-- The glob of a pattern: a pattern without slashes is for names in every folder below, and one
that ends in `/**` is not for the folder itself. -/
def globText (anchored : Bool) (pattern : List Char) : List Char :=
  let anywhere := !anchored && !pattern.contains '/' && pattern != ['*', '*']
  let glob := if anywhere then ['*', '*', '/'] ++ pattern else pattern
  if ['/', '*', '*'].isSuffixOf glob then glob ++ ['/', '*'] else glob

/-- The rule on a line. Comments, blank lines and malformed globs give none. White space at the end
does not count unless it is escaped. -/
def ofLine? (line : List Char) : Option IgnoreRule :=
  if line.head? = some '#' then none
  else
    let line := if ['\\', ' '].isSuffixOf line then line else Text.trimEnd line
    if line.isEmpty then none
    else
      let opened := Opened.ofLine line
      let folders := withoutFinalSlash? opened.pattern
      let glob := globText opened.anchored (folders.getD opened.pattern)
      match Glob.read false (String.ofList glob) with
      | .ok glob => some ⟨glob, opened.keeps, folders.isSome⟩
      | .error _ => none

/-- The lines of a file, without their line breaks. -/
def linesOf (content : ByteArray) : List (List UInt8) :=
  (Text.splitWhere (· == 10) content.toList).map fun line =>
    ([13].isSuffixOf? line).getD line

/-- The rules of a file, up to the first line that is no text. -/
def ofFile (content : ByteArray) : List IgnoreRule :=
  let texts := (linesOf content).map fun line => String.fromUTF8? ⟨line.toArray⟩
  let lines := ((texts.takeWhile (·.isSome)).filterMap id).map (·.toList)
  match lines with
  | [] => []
  | first :: rest => (first.dropWhile (· == '\ufeff') :: rest).filterMap ofLine?

def applies (r : IgnoreRule) (path : FilePath) (isFolder : Bool) : Bool :=
  (isFolder || !r.foldersOnly) && r.glob.accepts path.text

/-- Whether the rules keep a path; the last rule that applies decides. -/
def keeps? (rules : List IgnoreRule) (path : FilePath) (isFolder : Bool) : Option Bool :=
  ((rules.filter (·.applies path isFolder)).getLast?).map (·.keeps)

end IgnoreRule

namespace Folder

/-- The files that hold rules, by precedence. -/
def ruleFiles : List FilePath :=
  [[".ignore"], [".gitignore"], [".git", "info", "exclude"]]

def rulesAt (f : Folder) (path : FilePath) : List IgnoreRule :=
  ((f.file? path).map IgnoreRule.ofFile).getD []

/-- Whether the rules of the folders above keep a path. The nearest folder with an opinion
decides. -/
def keeps? (f : Folder) (path : FilePath) (isFolder : Bool) : Option Bool :=
  ruleFiles.findSome? fun name =>
    path.foldersAbove.findSome? fun above =>
      IgnoreRule.keeps? (f.rulesAt (above ++ name)) (path.drop above.length) isFolder

def isHidden (path : FilePath) : Bool :=
  path.getLast?.any (Text.begins · ".")

/-- Whether a walk leaves a path out: if a rule says so, or if no rule keeps it and it is hidden. -/
def leavesOut (f : Folder) (path : FilePath) (isFolder : Bool) : Bool :=
  match f.keeps? path isFolder with
  | some keeps => !keeps
  | none => isHidden path

end Folder
end ProviderCoverage

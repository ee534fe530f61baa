import ProviderCoverage.Text.Cut

/-! A folder with all that is below it, and reading files by written paths. -/

namespace ProviderCoverage

/-- The names from the top folder down to a file or folder. -/
abbrev FilePath := List String

structure StoredFile where
  path : FilePath
  content : ByteArray

/-- The files below a folder. Folders are there if they hold something. -/
structure Folder where
  files : List StoredFile

inductive FileError where
  | missing
  | notFolder
  | isFolder
  | notText
deriving DecidableEq

def FileError.message : FileError → String
  | missing => "No such file or directory (os error 2)"
  | notFolder => "Not a directory (os error 20)"
  | isFolder => "Is a directory (os error 21)"
  | notText => "stream did not contain valid UTF-8"

namespace FilePath

/-- One more step of a path: nothing and a single dot stay, and two dots go up, from the top to
where nothing is known. -/
def step (path : FilePath) (name : String) : FilePath :=
  if name = "" || name = "." then path
  else if name = ".." && path.getLast?.any (· != "..") then path.dropLast
  else path ++ [name]

/-- The file or folder that a written path leads to. -/
def ofText (path : String) : FilePath :=
  (((Text.splitOn '/' path.toList).map String.ofList)).foldl step []

def text (path : FilePath) : String :=
  "/".intercalate path

/-- The folders above, from the nearest to the top. -/
def foldersAbove (path : FilePath) : List FilePath :=
  (List.range path.length).reverse.map path.take

end FilePath

/-- A written path and what is written below it. -/
def joinPath (root below : String) : String :=
  if root.isEmpty || Text.ends root "/" then root ++ below else root ++ "/" ++ below

namespace Folder

def empty : Folder :=
  ⟨[]⟩

def file? (f : Folder) (path : FilePath) : Option ByteArray :=
  (f.files.find? (·.path == path)).map (·.content)

/-- Put a file into the folder, in place of one of the same path. -/
def write (f : Folder) (path : FilePath) (content : ByteArray) : Folder :=
  ⟨f.files.filter (·.path != path) ++ [⟨path, content⟩]⟩

/-- Whether a folder is there. The top folder always is. -/
def hasFolder (f : Folder) (path : FilePath) : Bool :=
  path.isEmpty || f.files.any fun file => path.isPrefixOf file.path && path != file.path

inductive Entry where
  | file (content : ByteArray)
  | folder

/-- What a written path leads to. Paths from the root of the file system lead nowhere. -/
def entry (f : Folder) (path : String) : Except FileError Entry :=
  let target := FilePath.ofText path
  if path.isEmpty || Text.begins path "/" then .error .missing
  else if f.hasFolder target then .ok .folder
  else match f.file? target with
    | some content => if Text.ends path "/" then .error .notFolder else .ok (.file content)
    | none =>
      if target.foldersAbove.any fun above => (f.file? above).isSome then .error .notFolder
      else .error .missing

/-- The text of a file. -/
def read (f : Folder) (path : String) : Except FileError String :=
  match f.entry path with
  | .error e => .error e
  | .ok .folder => .error .isFolder
  | .ok (.file content) =>
    match String.fromUTF8? content with
    | some text => .ok text
    | none => .error .notText

/-- Whether a written path leads to a file. -/
def isFile (f : Folder) (path : String) : Bool :=
  match f.entry path with
  | .ok (.file _) => true
  | _ => false

end Folder
end ProviderCoverage

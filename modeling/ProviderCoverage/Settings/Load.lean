import ProviderCoverage.Files.Folder
import ProviderCoverage.Settings.OfYaml
import ProviderCoverage.Settings.Validation

/-! Settings from a file: the one that is asked for, or the one in the folder to be analysed. -/

namespace ProviderCoverage

inductive SettingsLoadError where
  | unreadable (path : String)
  | malformed (path : String)
  | invalid (e : SettingsError)
deriving DecidableEq

def SettingsLoadError.message : SettingsLoadError → String
  | unreadable path => "Failed to read settings from " ++ path
  | malformed path => "Failed to parse settings from " ++ path
  | invalid e => e.message

namespace Settings

/-- The settings file of a folder. -/
def fileName : String :=
  ".tfcov.yaml"

def ofFile (f : Folder) (path : String) : Except SettingsLoadError Settings :=
  match f.read path with
  | .error _ => .error (.unreadable path)
  | .ok text =>
    match ofYaml? text with
    | some s => .ok s
    | none => .error (.malformed path)

/-- The settings for a root before they are validated. -/
def forRoot (f : Folder) (root : String) (path : Option String) :
    Except SettingsLoadError Settings :=
  let usual := joinPath root fileName
  match path with
  | some path => ofFile f path
  | none => if f.isFile usual then ofFile f usual else .ok .default

/-- Valid settings for a root: from the given file, else from the file in the root, else the
defaults. -/
def load (patterns : PatternReader) (f : Folder) (root : String) (path : Option String) :
    Except SettingsLoadError Settings :=
  match forRoot f root path with
  | .error e => .error e
  | .ok s =>
    match s.validate patterns with
    | .error e => .error (.invalid e)
    | .ok () => .ok s

end Settings
end ProviderCoverage

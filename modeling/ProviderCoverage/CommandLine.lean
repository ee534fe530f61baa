import ProviderCoverage.Analysis.Run
import ProviderCoverage.Files.Walk
import ProviderCoverage.Pattern.Syntax
import ProviderCoverage.Report.Format
import ProviderCoverage.Settings.Load

/-! The command line: its arguments, and what a call with them writes. -/

namespace ProviderCoverage.CommandLine

structure Arguments where
  paths : List String
  config : Option String
  format : Option String
  verbose : Bool
  /-- Whether findings that are errors make the call fail. -/
  check : Bool
  showUnmatched : Bool

inductive UsageError where
  | unknownOption (option : String)
  | noValue (option : String)
  | severalPaths
  | notFolder (path : String)
  | unknownFormat (name : String)
  | settings (e : SettingsLoadError)
  | run (e : RunError)

def UsageError.message : UsageError → String
  | unknownOption option => "Unknown option " ++ option
  | noValue option => "Option " ++ option ++ " needs a value"
  | severalPaths => "Expected at most one path"
  | notFolder path => path ++ " is not a directory"
  | unknownFormat name => "Unknown output format '" ++ name ++ "' (expected text or json)"
  | settings e => e.message
  | run e => e.message

namespace Arguments

def none : Arguments :=
  ⟨[], .none, .none, false, false, false⟩

/-- Arguments after those that have been read. -/
def read (a : Arguments) : List String → Except UsageError Arguments
  | [] => .ok a
  | "-v" :: rest | "--verbose" :: rest => read { a with verbose := true } rest
  | "--check" :: rest => read { a with check := true } rest
  | "--show-unmatched" :: rest => read { a with showUnmatched := true } rest
  | "-c" :: path :: rest | "--config" :: path :: rest => read { a with config := some path } rest
  | "-f" :: name :: rest | "--format" :: name :: rest => read { a with format := some name } rest
  | word :: rest =>
    if ["-c", "--config", "-f", "--format"].contains word then .error (.noValue word)
    else if Text.begins word "-" then .error (.unknownOption word)
    else read { a with paths := a.paths ++ [word] } rest

def root? (a : Arguments) (f : Folder) : Except UsageError String :=
  match a.paths with
  | [] => .ok "."
  | [path] =>
    match f.entry path with
    | .ok .folder => .ok path
    | _ => .error (.notFolder path)
  | _ => .error .severalPaths

def format? (a : Arguments) : Except UsageError Report.Format :=
  let name := a.format.getD "text"
  match Report.Format.ofName? name with
  | some f => .ok f
  | .none => .error (.unknownFormat name)

end Arguments

/-- What a call writes, and whether it succeeds. -/
structure Answer where
  output : String
  notes : String
  succeeds : Bool

def notice (root : String) : String :=
  styled [.blue, .bold] "->" ++ " Analysing " ++ root ++ "...\n"

/-- The analysis of the files in a folder, as the arguments ask for it. -/
def analyse (a : Arguments) (f : Folder) : Except UsageError Answer := do
  let root ← a.root? f
  let format ← a.format?
  let s ← (Settings.load Pattern.finder? f root a.config).mapError .settings
  let cache ← (SessionCache.ofSettings s).mapError fun e => .settings (.invalid e)
  let (_, analysis) := Analysis.run cache 0 0 root s Pattern.finder? Binary64.nearest
    fun filter => .ok (.ofWalk filter f root)
  let analysis ← analysis.mapError .run
  pure {
    output := Report.render analysis format (.ofSettings s a.verbose a.showUnmatched)
    notes := if format = .terminal then notice root else ""
    succeeds := !(a.check && analysis.hasErrors) }

/-- The answer to a call with these words, in a folder with these files. -/
def answer (words : List String) (f : Folder) : Answer :=
  match (Arguments.none.read words).bind (analyse · f) with
  | .ok answer => answer
  | .error e => ⟨"", "Error: " ++ e.message ++ "\n", false⟩

end ProviderCoverage.CommandLine

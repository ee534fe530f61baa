import ProviderCoverage.Analysis.Basic
import ProviderCoverage.Registry.Build
import ProviderCoverage.Session.Cache

/-! An analysis from sources on: the registry is built through a session cache, for a session of
its own that is released again. -/

namespace ProviderCoverage

inductive RunError where
  | settings (e : SettingsError)
  | build (e : BuildError)
  /-- The session is in use, and its build is on its way. -/
  | inFlight
deriving DecidableEq

def RunError.message : RunError → String
  | settings e => e.message
  | build e => e.message
  | inFlight => "the session is in use"

/-- An empty cache with the lifetime that the settings give its entries. -/
def SessionCache.ofSettings {α : Type} (s : Settings) : Except SettingsError (SessionCache α) :=
  s.cacheLifetime.map .empty

/-- The registry of the sources that are loaded, with the warnings about them. -/
structure Loaded where
  registry : Registry
  warnings : List String

/-- Load sources and build their registry. Loading may fail or panic. -/
def Loaded.build (s : Settings) (patterns : PatternReader) (rounding : Rounding)
    (load : Unit → Outcome Sources) : Outcome Loaded :=
  match load () with
  | .error e => .error e
  | .ok sources =>
    match Registry.build s patterns rounding sources.files with
    | .error e => .error (.failed e.message)
    | .ok registry => .ok ⟨registry, sources.warnings⟩

namespace Analysis

/-- The report on what was loaded. -/
def ofLoaded (root : String) (s : Settings) (patterns : PatternReader) (l : Loaded) :
    Except RunError Analysis :=
  match ofRegistry root l.registry s patterns with
  | .error e => .error (.settings e)
  | .ok a => .ok { a with warnings := l.warnings }

/-- Analyse a root in a session of its own. -/
def run (cache : SessionCache Loaded) (session : SessionId) (now : Nat) (root : String)
    (s : Settings) (patterns : PatternReader) (rounding : Rounding)
    (load : FileFilter → Outcome Sources) : SessionCache Loaded × Except RunError Analysis :=
  match FileFilter.ofSettings s with
  | .error e => (cache, .error (.settings e))
  | .ok filter =>
    let fetched := cache.get session now fun _ =>
      Loaded.build s patterns rounding fun _ => load filter
    match fetched.outcome with
    | none => (fetched.cache, .error .inFlight)
    | some (.error e) => (fetched.cache, .error (.build e))
    | some (.ok loaded) => ((fetched.cache.release session).1, ofLoaded root s patterns loaded)

end Analysis
end ProviderCoverage

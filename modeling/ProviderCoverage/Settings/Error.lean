import ProviderCoverage.Glob.Syntax
import ProviderCoverage.Settings.Basic

/-! What can be wrong with settings. -/

namespace ProviderCoverage

inductive SettingsError where
  | thresholdOutOfRange (threshold : Binary64)
  | thresholdTooLow (threshold : Binary64)
  | badCacheTtl (value : String) (reason : Duration.ParseError)
  | noAnalyzer
  | badNamingPattern (pattern : String)
  | badGlob (setting glob : String) (reason : GlobError)
  | badEntry (setting entry expected : String)
deriving DecidableEq

def SettingsError.message : SettingsError → String
  | thresholdOutOfRange t =>
    "fuzzy-match-threshold must be between 0.0 and 1.0, got " ++ t.shortest
  | thresholdTooLow t =>
    "fuzzy-match-threshold must be at least 0.5 when fuzzy matching is enabled, got " ++ t.shortest
  | badCacheTtl value reason =>
    "invalid cache-ttl " ++ Text.quoted value ++ ": " ++ reason.message
  | noAnalyzer => "at least one analyzer must be enabled"
  | badNamingPattern pattern => "invalid resource-naming-pattern " ++ Text.quoted pattern
  | badGlob setting glob reason =>
    "invalid glob " ++ Text.quoted glob ++ " in " ++ setting ++ ": " ++ reason.message glob
  | badEntry setting entry expected =>
    "invalid entry " ++ Text.quoted entry ++ " in " ++ setting ++ ": expected " ++ expected

end ProviderCoverage

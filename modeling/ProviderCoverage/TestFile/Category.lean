import ProviderCoverage.AcceptanceTest
import ProviderCoverage.Text.Cut

/-! What a test is about: an entity if its configuration has blocks, and else what its name and
file say. -/

namespace ProviderCoverage.TestCategory

def includesAny (s : String) (parts : List String) : Bool :=
  parts.any (Text.includes s)

def namesProvider (name : String) : Bool :=
  includesAny name ["ProviderConfig", "ProviderMeta", "ProviderBasePath", "ProviderCredentials",
    "ProviderEmptyStrings", "UniverseDomain"]
    || Text.begins name "TestAccProvider" || Text.begins name "TestAccFrameworkProvider"

def namesFunction (name : String) : Bool :=
  includesAny name ["ProviderFunction", "Parse_", "Function_"] || Text.ends name "ParseFunction"

def isFunctionFile (path : String) : Bool :=
  includesAny path ["/functions/", "/testing/"] || Text.ends path "_function_test.go"

def isProviderFile (path : String) : Bool :=
  includesAny path ["provider_test.go", "provider_config", "framework_provider_test.go",
    "universe_domain"]

/-- The first rule that applies decides. -/
def classify (blocks : List Block) (name path : String) : TestCategory :=
  if !blocks.isEmpty then .entity
  else if namesProvider name then .providerConfig
  else if namesFunction name then .function
  else if isFunctionFile path then .function
  else if isProviderFile path then .providerConfig
  else .integration

end ProviderCoverage.TestCategory

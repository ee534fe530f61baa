import ProviderCoverage.Go.SourceFile
import ProviderCoverage.Text.NameSet
import ProviderCoverage.Unicode.Case

/-! The test harness: the package that runs acceptance tests, its entry points, and functions of
the provider's own that call them. -/

namespace ProviderCoverage.Harness

open Go Node

def packages : List String :=
  ["github.com/hashicorp/terraform-plugin-testing/helper/resource",
   "github.com/hashicorp/terraform-plugin-sdk/v2/helper/resource",
   "github.com/hashicorp/terraform-plugin-sdk/helper/resource"]

def entryPoints : List String :=
  ["Test", "ParallelTest", "UnitTest"]

/-- The names under which a file imports the harness. -/
def aliases (f : SourceFile) : List String :=
  (f.imports.filter (packages.contains ·.path)).map (·.localName)

/-- Whether a call is to an entry point of the harness under one of these names. -/
def isEntryPoint (aliases : List String) (target : CallTarget) : Bool :=
  target.operand.any aliases.contains && entryPoints.contains target.name

/-- Whether one of the parameters is a `*testing.T`. -/
def takesTestingT (parameters : Node) : Bool :=
  (parameterTypes parameters).any fun type =>
    type.hasShape .pointerType && type.qualifiedParts? == some ("testing", "T")

def isExported (name : String) : Bool :=
  name.toList.head?.any Unicode.isUppercase

/-- Whether a function wraps the harness: it is exported, takes a `*testing.T` and calls an entry
point. -/
def isWrapper (aliases : List String) (g : Function) : Bool :=
  g.receiver.isNone && isExported g.name && !Text.begins g.name "Test"
    && takesTestingT g.parameters
    && g.body.any fun body =>
      body.calls.any fun call => call.callTarget?.any (isEntryPoint aliases)

/-- The wrappers in the test files, in order of their names. -/
def localHelpers (files : List SourceFile) : List String :=
  NameSet.ofList ((files.filter (·.isTest)).flatMap fun f =>
    (f.functions.filter (isWrapper (aliases f))).map (·.name))

/-- Whether a file registers sweepers with the harness. -/
def registersSweepers (f : SourceFile) : Bool :=
  f.tree.calls.any fun call =>
    call.callTarget?.any fun target =>
      target.name == "AddTestSweepers"
        && target.operand.any fun op => op == "resource" || (aliases f).contains op

end ProviderCoverage.Harness

import ProviderCoverage.Settings.Validation
import ProviderCoverage.TestFile.Category
import ProviderCoverage.TestFile.Harness
import ProviderCoverage.TestFile.Steps

/-! The acceptance tests of a test file: functions called `Test…` whose body reaches the harness,
by an entry point, a helper, or a `TestCase` literal handed to any call. -/

namespace ProviderCoverage

open Go Node

/-- What the functions of a file share. -/
structure TestScope where
  /-- The names under which the harness is imported. -/
  aliases : List String
  helpers : TestStep.HelperBlocks

namespace TestScope

def ofFile (f : SourceFile) : TestScope :=
  ⟨Harness.aliases f, TestStep.helperBlocks f.functions⟩

/-- A literal of the harness type `TestCase`. -/
def testCase? (scope : TestScope) (n : Node) : Option Node :=
  n.composite?.bind fun literal =>
    match literal.compositeType?.bind (·.qualifiedParts?) with
    | some (package, "TestCase") => if scope.aliases.contains package then some literal else none
    | _ => none

/-- The local names that a test case is assigned to, in order. -/
def bindings (scope : TestScope) (body : Node) : List (String × Node) :=
  body.assignments.filterMap fun (left, right) =>
    match left.simpleName?, scope.testCase? right with
    | some name, some literal => some (name, literal)
    | _, _ => none

/-- The test case that an argument is, directly or by a local name. Of several test cases of one
name the first counts. -/
def argumentCase? (scope : TestScope) (bindings : List (String × Node)) (argument : Node) :
    Option Node :=
  match scope.testCase? argument with
  | some literal => some literal
  | none => argument.unparenthesized.simpleName?.bind (List.lookup · bindings)

/-- A literal of type `[]TestStep`. -/
def stepList? (scope : TestScope) (n : Node) : Option Node :=
  n.composite?.bind fun literal =>
    match literal.compositeType? with
    | some (.branch .sliceType [_, _, element]) =>
      match element.qualifiedParts? with
      | some (package, "TestStep") =>
        if scope.aliases.contains package then some literal else none
      | _ => none
    | _ => none

/-- What a call is handed: a test case or a list of steps. -/
inductive Handed where
  | testCase (literal : Node)
  | steps (literal : Node)

def handed? (scope : TestScope) (bindings : List (String × Node)) (argument : Node) :
    Option Handed :=
  match scope.argumentCase? bindings argument with
  | some literal => some (.testCase literal)
  | none => (scope.stepList? argument).map .steps

/-- All that the calls of a body are handed, in order. -/
def handed (scope : TestScope) (body : Node) : List Handed :=
  (body.calls.flatMap (·.callArguments)).filterMap (scope.handed? (scope.bindings body))

/-- Drop a test case that is handed on again. -/
def distinctCases (seen : List Node) : List Handed → List Handed
  | [] => []
  | .steps n :: rest => .steps n :: distinctCases seen rest
  | .testCase n :: rest =>
    if n ∈ seen then distinctCases seen rest
    else .testCase n :: distinctCases (n :: seen) rest

def fieldsOf (literal : Node) : List KeyedElement :=
  (literal.literalBody?.map (·.keyedElements)).getD []

def hasField (name : String) : Handed → Bool
  | .testCase literal => (fieldsOf literal).any (·.key.text == name)
  | .steps _ => false

def stepsOfBody (scope : TestScope) (value : Node) : List TestStep :=
  match value.literalBody? with
  | some body => TestStep.ofList scope.helpers body
  | none => []

def stepsOf (scope : TestScope) : Handed → List TestStep
  | .testCase literal =>
    ((fieldsOf literal).filter (·.key.text == "Steps")).flatMap fun e => scope.stepsOfBody e.value
  | .steps literal => scope.stepsOfBody literal

end TestScope

/-- How tests are recognised. -/
structure TestReader where
  settings : Settings
  /-- Wrappers of the harness, from all test files. -/
  localHelpers : List String

namespace TestReader

/-- How a call is written when it counts as the entry point. -/
def callName : Option CallTarget → String
  | some ⟨some operand, name⟩ => operand ++ "." ++ name
  | some ⟨none, name⟩ => name
  | none => "TestCase"

/-- Whether the function that is called runs acceptance tests. -/
def runsTests (r : TestReader) (scope : TestScope) : CallTarget → Bool
  | ⟨some operand, name⟩ =>
    Harness.isEntryPoint scope.aliases ⟨some operand, name⟩
      || r.settings.helperPairs.contains (operand, name)
  | ⟨none, name⟩ => r.localHelpers.contains name

/-- The first call of a body that reaches the harness, as it is written. -/
def entryPoint? (r : TestReader) (scope : TestScope) (body : Node) : Option String :=
  let bindings := scope.bindings body
  body.calls.findSome? fun call =>
    let target := call.callTarget?
    if target.any (r.runsTests scope)
        || call.callArguments.any fun a => (scope.argumentCase? bindings a).isSome then
      some (callName target)
    else none

/-- A test from the body of its function. -/
def ofBody (scope : TestScope) (name : String) (location : Location) (helper : String)
    (body : Node) : AcceptanceTest :=
  let handed := TestScope.distinctCases [] (scope.handed body)
  let steps := handed.flatMap scope.stepsOf
  let blocks := (steps.flatMap (·.blocks)).eraseDups
  { name, location, steps, blocks, helper
    category := TestCategory.classify blocks name location.file
    hasCheckDestroy := handed.any (TestScope.hasField "CheckDestroy")
    hasPreCheck := handed.any (TestScope.hasField "PreCheck")
    hasImportStep := steps.any (·.importState)
    hasErrorCase := steps.any (·.expectError)
    matchType := .unmatched
    confidence := 0
    linkedKey? := none }

def ofFunction? (r : TestReader) (f : SourceFile) (scope : TestScope) (g : Function) :
    Option AcceptanceTest :=
  if g.receiver.isSome || !Text.begins g.name "Test" || !r.settings.admitsTestName g.name then none
  else match g.body with
    | none => none
    | some body =>
      (r.entryPoint? scope body).map fun helper =>
        ofBody scope g.name (f.location g.node) helper body

/-- What is read of a function is a test of its body. -/
theorem ofFunction?_eq_some {r : TestReader} {f : SourceFile} {scope : TestScope} {g : Function}
    {t : AcceptanceTest} (h : r.ofFunction? f scope g = some t) :
    ∃ body helper, g.body = some body ∧
      t = ofBody scope g.name (f.location g.node) helper body := by
  rw [ofFunction?] at h
  split at h
  · cases h
  · split at h
    · cases h
    · next body hbody =>
      obtain ⟨helper, -, rfl⟩ := Option.map_eq_some_iff.mp h
      exact ⟨body, helper, hbody, rfl⟩

/-- The acceptance tests of a file, in order. -/
def tests (r : TestReader) (f : SourceFile) : List AcceptanceTest :=
  f.functions.filterMap (r.ofFunction? f (TestScope.ofFile f))

end TestReader
end ProviderCoverage

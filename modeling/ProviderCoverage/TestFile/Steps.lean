import ProviderCoverage.Block
import ProviderCoverage.Digest.Blake3
import ProviderCoverage.Go.SourceFile

/-! Steps of test cases, read from their literals. -/

namespace ProviderCoverage

open Go

namespace Go.Node

mutual

/-- The blocks in the strings of an expression: those of a literal, of both sides of a sum, and of
the arguments of a call. -/
def blocks : Node → List Block
  | leaf t =>
    match StringLiteral.ofToken? t with
    | some s => Block.scan none s
    | none => []
  | branch .parenthesized [_, inner, _] => inner.blocks
  | branch .binary [left, op, right] =>
    if op.text = "+" then left.blocks ++ right.blocks else []
  | branch .call [_, _, branch .arguments arguments] => listBlocks arguments
  | _ => []

def listBlocks : List Node → List Block
  | [] => []
  | n :: ns => n.blocks ++ listBlocks ns

end

end Go.Node

namespace TestStep

open Node

/-- The blocks that functions return, by the function's name. -/
abbrev HelperBlocks := List (String × List Block)

/-- The blocks in the return statements of the functions of a file, methods included. -/
def helperBlocks (functions : List Function) : HelperBlocks :=
  functions.filterMap fun g =>
    match g.body with
    | none => none
    | some body =>
      let blocks := body.returnedExpressions.flatMap (·.blocks)
      if blocks.isEmpty then none else some (g.name, blocks)

/-- Of several functions of one name the last counts. -/
def HelperBlocks.get (helpers : HelperBlocks) (name : String) : List Block :=
  ((helpers.reverse).lookup name).getD []

/-- The blocks of a configuration: those in the expression, then those of the function it calls. -/
def configBlocks (helpers : HelperBlocks) (value : Node) : List Block :=
  let called := match value.unparenthesized.callTarget? with
    | some ⟨none, helper⟩ => helpers.get helper
    | _ => []
  value.blocks ++ called

/-- The functions of packages that are called in a check. -/
def checkFunctionsOf (value : Node) : List String :=
  value.calls.filterMap fun call =>
    match call.callTarget? with
    | some ⟨some _, name⟩ => some name
    | _ => none

def blank (index : Nat) : TestStep where
  index := index
  hasConfig := false
  fingerprint := ""
  previousFingerprint := ""
  hasCheck := false
  hasStateCheck := false
  hasPlanCheck := false
  importState := false
  importStateVerify := false
  expectError := false
  expectNonEmptyPlan := false
  refreshState := false
  checkFunctions := []
  blocks := []

def withField (helpers : HelperBlocks) (s : TestStep) (field : KeyedElement) : TestStep :=
  let value := field.value
  match field.key.text with
  | "Config" =>
    { s with
      hasConfig := true
      fingerprint := Digest.fingerprint value.normalizedText
      blocks := (s.blocks ++ configBlocks helpers value).eraseDups }
  | "Check" =>
    { s with hasCheck := true, hasStateCheck := true, checkFunctions := checkFunctionsOf value }
  | "ConfigStateChecks" => { s with hasStateCheck := true }
  | "ConfigPlanChecks" => { s with hasPlanCheck := true }
  | "ImportState" => { s with importState := value.isTrue }
  | "ImportStateVerify" => { s with importStateVerify := value.isTrue }
  | "ExpectNonEmptyPlan" => { s with expectNonEmptyPlan := value.isTrue }
  | "RefreshState" => { s with refreshState := value.isTrue }
  | "ExpectError" => { s with expectError := true }
  | _ => s

def ofElement (helpers : HelperBlocks) (index : Nat) (element : Node) : TestStep :=
  match element.literalBody? with
  | some body => body.keyedElements.foldl (withField helpers) (blank index)
  | none => blank index

/-- Give each step the fingerprint of the one before. -/
def chain (previous : String) : List TestStep → List TestStep
  | [] => []
  | s :: rest => { s with previousFingerprint := previous } :: chain s.fingerprint rest

@[simp] theorem length_chain (previous : String) (steps : List TestStep) :
    (chain previous steps).length = steps.length := by
  induction steps generalizing previous with
  | nil => rfl
  | cons s rest ih => simp [chain, ih]

/-- The steps of one list. -/
def ofList (helpers : HelperBlocks) (body : Node) : List TestStep :=
  chain "" (body.positionalElements.mapIdx (ofElement helpers))

end TestStep
end ProviderCoverage

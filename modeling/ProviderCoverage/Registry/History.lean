import ProviderCoverage.Registry.Basic

/-! The operations that change a registry, and the registries that a sequence of them reaches.

Every operation is one step, apart from linking by a bare name: the name is looked up in one step,
the test is linked in another, and other callers can come between. -/

namespace ProviderCoverage.Registry

inductive Operation where
  | registerEntity (e : Entity)
  | registerTest (t : AcceptanceTest)
  | link (id : TestId) (key : EntityKey) (matchType : MatchType) (confidence : Rat)
  | linkByName (id : TestId) (name : String) (matchType : MatchType) (confidence : Rat)
  | registerSweeperFile (file : String)

inductive Answer where
  | registered (new : Bool)
  | test (id : TestId)
  | linked
  | resolved (key : EntityKey)
  | refused (error : RegistryError)
  | noted
deriving DecidableEq

/-- The answer to an operation with this outcome. -/
def Answer.ofOutcome {α : Type} (done : α → Answer) : Except RegistryError α → Answer
  | .ok a => done a
  | .error e => refused e

/-- Tests enter a registry unlinked, with any match type and confidence. -/
def Operation.Admissible : Operation → Prop
  | registerTest t => t.linkedKey? = none
  | _ => True

def apply (r : Registry) : Operation → Registry × Answer
  | .registerEntity e =>
    let (r, new) := r.registerEntity e
    (r, .registered new)
  | .registerTest t =>
    let (r, id) := r.registerTest t
    (r, .test id)
  | .link id key matchType confidence =>
    let (r, outcome) := r.link id key matchType confidence
    (r, .ofOutcome (fun _ => .linked) outcome)
  | .linkByName id name matchType confidence =>
    let (r, outcome) := r.linkByName id name matchType confidence
    (r, .ofOutcome .resolved outcome)
  | .registerSweeperFile file => (r.registerSweeperFile file, .noted)

def run (r : Registry) (ops : List Operation) : Registry :=
  ops.foldl (fun r op => (r.apply op).1) r

/-- What the operations answer, one after the other. -/
def answers (r : Registry) : List Operation → List Answer
  | [] => []
  | op :: ops => (r.apply op).2 :: (r.apply op).1.answers ops

/-- The second step of linking by a bare name, with the key that the first step has found. -/
def linkFound (r : Registry) (found : Option EntityKey) (id : TestId) (name : String)
    (matchType : MatchType) (confidence : Rat) : Registry × Answer :=
  match found with
  | none => (r, .refused (.unknownEntity ⟨.resource, name⟩))
  | some key =>
    let (r, outcome) := r.link id key matchType confidence
    (r, .ofOutcome (fun _ => .resolved key) outcome)

/-- Nothing comes between the two steps of the operation. -/
theorem apply_linkByName (r : Registry) (id : TestId) (name : String) (matchType : MatchType)
    (confidence : Rat) : r.apply (.linkByName id name matchType confidence) =
      r.linkFound (r.resolve? name) id name matchType confidence := by
  rw [apply, linkByName]
  cases r.resolve? name with
  | none => rfl
  | some key =>
    rw [linkFound]
    dsimp only
    cases (r.link id key matchType confidence).2 <;> rfl

/-- Linking by a bare name with other operations between its two steps. -/
def linkByNameAround (r : Registry) (others : List Operation) (id : TestId) (name : String)
    (matchType : MatchType) (confidence : Rat) : Registry × Answer :=
  (r.run others).linkFound (r.resolve? name) id name matchType confidence

/-- A registry that operations lead to from the empty one. -/
def Reachable (r : Registry) : Prop :=
  ∃ ops : List Operation, (∀ op ∈ ops, op.Admissible) ∧ empty.run ops = r

end ProviderCoverage.Registry

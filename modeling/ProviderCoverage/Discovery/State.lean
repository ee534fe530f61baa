import ProviderCoverage.Entity

/-! The entities found so far in one file, and the types that implement them.

Names that are guessed from type names are provisional. A later discovery that knows the name of a
type for certain renames the entity of that type and keeps what was learned about it. -/

namespace ProviderCoverage

inductive Discovery where
  /-- Add the entity unless its key is taken. -/
  | insert (e : Entity) (receiver : Option String)
  /-- Give the entity of this receiver its name, or add it if the receiver has none. -/
  | rename (receiver : String) (e : Entity)

structure DiscoveryState where
  /-- In the order in which they were found. -/
  entities : List Entity
  receivers : List (String × EntityKey)

namespace DiscoveryState

def empty : DiscoveryState :=
  ⟨[], []⟩

def entity? (s : DiscoveryState) (key : EntityKey) : Option Entity :=
  s.entities.find? (·.key = key)

def contains (s : DiscoveryState) (key : EntityKey) : Bool :=
  (s.entity? key).isSome

def keyOf? (s : DiscoveryState) (receiver : String) : Option EntityKey :=
  s.receivers.lookup receiver

/-- The entity of a receiver. -/
def byReceiver? (s : DiscoveryState) (receiver : String) : Option Entity :=
  (s.keyOf? receiver).bind s.entity?

def receiverOf? (s : DiscoveryState) (key : EntityKey) : Option String :=
  (s.receivers.find? (·.2 = key)).map (·.1)

/-- Index an entity under its receiver, unless the receiver has one. -/
def index (receivers : List (String × EntityKey)) (receiver : Option String) (key : EntityKey) :
    List (String × EntityKey) :=
  match receiver with
  | none => receivers
  | some r => if (receivers.lookup r).isSome then receivers else receivers ++ [(r, key)]

def insert (s : DiscoveryState) (e : Entity) (receiver : Option String) : DiscoveryState :=
  if s.contains e.key then s
  else ⟨s.entities ++ [e], index s.receivers receiver e.key⟩

/-- Nothing found is lost by adding. -/
theorem contains_insert (s : DiscoveryState) (e : Entity) (receiver : Option String)
    (key : EntityKey) :
    (s.insert e receiver).contains key = (s.contains key || e.key == key) := by
  unfold insert
  split
  · next h =>
    by_cases hk : e.key = key
    · subst hk; simp [h]
    · simp [hk]
  · by_cases hk : e.key = key <;> simp [contains, entity?, List.find?_append, hk]

/-- A known entity under its new name: its place and attributes stay, if it had any. -/
def renamed (old new : Entity) : Entity where
  key := new.key
  location := old.location
  attributes := if old.attributes.isEmpty then new.attributes else old.attributes
  importable := old.importable || new.importable

def withoutReceiver (s : DiscoveryState) (receiver : String) : List (String × EntityKey) :=
  s.receivers.filter (·.1 != receiver)

/-- Name the entity of a receiver. If the name is taken, the provisional entity is dropped. -/
def rename (s : DiscoveryState) (receiver : String) (e : Entity) : DiscoveryState :=
  match s.keyOf? receiver with
  | none => s.insert e (some receiver)
  | some oldKey =>
    if oldKey = e.key then s
    else if !s.contains oldKey then s.insert e (some receiver)
    else if s.contains e.key then
      ⟨s.entities.filter (·.key ≠ oldKey), s.withoutReceiver receiver⟩
    else
      ⟨s.entities.map fun x => if x.key = oldKey then renamed x e else x,
        s.withoutReceiver receiver ++ [(receiver, e.key)]⟩

def apply (s : DiscoveryState) : Discovery → DiscoveryState
  | .insert e receiver => s.insert e receiver
  | .rename receiver e => s.rename receiver e

def applyAll (s : DiscoveryState) (ds : List Discovery) : DiscoveryState :=
  ds.foldl apply s

/-- A state that discoveries lead to from the empty one. -/
def Reachable (s : DiscoveryState) : Prop :=
  ∃ ds, empty.applyAll ds = s

end DiscoveryState
end ProviderCoverage

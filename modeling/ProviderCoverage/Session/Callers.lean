import ProviderCoverage.Session.Cache

/-! Callers of a session cache that run at the same time. Each takes a few steps, each of which
happens at once, and the steps of several callers come in any order, with releases and the passing
of time between them. -/

namespace ProviderCoverage

inductive CallerState (α : Type) where
  /-- It leads, and its build runs. -/
  | building (entry : EntryId)
  /-- Its build has failed, and the entry may still be in the map. -/
  | failing (entry : EntryId) (e : BuildError)
  /-- The outcome is known to it alone. -/
  | landing (entry : EntryId) (outcome : Outcome α)
  /-- It waits for the leader. -/
  | waiting (entry : EntryId)
  | returned (entry : EntryId) (outcome : Outcome α)

structure Caller (α : Type) where
  session : SessionId
  state : CallerState α
  /-- Whether it made its entry. -/
  leads : Bool

/-- A cache with the callers so far. -/
structure SessionMachine (α : Type) where
  cache : SessionCache α
  now : Nat
  callers : List (Caller α)
  /-- The entries whose builds have run, the latest last. -/
  built : List EntryId

inductive SessionEvent (α : Type) where
  | call (s : SessionId)
  /-- The build of a leader ends. -/
  | build (caller : Nat) (outcome : Outcome α)
  | forget (caller : Nat)
  | land (caller : Nat)
  /-- A waiting caller sees the outcome. -/
  | wake (caller : Nat)
  | release (s : SessionId)
  | clear
  | pass (time : Nat)

namespace SessionMachine

variable {α : Type}

def start (cache : SessionCache α) (now : Nat) : SessionMachine α :=
  ⟨cache, now, [], []⟩

def moveTo (m : SessionMachine α) (caller : Nat) (state : CallerState α) : SessionMachine α :=
  { m with callers := m.callers.modify caller fun c => { c with state } }

def call (m : SessionMachine α) (s : SessionId) : SessionMachine α :=
  let joined := m.cache.join s m.now
  let state := if joined.leads then .building joined.entry else .waiting joined.entry
  { m with cache := joined.cache, callers := m.callers ++ [⟨s, state, joined.leads⟩] }

/-- The machine after an event. An event that cannot happen changes nothing. -/
def apply (m : SessionMachine α) : SessionEvent α → SessionMachine α
  | .call s => m.call s
  | .build caller outcome =>
    match m.callers[caller]? with
    | some ⟨_, .building id, _⟩ =>
      let state := match outcome with
        | .ok _ => .landing id outcome
        | .error e => .failing id e
      { m.moveTo caller state with built := m.built ++ [id] }
    | _ => m
  | .forget caller =>
    match m.callers[caller]? with
    | some ⟨s, .failing id e, _⟩ =>
      { m.moveTo caller (.landing id (.error e)) with cache := m.cache.forget s id }
    | _ => m
  | .land caller =>
    match m.callers[caller]? with
    | some ⟨_, .landing id outcome, _⟩ =>
      { m.moveTo caller (.returned id outcome) with cache := m.cache.land id outcome }
    | _ => m
  | .wake caller =>
    match m.callers[caller]? with
    | some ⟨_, .waiting id, _⟩ =>
      match m.cache.flight? id with
      | some (.landed outcome) => m.moveTo caller (.returned id outcome)
      | _ => m
    | _ => m
  | .release s => { m with cache := (m.cache.release s).1 }
  | .clear => { m with cache := m.cache.clear }
  | .pass time => { m with now := m.now + time }

def run (m : SessionMachine α) (events : List (SessionEvent α)) : SessionMachine α :=
  events.foldl apply m

/-- A machine that events lead to from one with an empty cache. -/
def Reachable (lifetime : Option Nat) (m : SessionMachine α) : Prop :=
  ∃ events, (start (.empty lifetime) 0).run events = m

/-- Callers of one session that all look it up before any build ends. -/
def together (s : SessionId) (count : Nat) (outcome : Outcome α) : List (SessionEvent α) :=
  let callers := List.range count
  callers.map (fun _ => .call s)
    ++ callers.flatMap (fun caller => [.build caller outcome, .forget caller, .land caller])
    ++ callers.map .wake

end SessionMachine
end ProviderCoverage

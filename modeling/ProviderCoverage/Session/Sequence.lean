import Mathlib.Data.Finmap
import ProviderCoverage.Session.Cache

/-! A session cache whose calls come one after the other, so that every build has ended when the
next call comes, and the map that such a cache stands for: of each session the last build that
succeeded, with the time at which it began. -/

namespace ProviderCoverage

inductive SessionCall (α : Type) where
  | get (s : SessionId) (build : Unit → Outcome α)
  | release (s : SessionId)
  | clear
  /-- Time goes by before the next call. -/
  | pass (time : Nat)

inductive SessionAnswer (α : Type) where
  /-- The object of this entry, or why there is none, and whether the build was run for it. -/
  | fetched (entry : EntryId) (outcome : Option (Outcome α)) (built : Bool)
  /-- Whether there was anything to release. -/
  | released (found : Bool)
  | done

/-- A cache, and the time of the next call. -/
structure TimedCache (α : Type) where
  cache : SessionCache α
  now : Nat

namespace TimedCache

variable {α : Type}

def empty (lifetime : Option Nat) : TimedCache α :=
  ⟨.empty lifetime, 0⟩

/-- The cache after a call, and what the caller gets. -/
def apply (c : TimedCache α) : SessionCall α → TimedCache α × SessionAnswer α
  | .get s build =>
    let fetched := c.cache.get s c.now build
    ({ c with cache := fetched.cache }, .fetched fetched.entry fetched.outcome fetched.built)
  | .release s =>
    let (cache, found) := c.cache.release s
    ({ c with cache }, .released found)
  | .clear => ({ c with cache := c.cache.clear }, .done)
  | .pass time => ({ c with now := c.now + time }, .done)

def run (c : TimedCache α) (calls : List (SessionCall α)) : TimedCache α :=
  calls.foldl (fun c call => (c.apply call).1) c

end TimedCache

/-- A build that has succeeded. -/
structure Kept (α : Type) where
  /-- When it began. -/
  start : Nat
  entry : EntryId
  object : α

/-- What callers of a cache can tell of it. -/
structure SessionMap (α : Type) where
  lifetime : Option Nat
  now : Nat
  /-- How many builds have been run. They number the objects. -/
  builds : Nat
  kept : Finmap fun _ : SessionId => Kept α

namespace SessionMap

variable {α : Type}

def empty (lifetime : Option Nat) : SessionMap α :=
  ⟨lifetime, 0, 0, ∅⟩

/-- Whether a build began too long ago. -/
def isOld (m : SessionMap α) (k : Kept α) : Bool :=
  m.lifetime.any (· ≤ m.now - k.start)

/-- The build of the session, unless it began too long ago. -/
def current? (m : SessionMap α) (s : SessionId) : Option (Kept α) :=
  (m.kept.lookup s).filter (!m.isOld ·)

/-- A build takes the place of the one before it, or leaves none if it fails. -/
def replace (m : SessionMap α) (s : SessionId) (outcome : Outcome α) : SessionMap α :=
  { m with
    builds := m.builds + 1
    kept := match outcome with
      | .ok object => m.kept.insert s ⟨m.now, m.builds, object⟩
      | .error _ => m.kept.erase s }

def get (m : SessionMap α) (s : SessionId) (build : Unit → Outcome α) :
    SessionMap α × SessionAnswer α :=
  match m.current? s with
  | some k => (m, .fetched k.entry (some (.ok k.object)) false)
  | none =>
    let outcome := build ()
    (m.replace s outcome, .fetched m.builds (some outcome) true)

def apply (m : SessionMap α) : SessionCall α → SessionMap α × SessionAnswer α
  | .get s build => m.get s build
  | .release s => ({ m with kept := m.kept.erase s }, .released (m.kept.lookup s).isSome)
  | .clear => ({ m with kept := ∅ }, .done)
  | .pass time => ({ m with now := m.now + time }, .done)

def run (m : SessionMap α) (calls : List (SessionCall α)) : SessionMap α :=
  calls.foldl (fun m call => (m.apply call).1) m

end SessionMap
end ProviderCoverage

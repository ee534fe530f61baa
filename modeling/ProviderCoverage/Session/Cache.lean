/-! A cache of what has been built for each session. The first caller for a session builds, and
callers that come meanwhile wait for the same outcome. A failed build is forgotten, and an entry
older than the lifetime counts as absent.

Times are in nanoseconds from some start. -/

namespace ProviderCoverage

abbrev SessionId := Nat

/-- An entry's position in the order in which entries were made. It tells entries apart, so two
callers have the same object if they have the same entry. -/
abbrev EntryId := Nat

inductive BuildError where
  | failed (message : String)
  | panicked (message : String)
deriving DecidableEq

def BuildError.message : BuildError → String
  | failed message => "registry build failed: " ++ message
  | panicked message => "registry build panicked: " ++ message

/-- What a build leads to. -/
abbrev Outcome (α : Type) := Except BuildError α

inductive Flight (α : Type) where
  | building
  | landed (outcome : Outcome α)

def Flight.isBuilding {α : Type} : Flight α → Bool
  | building => true
  | landed _ => false

structure SessionEntry (α : Type) where
  session : SessionId
  createdAt : Nat
  flight : Flight α

structure SessionCache (α : Type) where
  /-- How long an entry lives, or `none` if none expires. -/
  lifetime : Option Nat
  /-- All entries ever made. -/
  entries : List (SessionEntry α)
  /-- The entry that each session has now. -/
  current : List (SessionId × EntryId)

namespace SessionCache

variable {α : Type}

def empty (lifetime : Option Nat) : SessionCache α :=
  ⟨lifetime, [], []⟩

def entryAt? (c : SessionCache α) (id : EntryId) : Option (SessionEntry α) :=
  c.entries[id]?

def flight? (c : SessionCache α) (id : EntryId) : Option (Flight α) :=
  (c.entryAt? id).map (·.flight)

def idOf? (c : SessionCache α) (s : SessionId) : Option EntryId :=
  c.current.lookup s

/-- Whether an entry is too old. A build on its way never expires. -/
def isExpired (c : SessionCache α) (now : Nat) (e : SessionEntry α) : Bool :=
  c.lifetime.any (· ≤ now - e.createdAt) && !e.flight.isBuilding

/-- The session's entry, if it has one that is not too old. -/
def live? (c : SessionCache α) (s : SessionId) (now : Nat) : Option EntryId :=
  (c.idOf? s).filter fun id => (c.entryAt? id).any (!c.isExpired now ·)

def without (s : SessionId) (current : List (SessionId × EntryId)) :
    List (SessionId × EntryId) :=
  current.filter (·.1 != s)

/-- The entry that a caller obtains. It leads if it has made that entry, and then it has to
build. -/
structure Joined (α : Type) where
  cache : SessionCache α
  entry : EntryId
  leads : Bool

/-- Look the session up, and make an entry if there is none that is live. -/
def join (c : SessionCache α) (s : SessionId) (now : Nat) : Joined α :=
  match c.live? s now with
  | some id => ⟨c, id, false⟩
  | none =>
    let id := c.entries.length
    ⟨{ c with
        entries := c.entries ++ [⟨s, now, .building⟩]
        current := (s, id) :: without s c.current }, id, true⟩

/-- Take a failed entry out, unless the session has another one by now. -/
def forget (c : SessionCache α) (s : SessionId) (id : EntryId) : SessionCache α :=
  if c.idOf? s = some id then { c with current := without s c.current } else c

/-- Give an entry its outcome. -/
def land (c : SessionCache α) (id : EntryId) (outcome : Outcome α) : SessionCache α :=
  { c with entries := c.entries.modify id fun e => { e with flight := .landed outcome } }

/-- Drop the session's entry; the answer says whether there was one. -/
def release (c : SessionCache α) (s : SessionId) : SessionCache α × Bool :=
  ({ c with current := without s c.current }, (c.idOf? s).isSome)

def clear (c : SessionCache α) : SessionCache α :=
  { c with current := [] }

def size (c : SessionCache α) : Nat :=
  c.current.length

def isEmpty (c : SessionCache α) : Bool :=
  c.current.isEmpty

/-- When the session's entry was made. -/
def createdAt? (c : SessionCache α) (s : SessionId) : Option Nat :=
  ((c.idOf? s).bind c.entryAt?).map (·.createdAt)

/-- The entries that sessions have now. -/
def currentEntries (c : SessionCache α) : List (SessionEntry α) :=
  c.current.filterMap fun (_, id) => c.entryAt? id

structure Stats where
  total : Nat
  expired : Nat
  oldestAge : Option Nat

def stats (c : SessionCache α) (now : Nat) : Stats where
  total := c.size
  expired := c.currentEntries.countP (c.isExpired now)
  oldestAge := (c.currentEntries.map (now - ·.createdAt)).max?

/-- What a caller gets when nobody else calls meanwhile. -/
structure Fetched (α : Type) where
  cache : SessionCache α
  entry : EntryId
  /-- `none` while the build of another caller is on its way. -/
  outcome : Option (Outcome α)
  /-- Whether the build was run. -/
  built : Bool

/-- Land a build that the leader has run, and forget it if it failed. -/
def settle (c : SessionCache α) (s : SessionId) (id : EntryId) (outcome : Outcome α) :
    SessionCache α :=
  match outcome with
  | .ok _ => c.land id outcome
  | .error _ => (c.forget s id).land id outcome

/-- The session's object, built if there is no live entry. -/
def get (c : SessionCache α) (s : SessionId) (now : Nat) (build : Unit → Outcome α) : Fetched α :=
  let joined := c.join s now
  if joined.leads then
    let outcome := build ()
    ⟨joined.cache.settle s joined.entry outcome, joined.entry, some outcome, true⟩
  else
    match c.flight? joined.entry with
    | some (.landed outcome) => ⟨c, joined.entry, some outcome, false⟩
    | _ => ⟨c, joined.entry, none, false⟩

end SessionCache
end ProviderCoverage

import ProviderCoverage.Proofs.Lists
import ProviderCoverage.Session.Callers

/-! What one event does to a session machine. An event moves at most one caller, and that caller
keeps its entry; entries are only ever added, and an entry leaves the map only when its build has
failed, or when a release or a clear takes it out. -/

namespace ProviderCoverage

/-- The entry that the caller has obtained. -/
def CallerState.entry {α : Type} : CallerState α → EntryId
  | building id | failing id _ | landing id _ | waiting id | returned id _ => id

/-- A leader whose build has ended. -/
def CallerState.afterBuild {α : Type} (id : EntryId) : Outcome α → CallerState α
  | .ok x => .landing id (.ok x)
  | .error e => .failing id e

@[simp] theorem CallerState.entry_afterBuild {α : Type} (id : EntryId) (outcome : Outcome α) :
    (afterBuild id outcome).entry = id := by
  cases outcome <;> rfl

/-- The entry that a build is running for. -/
def CallerState.building? {α : Type} : CallerState α → Option EntryId
  | building id => some id
  | _ => none

theorem CallerState.building?_eq_some_iff {α : Type} {state : CallerState α} {id : EntryId} :
    state.building? = some id ↔ state = .building id := by
  cases state <;> simp [building?]

namespace SessionCache

variable {α : Type} {c : SessionCache α} {s : SessionId} {id : EntryId} {now : Nat}

theorem lookup_without (s s' : SessionId) (current : List (SessionId × EntryId)) :
    (without s current).lookup s' = if s' = s then none else current.lookup s' := by
  rw [without, Lookup.filter_ne]
  simp only [beq_iff_eq]

def sessionOf? (c : SessionCache α) (id : EntryId) : Option SessionId :=
  (c.entryAt? id).map (·.session)

/-- The cache with a new entry, which a build is on its way for. -/
def addEntry (c : SessionCache α) (s : SessionId) (now : Nat) : SessionCache α :=
  { c with
    entries := c.entries ++ [⟨s, now, .building⟩]
    current := (s, c.entries.length) :: without s c.current }

theorem lt_of_flight? {f : Flight α} (h : c.flight? id = some f) : id < c.entries.length := by
  obtain ⟨e, he, -⟩ := Option.map_eq_some_iff.mp h
  exact (List.getElem?_eq_some_iff.mp he).1

theorem lt_of_sessionOf? (h : c.sessionOf? id = some s) : id < c.entries.length := by
  obtain ⟨e, he, -⟩ := Option.map_eq_some_iff.mp h
  exact (List.getElem?_eq_some_iff.mp he).1

theorem join_of_live (h : c.live? s now = some id) : c.join s now = ⟨c, id, false⟩ := by
  rw [join, h]

theorem join_of_not_live (h : c.live? s now = none) :
    c.join s now = ⟨c.addEntry s now, c.entries.length, true⟩ := by
  rw [join, h]
  rfl

theorem idOf?_of_live (h : c.live? s now = some id) : c.idOf? s = some id :=
  (Option.filter_eq_some_iff.mp h).1

/-- However old it is, an entry whose build is on its way is live. -/
theorem live?_of_building (hid : c.idOf? s = some id) (hf : c.flight? id = some .building) :
    c.live? s now = some id := by
  obtain ⟨e, he, hbuilding⟩ := Option.map_eq_some_iff.mp hf
  rw [live?, hid, Option.filter_some, if_pos]
  simp [he, isExpired, hbuilding, Flight.isBuilding]

@[simp] theorem idOf?_addEntry (c : SessionCache α) (s s' : SessionId) (now : Nat) :
    (c.addEntry s now).idOf? s' = if s' = s then some c.entries.length else c.idOf? s' := by
  rw [idOf?, addEntry, List.lookup_cons]
  by_cases hs : s' = s
  · simp [hs]
  · simp [beq_false_of_ne hs, hs, lookup_without, idOf?]

theorem entryAt?_addEntry_of_lt (h : id < c.entries.length) :
    entryAt? (c.addEntry s now) id = c.entryAt? id :=
  List.getElem?_append_left h

@[simp] theorem entryAt?_addEntry_length (c : SessionCache α) (s : SessionId) (now : Nat) :
    entryAt? (c.addEntry s now) c.entries.length = some ⟨s, now, .building⟩ := by
  simp [entryAt?, addEntry]

@[simp] theorem entryAt?_forget (c : SessionCache α) (s : SessionId) (id i : EntryId) :
    entryAt? (c.forget s id) i = c.entryAt? i := by
  rw [forget]
  split <;> rfl

theorem idOf?_forget (c : SessionCache α) (s s' : SessionId) (id : EntryId) :
    (c.forget s id).idOf? s' =
      if s' = s ∧ c.idOf? s = some id then none else c.idOf? s' := by
  rw [forget]
  by_cases hid : c.idOf? s = some id
  · rw [if_pos hid, idOf?, lookup_without]
    simp only [hid, and_true]
    rfl
  · rw [if_neg hid, if_neg fun h => hid h.2]

theorem entryAt?_land (c : SessionCache α) (id i : EntryId) (outcome : Outcome α) :
    entryAt? (c.land id outcome) i =
      (c.entryAt? i).map fun e => if id = i then { e with flight := .landed outcome } else e := by
  rw [entryAt?, land, List.getElem?_modify]
  rfl

end SessionCache

namespace SessionMachine

variable {α : Type} {m m' : SessionMachine α} {ev : SessionEvent α}

/-! ### The machine after a step -/

def joinBy (m : SessionMachine α) (s : SessionId) (id : EntryId) : SessionMachine α :=
  { m with callers := m.callers ++ [⟨s, .waiting id, false⟩] }

def leadBy (m : SessionMachine α) (s : SessionId) : SessionMachine α :=
  { m with
    cache := m.cache.addEntry s m.now
    callers := m.callers ++ [⟨s, .building m.cache.entries.length, true⟩] }

def endBuild (m : SessionMachine α) (a : Nat) (id : EntryId) (outcome : Outcome α) :
    SessionMachine α :=
  { m.moveTo a (.afterBuild id outcome) with built := m.built ++ [id] }

def forgetBy (m : SessionMachine α) (a : Nat) (s : SessionId) (id : EntryId) (e : BuildError) :
    SessionMachine α :=
  { m.moveTo a (.landing id (.error e)) with cache := m.cache.forget s id }

def landBy (m : SessionMachine α) (a : Nat) (id : EntryId) (outcome : Outcome α) :
    SessionMachine α :=
  { m.moveTo a (.returned id outcome) with cache := m.cache.land id outcome }

/-- Only these entries are left in the map. -/
def leave (m : SessionMachine α) (current : List (SessionId × EntryId)) : SessionMachine α :=
  { m with cache := { m.cache with current } }

def passBy (m : SessionMachine α) (time : Nat) : SessionMachine α :=
  { m with now := m.now + time }

@[simp] theorem leadBy_cache (m : SessionMachine α) (s : SessionId) :
    (m.leadBy s).cache = m.cache.addEntry s m.now :=
  rfl

@[simp] theorem forgetBy_cache (m : SessionMachine α) (a : Nat) (s : SessionId) (id : EntryId)
    (e : BuildError) : (m.forgetBy a s id e).cache = m.cache.forget s id :=
  rfl

/-- What an event can make of a machine. -/
inductive Moves (m : SessionMachine α) : SessionEvent α → SessionMachine α → Prop
  | idle (ev : SessionEvent α) : Moves m ev m
  | join (s : SessionId) (id : EntryId) (hlive : m.cache.live? s m.now = some id) :
    Moves m (.call s) (m.joinBy s id)
  | lead (s : SessionId) (hlive : m.cache.live? s m.now = none) : Moves m (.call s) (m.leadBy s)
  | build (a : Nat) (c : Caller α) (id : EntryId) (outcome : Outcome α)
      (ha : m.callers[a]? = some c) (hstate : c.state = .building id) :
    Moves m (.build a outcome) (m.endBuild a id outcome)
  | forget (a : Nat) (c : Caller α) (id : EntryId) (e : BuildError)
      (ha : m.callers[a]? = some c) (hstate : c.state = .failing id e) :
    Moves m (.forget a) (m.forgetBy a c.session id e)
  | land (a : Nat) (c : Caller α) (id : EntryId) (outcome : Outcome α)
      (ha : m.callers[a]? = some c) (hstate : c.state = .landing id outcome) :
    Moves m (.land a) (m.landBy a id outcome)
  | wake (a : Nat) (c : Caller α) (id : EntryId) (outcome : Outcome α)
      (ha : m.callers[a]? = some c) (hstate : c.state = .waiting id)
      (hflight : m.cache.flight? id = some (.landed outcome)) :
    Moves m (.wake a) (m.moveTo a (.returned id outcome))
  | release (s : SessionId) :
    Moves m (.release s) (m.leave (SessionCache.without s m.cache.current))
  | clear : Moves m .clear (m.leave [])
  | pass (time : Nat) : Moves m (.pass time) (m.passBy time)

theorem moves_apply (m : SessionMachine α) (ev : SessionEvent α) : m.Moves ev (m.apply ev) := by
  cases ev with
  | call s =>
    rw [apply, call]
    cases hlive : m.cache.live? s m.now with
    | none =>
      rw [SessionCache.join_of_not_live hlive]
      exact .lead s hlive
    | some id =>
      rw [SessionCache.join_of_live hlive]
      exact .join s id hlive
  | build a outcome =>
    rw [apply]
    split
    · next s id leads ha =>
      have hmoves := Moves.build a _ id outcome ha rfl
      cases outcome <;> exact hmoves
    · exact .idle _
  | forget a =>
    rw [apply]
    split
    · next s id e leads ha => exact .forget a _ id e ha rfl
    · exact .idle _
  | land a =>
    rw [apply]
    split
    · next s id outcome leads ha => exact .land a _ id outcome ha rfl
    · exact .idle _
  | wake a =>
    rw [apply]
    split
    · next s id leads ha =>
      split
      · next outcome hflight => exact .wake a _ id outcome ha rfl hflight
      · exact .idle _
    · exact .idle _
  | release s => exact .release s
  | clear => exact .clear
  | pass time => exact .pass time

theorem getElem?_moveTo (m : SessionMachine α) (a b : Nat) (state : CallerState α) :
    (m.moveTo a state).callers[b]? =
      (m.callers[b]?).map fun c => if a = b then { c with state } else c := by
  rw [moveTo, List.getElem?_modify]
  rfl

end SessionMachine
end ProviderCoverage

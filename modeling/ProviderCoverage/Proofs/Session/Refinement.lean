import ProviderCoverage.Proofs.Session.Moves
import ProviderCoverage.Session.Sequence

/-! What a session cache stands for when its calls come one after the other. It behaves like a map
from each session to the last build that succeeded: a call builds exactly if the session has none or
one that began too long ago, and a build that fails leaves the session without one
(`run_refines`). -/

namespace ProviderCoverage

namespace SessionCache

variable {α : Type} {c : SessionCache α} {m : SessionMap α} {s : SessionId} {k : Kept α}
  {now : Nat}

/-- The cache after a build that it has run for a session. -/
def record (c : SessionCache α) (s : SessionId) (now : Nat) (outcome : Outcome α) :
    SessionCache α where
  lifetime := c.lifetime
  entries := c.entries ++ [⟨s, now, .landed outcome⟩]
  current := match outcome with
    | .ok _ => (s, c.entries.length) :: without s c.current
    | .error _ => without s c.current

/-- The entry of a failed build is out of the map before it lands. -/
theorem settle_addEntry (c : SessionCache α) (s : SessionId) (now : Nat) (outcome : Outcome α) :
    (c.addEntry s now).settle s c.entries.length outcome = c.record s now outcome := by
  have hland : (c.addEntry s now).entries.modify c.entries.length
      (fun e => { e with flight := .landed outcome }) =
        c.entries ++ [⟨s, now, .landed outcome⟩] := Lists.modify_concat _
  cases outcome with
  | ok x => rw [settle, land, hland]; rfl
  | error e =>
    have hid : (c.addEntry s now).idOf? s = some c.entries.length := by simp
    have hwithout : without s (c.addEntry s now).current = without s c.current := by
      simp [addEntry, without]
    rw [settle, forget, if_pos hid, land, hland, hwithout]
    rfl

theorem get_of_not_live (h : c.live? s now = none) (build : Unit → Outcome α) :
    c.get s now build =
      ⟨c.record s now (build ()), c.entries.length, some (build ()), true⟩ := by
  rw [get, join_of_not_live h, ← settle_addEntry]
  rfl

/-- The cache holds what the map says, in entries that bear the numbers of their builds. -/
structure Represents (c : SessionCache α) (m : SessionMap α) : Prop where
  lifetime : c.lifetime = m.lifetime
  length : c.entries.length = m.builds
  sessions_nodup : (c.current.map (·.1)).Nodup
  idOf?_eq : ∀ s, c.idOf? s = (m.kept.lookup s).map (·.entry)
  entryAt?_eq : ∀ s k, m.kept.lookup s = some k →
    c.entryAt? k.entry = some ⟨s, k.start, .landed (.ok k.object)⟩
  start_le : ∀ s k, m.kept.lookup s = some k → k.start ≤ m.now

theorem nodup_without (h : (c.current.map (·.1)).Nodup) :
    ((without s c.current).map (·.1)).Nodup :=
  h.sublist (List.filter_sublist.map _)

namespace Represents

theorem isExpired_eq (h : c.Represents m) (k : Kept α) :
    c.isExpired m.now ⟨s, k.start, .landed (.ok k.object)⟩ = m.isOld k := by
  simp [isExpired, Flight.isBuilding, SessionMap.isOld, h.lifetime]

theorem live?_eq (h : c.Represents m) (s : SessionId) :
    c.live? s m.now = (m.current? s).map (·.entry) := by
  rw [live?, h.idOf?_eq, SessionMap.current?]
  cases hk : m.kept.lookup s with
  | none => rfl
  | some k =>
    rw [Option.map_some, Option.filter_some, Option.filter_some, h.entryAt?_eq s k hk,
      Option.any_some, h.isExpired_eq]
    split <;> rfl

theorem get_of_current (h : c.Represents m) (hk : m.current? s = some k)
    (build : Unit → Outcome α) :
    c.get s m.now build = ⟨c, k.entry, some (.ok k.object), false⟩ := by
  have hlive : c.live? s m.now = some k.entry := by rw [h.live?_eq, hk, Option.map_some]
  have hflight : c.flight? k.entry = some (.landed (.ok k.object)) := by
    rw [flight?, h.entryAt?_eq s k (Option.filter_eq_some_iff.mp hk).1]
    rfl
  simp [get, join_of_live hlive, hflight]

theorem get_of_not_current (h : c.Represents m) (hk : m.current? s = none)
    (build : Unit → Outcome α) :
    c.get s m.now build =
      ⟨c.record s m.now (build ()), m.builds, some (build ()), true⟩ := by
  have hlive : c.live? s m.now = none := by rw [h.live?_eq, hk, Option.map_none]
  rw [get_of_not_live hlive, h.length]

/-! ### The calls -/

theorem entry_lt (h : c.Represents m) (hk : m.kept.lookup s = some k) :
    k.entry < c.entries.length :=
  (List.getElem?_eq_some_iff.mp (h.entryAt?_eq s k hk)).1

/-- Without a session, whatever else has been recorded. -/
theorem without (h : c.Represents m) (s : SessionId) {entries : List (SessionEntry α)}
    {builds : Nat} (hlength : entries.length = builds)
    (hentries : ∀ id < c.entries.length, entries[id]? = c.entries[id]?) :
    Represents ⟨c.lifetime, entries, without s c.current⟩
      { m with builds, kept := m.kept.erase s } := by
  have hlookup : ∀ t k, (m.kept.erase s).lookup t = some k → t ≠ s ∧ m.kept.lookup t = some k := by
    intro t k hk
    by_cases ht : t = s
    · rw [ht, Finmap.lookup_erase] at hk
      cases hk
    · exact ⟨ht, Finmap.lookup_erase_ne ht ▸ hk⟩
  refine ⟨h.lifetime, hlength, nodup_without h.sessions_nodup, fun t => ?_, fun t k hk => ?_,
    fun t k hk => h.start_le t k (hlookup t k hk).2⟩
  · rw [SessionCache.idOf?, lookup_without]
    split
    · next ht => rw [ht, Finmap.lookup_erase, Option.map_none]
    · next ht => rw [Finmap.lookup_erase_ne ht]; exact h.idOf?_eq t
  · obtain ⟨-, hk⟩ := hlookup t k hk
    exact (hentries k.entry (h.entry_lt hk)).trans (h.entryAt?_eq t k hk)

/-- With an entry for a session that has none. -/
theorem insert (h : c.Represents m) (hs : m.kept.lookup s = none) (hstart : k.start ≤ m.now)
    (hentry : c.entryAt? k.entry = some ⟨s, k.start, .landed (.ok k.object)⟩) :
    Represents { c with current := (s, k.entry) :: c.current }
      { m with kept := m.kept.insert s k } := by
  have hlookup : ∀ t k', (m.kept.insert s k).lookup t = some k' →
      t = s ∧ k' = k ∨ m.kept.lookup t = some k' := by
    intro t k' hk
    by_cases ht : t = s
    · rw [ht, Finmap.lookup_insert] at hk
      exact .inl ⟨ht, (Option.some.inj hk).symm⟩
    · exact .inr (Finmap.lookup_insert_of_ne _ ht ▸ hk)
  refine ⟨h.lifetime, h.length, List.nodup_cons.mpr ⟨?_, h.sessions_nodup⟩, fun t => ?_,
    fun t k' hk => ?_, fun t k' hk => ?_⟩
  · rw [← Lookup.eq_none_iff_notMem]
    exact (h.idOf?_eq s).trans (by rw [hs, Option.map_none])
  · rw [SessionCache.idOf?, List.lookup_cons]
    by_cases ht : t = s
    · subst ht
      rw [Finmap.lookup_insert, beq_self_eq_true, Option.map_some]
    · rw [Finmap.lookup_insert_of_ne _ ht, beq_false_of_ne ht]
      exact h.idOf?_eq t
  · rcases hlookup t k' hk with ⟨rfl, rfl⟩ | hk
    · exact hentry
    · exact h.entryAt?_eq t k' hk
  · rcases hlookup t k' hk with ⟨rfl, rfl⟩ | hk
    · exact hstart
    · exact h.start_le t k' hk

private theorem insert_erase (kept : Finmap fun _ : SessionId => Kept α) (s : SessionId)
    (k : Kept α) : (kept.erase s).insert s k = kept.insert s k := by
  refine Finmap.ext_lookup fun t => ?_
  by_cases ht : t = s
  · rw [ht, Finmap.lookup_insert, Finmap.lookup_insert]
  · rw [Finmap.lookup_insert_of_ne _ ht, Finmap.lookup_insert_of_ne _ ht, Finmap.lookup_erase_ne ht]

theorem record (h : c.Represents m) (s : SessionId) (outcome : Outcome α) :
    (c.record s m.now outcome).Represents (m.replace s outcome) := by
  have hfailed : Represents ⟨c.lifetime, c.entries ++ [⟨s, m.now, .landed outcome⟩],
      SessionCache.without s c.current⟩
      { m with builds := m.builds + 1, kept := m.kept.erase s } :=
    h.without s (by simp [h.length]) fun id hid => List.getElem?_append_left hid
  cases outcome with
  | error e => exact hfailed
  | ok x =>
    rw [SessionCache.record, SessionMap.replace, ← insert_erase, h.length]
    exact hfailed.insert (k := ⟨m.now, m.builds, x⟩) (Finmap.lookup_erase ..) (Nat.le_refl _)
      (by simp [SessionCache.entryAt?, ← h.length])

theorem of_later (h : c.Represents m) (time : Nat) :
    c.Represents { m with now := m.now + time } :=
  ⟨h.lifetime, h.length, h.sessions_nodup, h.idOf?_eq, h.entryAt?_eq, fun s k hk =>
    Nat.le_add_right_of_le (h.start_le s k hk)⟩

theorem clear (h : c.Represents m) : c.clear.Represents { m with kept := ∅ } :=
  ⟨h.lifetime, h.length, .nil, fun _ => by simp [SessionCache.idOf?, SessionCache.clear],
    fun s k hk => by simp at hk, fun s k hk => by simp at hk⟩

/-! ### What the cache tells of itself -/

theorem exists_kept_of_mem (h : c.Represents m) {id : EntryId} (hid : (s, id) ∈ c.current) :
    ∃ k, m.kept.lookup s = some k ∧ k.entry = id := by
  have hlookup : c.idOf? s = some id := (Lookup.eq_some_iff_mem h.sessions_nodup).mpr hid
  rw [h.idOf?_eq] at hlookup
  exact Option.map_eq_some_iff.mp hlookup

theorem toFinset_sessions (h : c.Represents m) : (c.current.map (·.1)).toFinset = m.kept.keys := by
  ext s
  rw [List.mem_toFinset, Finmap.mem_keys, ← Finmap.lookup_isSome, ← Option.isSome_map, ← h.idOf?_eq,
    SessionCache.idOf?, Option.isSome_iff_ne_none, ne_eq, Lookup.eq_none_iff_notMem, not_not]

theorem size_eq (h : c.Represents m) : c.size = m.kept.keys.card := by
  rw [← h.toFinset_sessions, List.toFinset_card_of_nodup h.sessions_nodup, List.length_map]
  rfl

/-- An expired entry is one that a call does not use. -/
theorem expired_eq (h : c.Represents m) :
    (c.stats m.now).expired = (m.kept.keys.filter fun s => (m.current? s).isNone = true).card := by
  have hexpired : ∀ p ∈ c.current, (((c.entryAt? p.2).map (c.isExpired m.now)).getD false = true ↔
      (m.current? p.1).isNone = true) := by
    rintro ⟨s, id⟩ hp
    obtain ⟨k, hk, rfl⟩ := h.exists_kept_of_mem hp
    rw [h.entryAt?_eq s k hk, Option.map_some, h.isExpired_eq, SessionMap.current?, hk]
    cases hold : m.isOld k <;> simp [Option.filter_some, hold]
  calc (c.stats m.now).expired
      = c.current.countP fun p => (m.current? p.1).isNone := by
        rw [stats, currentEntries, List.countP_filterMap]
        exact List.countP_congr hexpired
    _ = ((c.current.map (·.1)).filter fun s => (m.current? s).isNone).length := by
        rw [← List.countP_eq_length_filter, List.countP_map]
        rfl
    _ = (m.kept.keys.filter fun s => (m.current? s).isNone = true).card := by
        rw [← h.toFinset_sessions, ← List.toFinset_filter,
          List.toFinset_card_of_nodup (h.sessions_nodup.filter _)]

theorem createdAt?_eq (h : c.Represents m) (s : SessionId) :
    c.createdAt? s = (m.kept.lookup s).map (·.start) := by
  rw [createdAt?, h.idOf?_eq]
  cases hk : m.kept.lookup s with
  | none => rfl
  | some k =>
    rw [Option.map_some, Option.bind_some, h.entryAt?_eq s k hk]
    rfl

end Represents
end SessionCache

namespace TimedCache

variable {α : Type} {c : TimedCache α} {m : SessionMap α}

/-- The cache stands for the map, and the clock shows the time of the map. -/
def Represents (c : TimedCache α) (m : SessionMap α) : Prop :=
  c.now = m.now ∧ c.cache.Represents m

theorem represents_empty (lifetime : Option Nat) :
    Represents (empty (α := α) lifetime) (.empty lifetime) :=
  ⟨rfl, rfl, rfl, .nil, fun _ => rfl, nofun, nofun⟩

/-- Every call has the answer that the map gives. -/
theorem Represents.apply (h : c.Represents m) (call : SessionCall α) :
    (c.apply call).1.Represents (m.apply call).1 ∧ (c.apply call).2 = (m.apply call).2 := by
  obtain ⟨hnow, h⟩ := h
  cases call with
  | get s build =>
    rw [TimedCache.apply, SessionMap.apply, SessionMap.get, hnow]
    cases hk : m.current? s with
    | some k =>
      rw [h.get_of_current hk build]
      exact ⟨⟨rfl, h⟩, rfl⟩
    | none =>
      rw [h.get_of_not_current hk build]
      exact ⟨⟨rfl, h.record s (build ())⟩, rfl⟩
  | release s =>
    refine ⟨⟨hnow, h.without s h.length fun _ _ => rfl⟩, ?_⟩
    have hfound : (c.cache.idOf? s).isSome = (m.kept.lookup s).isSome := by
      rw [h.idOf?_eq, Option.isSome_map]
    exact congrArg SessionAnswer.released hfound
  | clear => exact ⟨⟨hnow, h.clear⟩, rfl⟩
  | pass time => exact ⟨⟨congrArg (· + time) hnow, h.of_later time⟩, rfl⟩

theorem Represents.run (h : c.Represents m) (calls : List (SessionCall α)) :
    (c.run calls).Represents (m.run calls) := by
  induction calls generalizing c m with
  | nil => exact h
  | cons call calls ih => exact ih (h.apply call).1

theorem lifetime_apply (m : SessionMap α) (call : SessionCall α) :
    (m.apply call).1.lifetime = m.lifetime := by
  cases call with
  | get s build =>
    rw [SessionMap.apply, SessionMap.get]
    split <;> rfl
  | release | clear | pass => rfl

theorem lifetime_run (m : SessionMap α) (calls : List (SessionCall α)) :
    (m.run calls).lifetime = m.lifetime := by
  induction calls generalizing m with
  | nil => rfl
  | cons call calls ih => exact (ih _).trans (lifetime_apply m call)

/-- What callers are promised of a cache with this lifetime, in terms of the map. -/
structure Refines (lifetime : Option Nat) (c : TimedCache α) (m : SessionMap α) : Prop where
  /-- Whatever is called next, its answer is that of the map. -/
  answer : ∀ call, (c.apply call).2 = (m.apply call).2
  /-- A call builds if the session has nothing, or something that began too long ago. -/
  built_iff : ∀ s build, (c.cache.get s c.now build).built = true ↔ m.kept.lookup s = none ∨
    ∃ k d, m.kept.lookup s = some k ∧ lifetime = some d ∧ d ≤ c.now - k.start
  /-- Otherwise it has the object that there is, and changes nothing. -/
  kept : ∀ s build, (c.cache.get s c.now build).built = false → ∃ k, m.kept.lookup s = some k ∧
    c.cache.get s c.now build = ⟨c.cache, k.entry, some (.ok k.object), false⟩
  /-- The number of the next object is new. -/
  entry_lt : ∀ s k, m.kept.lookup s = some k → k.entry < m.builds
  start_le : ∀ s k, m.kept.lookup s = some k → k.start ≤ c.now
  /-- After a build that fails, the session has nothing, whatever it had before. -/
  failed : ∀ s build e, (c.cache.get s c.now build).built = true → build () = .error e →
    (c.cache.get s c.now build).cache.createdAt? s = none
  createdAt?_eq : ∀ s, c.cache.createdAt? s = (m.kept.lookup s).map (·.start)
  size_eq : c.cache.size = m.kept.keys.card
  total_eq : (c.cache.stats c.now).total = m.kept.keys.card
  /-- The expired entries are those of the sessions that would be built now. -/
  expired_eq : ∀ build, (c.cache.stats c.now).expired =
    (m.kept.keys.filter fun s => (c.cache.get s c.now build).built = true).card
  /-- What takes the place of something too old was made later. -/
  start_lt : ∀ s build k d object, m.kept.lookup s = some k → lifetime = some d → 0 < d →
    d ≤ c.now - k.start → build () = .ok object →
    ∃ t, (c.cache.get s c.now build).cache.createdAt? s = some t ∧ k.start < t

theorem current?_eq_none_iff {s : SessionId} : m.current? s = none ↔ m.kept.lookup s = none ∨
    ∃ k d, m.kept.lookup s = some k ∧ m.lifetime = some d ∧ d ≤ m.now - k.start := by
  rw [SessionMap.current?]
  cases m.kept.lookup s <;> simp [SessionMap.isOld, Option.any_eq_true]

theorem Represents.built_eq (h : c.Represents m) (s : SessionId) (build : Unit → Outcome α) :
    (c.cache.get s c.now build).built = (m.current? s).isNone := by
  obtain ⟨hnow, h⟩ := h
  rw [hnow]
  cases hk : m.current? s with
  | none => rw [h.get_of_not_current hk]; rfl
  | some k => rw [h.get_of_current hk]; rfl

theorem Represents.refines (h : c.Represents m) : Refines m.lifetime c m := by
  have hbuilt := h.built_eq
  have happly := h.apply
  obtain ⟨hnow, hcache⟩ := h
  -- What a call that builds leaves in the map.
  have hcreated : ∀ s build, m.current? s = none → (c.cache.get s c.now build).cache.createdAt? s =
      ((m.replace s (build ())).kept.lookup s).map (·.start) := by
    intro s build hs
    rw [hnow, hcache.get_of_not_current hs, (hcache.record s (build ())).createdAt?_eq]
  refine ⟨fun call => (happly call).2, fun s build => ?_, fun s build hs => ?_,
    fun s k hk => hcache.length ▸ hcache.entry_lt hk,
    fun s k hk => hnow ▸ hcache.start_le s k hk, fun s build e hs he => ?_,
    hcache.createdAt?_eq, hcache.size_eq, hcache.size_eq, fun build => ?_, ?_⟩
  · rw [hbuilt, Option.isNone_iff_eq_none, current?_eq_none_iff, hnow]
  · rw [hbuilt, Option.isNone_eq_false_iff, Option.isSome_iff_exists] at hs
    obtain ⟨k, hk⟩ := hs
    exact ⟨k, (Option.filter_eq_some_iff.mp hk).1, hnow ▸ hcache.get_of_current hk build⟩
  · rw [hbuilt, Option.isNone_iff_eq_none] at hs
    rw [hcreated s build hs, he]
    exact congrArg _ (Finmap.lookup_erase ..)
  · rw [hnow, hcache.expired_eq]
    simp only [← hnow, hbuilt]
  · intro s build k d object hk hd hpos hle hok
    have hs : m.current? s = none := current?_eq_none_iff.mpr (.inr ⟨k, d, hk, hd, hnow ▸ hle⟩)
    refine ⟨c.now, ?_, by omega⟩
    rw [hcreated s build hs, hok, hnow]
    exact congrArg _ (Finmap.lookup_insert ..)

theorem run_refines (lifetime : Option Nat) (calls : List (SessionCall α)) :
    Refines lifetime ((empty lifetime).run calls) ((SessionMap.empty lifetime).run calls) := by
  have h := ((represents_empty lifetime).run calls).refines
  rwa [lifetime_run] at h

end TimedCache
end ProviderCoverage

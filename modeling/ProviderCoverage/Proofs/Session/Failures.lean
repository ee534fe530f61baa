import ProviderCoverage.Proofs.Session.SingleFlight

/-! Failed builds. A leader whose build has failed takes its entry out of the map before it lands
the failure there, and an entry that is out of the map never comes back. So no session has an entry
that failed, and who comes after the leader has taken it out obtains another entry; and since the
leader looks whether the session still has its own entry, it takes out no other
(`failuresForgotten`). -/

namespace ProviderCoverage

/-- The caller that an event is a step of. -/
def SessionEvent.caller? {α : Type} : SessionEvent α → Option Nat
  | build a _ | forget a | land a | wake a => some a
  | call _ | release _ | clear | pass _ => none

namespace SessionMachine

variable {α : Type} {m m' : SessionMachine α} {ev : SessionEvent α} {a b n : Nat}
  {c d : Caller α} {id : EntryId} {s : SessionId} {e : BuildError}

/-- No session has the entry. -/
def Out (m : SessionMachine α) (id : EntryId) : Prop :=
  ∀ s, m.cache.idOf? s ≠ some id

/-! ### What a step does to the map, to flights and to callers -/

/-- Only new entries come into the map. -/
theorem idOf?_before (hm : m.Moves ev m') (hid : m'.cache.idOf? s = some id) :
    m.cache.idOf? s = some id ∨ id = m.cache.entries.length := by
  cases hm with
  | idle | join | build | land | wake | pass => exact .inl hid
  | lead t hlive =>
    rw [leadBy_cache, SessionCache.idOf?_addEntry] at hid
    split at hid
    · exact .inr (Option.some.inj hid).symm
    · exact .inl hid
  | forget a c i e ha hstate =>
    rw [forgetBy_cache, SessionCache.idOf?_forget] at hid
    split at hid
    · cases hid
    · exact .inl hid
  | release t =>
    refine .inl ?_
    have hlookup : (SessionCache.without t m.cache.current).lookup s = some id := hid
    rw [SessionCache.lookup_without] at hlookup
    split at hlookup
    · cases hlookup
    · exact hlookup
  | clear => cases hid

theorem length_entries_of_moves (hm : m.Moves ev m') :
    m.cache.entries.length ≤ m'.cache.entries.length := by
  cases hm with
  | lead t hlive => simp [SessionCache.addEntry]
  | forget a c i e ha hstate =>
    rw [forgetBy_cache, SessionCache.forget]
    split <;> exact Nat.le_refl _
  | land a c i outcome ha hstate => simp [landBy, SessionCache.land]
  | idle | join | build | wake | release | clear | pass => exact Nat.le_refl _

theorem Out.moves (h : m.Out id) (hlt : id < m.cache.entries.length) (hm : m.Moves ev m') :
    m'.Out id := by
  intro s hid
  rcases idOf?_before hm hid with hold | hnew
  · exact h s hold
  · exact Nat.ne_of_lt hlt hnew

/-- A failure is landed by the leader that has it. -/
theorem landed_error_of_moves (hm : m.Moves ev m')
    (hflight : m'.cache.flight? id = some (.landed (.error e))) :
    m.cache.flight? id = some (.landed (.error e)) ∨
      ∃ c ∈ m.callers, c.state = .landing id (.error e) := by
  cases hm with
  | idle | join | build | wake | release | clear | pass => exact .inl hflight
  | lead t hlive =>
    refine .inl ?_
    rcases Nat.lt_or_ge id m.cache.entries.length with hlt | hge
    · rwa [leadBy_cache, SessionCache.flight?, SessionCache.entryAt?_addEntry_of_lt hlt] at hflight
    · -- The new entry is not landed.
      have hlast : id = m.cache.entries.length := by
        have hlt := SessionCache.lt_of_flight? hflight
        rw [leadBy_cache, SessionCache.addEntry, List.length_append] at hlt
        exact Nat.le_antisymm (Nat.le_of_lt_succ hlt) hge
      simp [hlast, SessionCache.flight?] at hflight
  | forget a c i e' ha hstate =>
    rw [forgetBy_cache, SessionCache.flight?, SessionCache.entryAt?_forget] at hflight
    exact .inl hflight
  | land a c i outcome ha hstate =>
    have hland : (m.cache.land i outcome).flight? id = some (.landed (.error e)) := hflight
    rw [SessionCache.flight?, SessionCache.entryAt?_land, Option.map_map] at hland
    obtain ⟨x, hx, hflight'⟩ := Option.map_eq_some_iff.mp hland
    by_cases hi : i = id
    · subst hi
      simp only [Function.comp_apply, if_true, Flight.landed.injEq] at hflight'
      exact .inr ⟨c, List.mem_of_getElem? ha, hflight' ▸ hstate⟩
    · simp only [Function.comp_apply, if_neg hi] at hflight'
      exact .inl (Option.map_eq_some_iff.mpr ⟨x, hx, hflight'⟩)

/-- Where a caller is after another one, or it itself, has moved. -/
theorem mem_callers_moveTo {state : CallerState α} (hd : d ∈ (m.moveTo a state).callers) :
    d ∈ m.callers ∨ d.state = state := by
  obtain ⟨b, hb⟩ := List.mem_iff_getElem?.mp hd
  rw [getElem?_moveTo] at hb
  obtain ⟨x, hx, rfl⟩ := Option.map_eq_some_iff.mp hb
  split
  · exact .inr rfl
  · exact .inl (List.mem_of_getElem? hx)

/-- Who is about to land a failure has been so before, or has just taken its entry out. -/
theorem landing_error_of_moves (hm : m.Moves ev m') (hd : d ∈ m'.callers)
    (hstate : d.state = .landing id (.error e)) :
    (∃ c ∈ m.callers, c.state = .landing id (.error e)) ∨
      ∃ (a : Nat) (c : Caller α), m.callers[a]? = some c ∧ c.state = .failing id e ∧
        m'.cache = m.cache.forget c.session id := by
  have hmoved : ∀ {a state}, d ∈ (m.moveTo a state).callers → state ≠ .landing id (.error e) →
      ∃ c ∈ m.callers, c.state = .landing id (.error e) := by
    intro a state hd hne
    rcases mem_callers_moveTo hd with hd | heq
    · exact ⟨d, hd, hstate⟩
    · exact absurd (heq.symm.trans hstate) hne
  cases hm with
  | idle | release | clear | pass => exact .inl ⟨d, hd, hstate⟩
  | join t i hlive | lead t hlive =>
    rcases List.mem_append.mp hd with hd | hd
    · exact .inl ⟨d, hd, hstate⟩
    · rw [List.mem_singleton.mp hd] at hstate
      cases hstate
  | build a c i outcome ha hbuilding =>
    refine .inl (hmoved hd ?_)
    cases outcome <;> simp [CallerState.afterBuild]
  | forget a c i e' ha hfailing =>
    rcases mem_callers_moveTo hd with hd | heq
    · exact .inl ⟨d, hd, hstate⟩
    · cases heq.symm.trans hstate
      exact .inr ⟨a, c, ha, hfailing, rfl⟩
  | land | wake => exact .inl (hmoved hd nofun)

/-- A caller keeps its entry, and who comes obtains the entry of its session or a new one. -/
theorem entry_of_moves (hm : m.Moves ev m') (hb : m'.callers[b]? = some d) :
    (∃ c, m.callers[b]? = some c ∧ c.state.entry = d.state.entry) ∨
      m.cache.idOf? d.session = some d.state.entry ∨ d.state.entry = m.cache.entries.length := by
  have hmoved : ∀ {a c state}, m.callers[a]? = some c → state.entry = c.state.entry →
      (m.moveTo a state).callers[b]? = some d →
      ∃ c, m.callers[b]? = some c ∧ c.state.entry = d.state.entry := by
    intro a c state ha hentry hb
    rw [getElem?_moveTo] at hb
    obtain ⟨x, hx, rfl⟩ := Option.map_eq_some_iff.mp hb
    refine ⟨x, hx, ?_⟩
    split
    · next hab =>
      subst hab
      cases ha.symm.trans hx
      exact hentry.symm
    · rfl
  cases hm with
  | idle | release | clear | pass => exact .inl ⟨d, hb, rfl⟩
  | join t i hlive =>
    rcases Lists.getElem?_concat hb with hb | ⟨-, rfl⟩
    · exact .inl ⟨d, hb, rfl⟩
    · exact .inr (.inl (SessionCache.idOf?_of_live hlive))
  | lead t hlive =>
    rcases Lists.getElem?_concat hb with hb | ⟨-, rfl⟩
    · exact .inl ⟨d, hb, rfl⟩
    · exact .inr (.inr rfl)
  | build a c i outcome ha hstate =>
    exact .inl (hmoved ha (by rw [CallerState.entry_afterBuild, hstate]; rfl) hb)
  | forget a c i e ha hstate => exact .inl (hmoved ha (by rw [hstate]; rfl) hb)
  | land a c i outcome ha hstate => exact .inl (hmoved ha (by rw [hstate]; rfl) hb)
  | wake a c i outcome ha hstate hflight => exact .inl (hmoved ha (by rw [hstate]; rfl) hb)

/-! ### Entries that failed are out of the map -/

theorem Coherent.session_of_mem (h : m.Coherent) (hc : c ∈ m.callers) :
    m.cache.sessionOf? c.state.entry = some c.session :=
  h.session (c.session, c.state.entry, c.leads) (List.mem_map.mpr ⟨c, hc, rfl⟩)

/-- The removal step leaves the entry to no session: its own has none, and others never had it. -/
theorem Coherent.out_forget (h : m.Coherent) (ha : m.callers[a]? = some c)
    (hstate : c.state = .failing id e) (s : SessionId) :
    (m.cache.forget c.session id).idOf? s ≠ some id := by
  have hsession := h.session_of_mem (List.mem_of_getElem? ha)
  rw [hstate] at hsession
  intro hid
  rw [SessionCache.idOf?_forget] at hid
  split at hid
  · cases hid
  · next hkept =>
    have hs : s = c.session := Option.some.inj ((h.current s id hid).symm.trans hsession)
    exact hkept ⟨hs, hs ▸ hid⟩

/-- From its removal step on, the entry of a failed build is out of the map. -/
structure FailuresOut (m : SessionMachine α) : Prop where
  landing : ∀ c ∈ m.callers, ∀ id e, c.state = .landing id (.error e) → m.Out id
  landed : ∀ id e, m.cache.flight? id = some (.landed (.error e)) → m.Out id

theorem FailuresOut.moves (h : m.FailuresOut) (hc : m.Coherent) (hm : m.Moves ev m') :
    m'.FailuresOut := by
  have hkeeps : ∀ c ∈ m.callers, ∀ id e, c.state = .landing id (.error e) → m'.Out id := by
    intro c hmem id e hstate
    obtain ⟨a, ha⟩ := List.mem_iff_getElem?.mp hmem
    have hlt := SessionCache.lt_of_flight? ((hc.fits a c ha).of_landing hstate).2.1
    exact (h.landing c hmem id e hstate).moves hlt hm
  constructor
  · intro d hd id e hstate
    rcases landing_error_of_moves hm hd hstate with ⟨c, hmem, hlanding⟩ | ⟨a, c, ha, hfailing, hm'⟩
    · exact hkeeps c hmem id e hlanding
    · intro s
      rw [hm']
      exact hc.out_forget ha hfailing s
  · intro id e hflight
    rcases landed_error_of_moves hm hflight with hold | ⟨c, hmem, hlanding⟩
    · exact (h.landed id e hold).moves (SessionCache.lt_of_flight? hold) hm
    · exact hkeeps c hmem id e hlanding

theorem failuresOut (lifetime : Option Nat) (events : List (SessionEvent α)) :
    (reached lifetime events).FailuresOut := by
  induction events using List.reverseRecOn with
  | nil => exact ⟨nofun, nofun⟩
  | append_singleton events ev ih =>
    rw [reached_concat]
    exact ih.moves (coherent_reached lifetime events) (moves_apply _ ev)

/-! ### Callers that come after the removal step -/

/-- The entry is out of the map, and only the first `n` callers have obtained it. -/
structure Shut (m : SessionMachine α) (id : EntryId) (n : Nat) : Prop where
  out : m.Out id
  lt : id < m.cache.entries.length
  others : ∀ b d, n ≤ b → m.callers[b]? = some d → d.state.entry ≠ id

theorem Shut.moves (h : m.Shut id n) (hm : m.Moves ev m') : m'.Shut id n := by
  refine ⟨h.out.moves h.lt hm, Nat.lt_of_lt_of_le h.lt (length_entries_of_moves hm), ?_⟩
  intro b d hn hb
  rcases entry_of_moves hm hb with ⟨c, hc, hentry⟩ | hmap | hnew
  · exact hentry ▸ h.others b c hn hc
  · intro heq
    exact h.out d.session (heq ▸ hmap)
  · rw [hnew]
    exact Nat.ne_of_gt h.lt

theorem Shut.run (h : m.Shut id n) (events : List (SessionEvent α)) : (m.run events).Shut id n := by
  induction events generalizing m with
  | nil => exact h
  | cons ev events ih => exact ih (h.moves (m.moves_apply ev))

theorem Coherent.shut_forget (h : m.Coherent) (ha : m.callers[a]? = some c)
    (hstate : c.state = .failing id e) : (m.apply (.forget a)).Shut id m.callers.length := by
  have hmachine : m.apply (.forget a) = m.forgetBy a c.session id e := by
    obtain ⟨session, state, leads⟩ := c
    cases hstate
    rw [apply, ha]
    rfl
  have hlt := SessionCache.lt_of_flight? ((h.fits a c ha).of_failing hstate).2.1
  have hmoves : m.Moves (.forget a) (m.forgetBy a c.session id e) := .forget a c id e ha hstate
  rw [hmachine]
  refine ⟨h.out_forget ha hstate, Nat.lt_of_lt_of_le hlt (length_entries_of_moves hmoves), ?_⟩
  intro b d hn hb
  have hlength : b < (m.forgetBy a c.session id e).callers.length :=
    (List.getElem?_eq_some_iff.mp hb).1
  simp only [forgetBy, moveTo, List.length_modify] at hlength
  omega

/-! ### The guarantee -/

/-- The build of the entry failed, and its leader took its removal step when `n` callers had
come. -/
def Removed (lifetime : Option Nat) (events : List (SessionEvent α)) (id : EntryId) (n : Nat) :
    Prop :=
  ∃ before a after c e, events = before ++ .forget a :: after ∧
    (reached lifetime before).callers[a]? = some c ∧ c.state = .failing id e ∧
    (reached lifetime before).callers.length = n

theorem Removed.shut {lifetime : Option Nat} {events : List (SessionEvent α)}
    (h : Removed lifetime events id n) : (reached lifetime events).Shut id n := by
  obtain ⟨before, a, after, c, e, rfl, ha, hstate, rfl⟩ := h
  have hshut := (coherent_reached lifetime before).shut_forget ha hstate
  have hrun : reached lifetime (before ++ .forget a :: after) =
      ((reached lifetime before).apply (.forget a)).run after := by
    simp [reached, run]
  rw [hrun]
  exact hshut.run after

/-- What a step of a caller does to the map: it takes out the entry of that caller at most. -/
theorem idOf?_of_step (hev : ev.caller? = some a) (ha : m.callers[a]? = some c)
    (hid : m.cache.idOf? s = some id) (hne : id ≠ c.state.entry) :
    (m.apply ev).cache.idOf? s = some id := by
  have hmoves := m.moves_apply ev
  generalize m.apply ev = m' at hmoves
  cases hmoves with
  | idle | build | land | wake => exact hid
  | forget b d i e hb hstate =>
    cases hev
    cases ha.symm.trans hb
    rw [forgetBy_cache, SessionCache.idOf?_forget, if_neg]
    · exact hid
    · rintro ⟨rfl, hown⟩
      rw [hstate] at hne
      exact hne (Option.some.inj (hid.symm.trans hown))
  | join | lead | release | clear | pass => cases hev

/-- What callers are promised of builds that fail, after any events. -/
structure FailuresForgotten (lifetime : Option Nat) (m : SessionMachine α)
    (events : List (SessionEvent α)) : Prop where
  /-- The entry of a session is being built or ready. -/
  sound : ∀ s id, m.cache.idOf? s = some id →
    m.cache.flight? id = some .building ∨ ∃ x, m.cache.flight? id = some (.landed (.ok x))
  /-- Who comes after the removal step of a failed build obtains another entry. -/
  forgotten : ∀ id n, Removed lifetime events id n → ∀ b d, n ≤ b → m.callers[b]? = some d →
    d.state.entry ≠ id
  /-- Who comes then does not find it in the map either. -/
  not_joined : ∀ id n, Removed lifetime events id n → ∀ s now, (m.cache.join s now).entry ≠ id
  /-- A leader takes out no entry but its own, whatever has become of that. -/
  newer_kept : ∀ a c ev, m.callers[a]? = some c → ev.caller? = some a → ∀ s id,
    m.cache.idOf? s = some id → id ≠ c.state.entry → (m.apply ev).cache.idOf? s = some id

theorem failuresForgotten (lifetime : Option Nat) (events : List (SessionEvent α)) :
    FailuresForgotten lifetime (reached lifetime events) events := by
  have hcoherent := coherent_reached lifetime events
  have hout := failuresOut lifetime events
  refine ⟨fun s id hid => ?_, fun id n h => h.shut.others, fun id n h s now => ?_,
    fun a c ev ha hev s id hid hne => idOf?_of_step hev ha hid hne⟩
  · obtain ⟨x, hx, -⟩ := Option.map_eq_some_iff.mp (hcoherent.current s id hid)
    have hflight : (reached lifetime events).cache.flight? id = some x.flight := by
      rw [SessionCache.flight?, hx]
      rfl
    cases hx' : x.flight with
    | building => exact .inl (hx' ▸ hflight)
    | landed outcome =>
      rw [hx'] at hflight
      cases outcome with
      | ok y => exact .inr ⟨y, hflight⟩
      | error e => exact absurd hid (hout.landed id e hflight s)
  · have hshut := h.shut
    cases hlive : (reached lifetime events).cache.live? s now with
    | some i =>
      rw [SessionCache.join_of_live hlive]
      rintro rfl
      exact hshut.out s (SessionCache.idOf?_of_live hlive)
    | none =>
      rw [SessionCache.join_of_not_live hlive]
      exact Nat.ne_of_gt hshut.lt

end SessionMachine
end ProviderCoverage

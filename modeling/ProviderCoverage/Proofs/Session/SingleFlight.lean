import Mathlib.Data.List.Induction
import Mathlib.Data.List.Nodup
import ProviderCoverage.Proofs.Session.Moves

/-! Single flight. Whatever the order in which callers, releases, clears and the clock take their
steps, an entry has one leader, its build runs once, and who waits for it gets what its leader gets.
Two builds of one session run at once only if the entry of the first was taken out before the second
caller came (`singleFlight`). -/

namespace ProviderCoverage

variable {α : Type}

/-- What the state of a caller says of its entry: leaders pass from `building` to `returned` and
land the entry with the last step, others wait until it has landed. -/
def Caller.Fits (m : SessionMachine α) (c : Caller α) : Prop :=
  match c.state with
  | .building id => c.leads = true ∧ m.cache.flight? id = some .building ∧ id ∉ m.built
  | .failing id _ | .landing id _ =>
    c.leads = true ∧ m.cache.flight? id = some .building ∧ id ∈ m.built
  | .waiting _ => c.leads = false
  | .returned id outcome => m.cache.flight? id = some (.landed outcome)

namespace Caller.Fits

variable {m : SessionMachine α} {c : Caller α} {id : EntryId}

theorem of_building (h : c.Fits m) (hstate : c.state = .building id) :
    c.leads = true ∧ m.cache.flight? id = some .building ∧ id ∉ m.built := by
  simpa only [Fits, hstate] using h

theorem of_failing {e : BuildError} (h : c.Fits m) (hstate : c.state = .failing id e) :
    c.leads = true ∧ m.cache.flight? id = some .building ∧ id ∈ m.built := by
  simpa only [Fits, hstate] using h

theorem of_landing {outcome : Outcome α} (h : c.Fits m) (hstate : c.state = .landing id outcome) :
    c.leads = true ∧ m.cache.flight? id = some .building ∧ id ∈ m.built := by
  simpa only [Fits, hstate] using h

theorem of_waiting (h : c.Fits m) (hstate : c.state = .waiting id) : c.leads = false := by
  simpa only [Fits, hstate] using h

theorem of_returned {outcome : Outcome α} (h : c.Fits m) (hstate : c.state = .returned id outcome) :
    m.cache.flight? id = some (.landed outcome) := by
  simpa only [Fits, hstate] using h

/-- A leader whose entry has landed has returned. -/
theorem returned_of_landed {outcome : Outcome α} (h : c.Fits m) (hleads : c.leads = true)
    (hflight : m.cache.flight? c.state.entry = some (.landed outcome)) :
    c.state = .returned c.state.entry outcome := by
  cases hstate : c.state with
  | building id =>
    rw [hstate] at hflight
    exact absurd (hflight.symm.trans (h.of_building hstate).2.1) nofun
  | failing id e =>
    rw [hstate] at hflight
    exact absurd (hflight.symm.trans (h.of_failing hstate).2.1) nofun
  | landing id o =>
    rw [hstate] at hflight
    exact absurd (hflight.symm.trans (h.of_landing hstate).2.1) nofun
  | waiting id => exact absurd (hleads.symm.trans (h.of_waiting hstate)) nofun
  | returned id o =>
    rw [hstate] at hflight
    cases hflight.symm.trans (h.of_returned hstate)
    rfl

end Caller.Fits

namespace SessionMachine

/-- Who has obtained which entry, and whether it leads. -/
def roster (m : SessionMachine α) : List (SessionId × EntryId × Bool) :=
  m.callers.map fun c => (c.session, c.state.entry, c.leads)

/-- The entries whose builds are running. -/
def running (m : SessionMachine α) : List EntryId :=
  m.callers.filterMap (·.state.building?)

structure Coherent (m : SessionMachine α) : Prop where
  /-- Leaders come in the order in which they make their entries. -/
  leaders : (m.roster.filter (·.2.2)).map (·.2.1) = List.range m.cache.entries.length
  session : ∀ p ∈ m.roster, m.cache.sessionOf? p.2.1 = some p.1
  current : ∀ s id, m.cache.idOf? s = some id → m.cache.sessionOf? id = some s
  built_nodup : m.built.Nodup
  built_lt : ∀ id ∈ m.built, id < m.cache.entries.length
  fits : ∀ (a : Nat) (c : Caller α), m.callers[a]? = some c → c.Fits m

variable {m m' : SessionMachine α} {ev : SessionEvent α} {a b : Nat} {c d : Caller α}
  {id : EntryId}

theorem roster_moveTo {state : CallerState α} (ha : m.callers[a]? = some c)
    (hentry : state.entry = c.state.entry) : (m.moveTo a state).roster = m.roster := by
  refine List.ext_getElem? fun b => ?_
  rw [roster, roster, List.getElem?_map, List.getElem?_map, getElem?_moveTo]
  by_cases hab : a = b
  · subst hab
    simp [ha, hentry]
  · simp [hab]

/-- Leaders that come later lead later entries. -/
theorem Coherent.entry_lt (h : m.Coherent) (hab : a < b) (ha : m.callers[a]? = some c)
    (hb : m.callers[b]? = some d) (hc : c.leads = true) (hd : d.leads = true) :
    c.state.entry < d.state.entry := by
  have hpairs : ((m.roster.filter (·.2.2)).map (·.2.1)).Pairwise (· < ·) := by
    rw [h.leaders]
    exact List.pairwise_lt_range
  rw [List.pairwise_map, List.pairwise_filter, roster, List.pairwise_map,
    List.pairwise_iff_getElem] at hpairs
  obtain ⟨hlta, rfl⟩ := List.getElem?_eq_some_iff.mp ha
  obtain ⟨hltb, rfl⟩ := List.getElem?_eq_some_iff.mp hb
  exact hpairs a b hlta hltb hab hc hd

/-- An entry has at most one leader. -/
theorem Coherent.eq_of_leads (h : m.Coherent) (ha : m.callers[a]? = some c)
    (hb : m.callers[b]? = some d) (hc : c.leads = true) (hd : d.leads = true)
    (hentry : c.state.entry = d.state.entry) : a = b := by
  rcases Nat.lt_trichotomy a b with hab | hab | hab
  · exact absurd hentry (Nat.ne_of_lt (h.entry_lt hab ha hb hc hd))
  · exact hab
  · exact absurd hentry (Nat.ne_of_gt (h.entry_lt hab hb ha hd hc))

theorem Coherent.exists_leader (h : m.Coherent) (hid : id < m.cache.entries.length) :
    ∃ (a : Nat) (c : Caller α),
      m.callers[a]? = some c ∧ c.leads = true ∧ c.state.entry = id := by
  have hmem : id ∈ (m.roster.filter (·.2.2)).map (·.2.1) := by
    rw [h.leaders]
    exact List.mem_range.mpr hid
  obtain ⟨p, hp, rfl⟩ := List.mem_map.mp hmem
  obtain ⟨hp, hleads⟩ := List.mem_filter.mp hp
  obtain ⟨c, hc, rfl⟩ := List.mem_map.mp hp
  obtain ⟨a, ha⟩ := List.mem_iff_getElem?.mp hc
  exact ⟨a, c, ha, hleads, rfl⟩

/-- Callers that look at nothing that changes still fit. Those that wait look at nothing. -/
theorem fits_of_eq (h : c.Fits m)
    (hflight : (∀ id, c.state ≠ .waiting id) →
      m'.cache.flight? c.state.entry = m.cache.flight? c.state.entry)
    (hbuilt : c.leads = true → (c.state.entry ∈ m'.built ↔ c.state.entry ∈ m.built)) :
    c.Fits m' := by
  obtain ⟨session, state, leads⟩ := c
  cases state with
  | building id =>
    obtain ⟨hleads, hf, hb⟩ := h
    exact ⟨hleads, (hflight nofun).trans hf, mt (hbuilt hleads).mp hb⟩
  | failing id e =>
    obtain ⟨hleads, hf, hb⟩ := h
    exact ⟨hleads, (hflight nofun).trans hf, (hbuilt hleads).mpr hb⟩
  | landing id outcome =>
    obtain ⟨hleads, hf, hb⟩ := h
    exact ⟨hleads, (hflight nofun).trans hf, (hbuilt hleads).mpr hb⟩
  | waiting id => exact h
  | returned id outcome => exact (hflight nofun).trans h

namespace Coherent

/-- One caller moves and keeps its entry; what others look at stays. -/
theorem move {state : CallerState α} (h : m.Coherent) (ha : m.callers[a]? = some c)
    (hcallers : m'.callers = (m.moveTo a state).callers) (hentry : state.entry = c.state.entry)
    (hsession : ∀ id, m'.cache.sessionOf? id = m.cache.sessionOf? id)
    (hlength : m'.cache.entries.length = m.cache.entries.length)
    (hcurrent : ∀ s id, m'.cache.idOf? s = some id → m.cache.idOf? s = some id)
    (hnodup : m'.built.Nodup) (hlt : ∀ id ∈ m'.built, id < m.cache.entries.length)
    (hself : ({ c with state } : Caller α).Fits m')
    (hothers : ∀ (b : Nat) (d : Caller α), b ≠ a → m.callers[b]? = some d → d.Fits m') :
    m'.Coherent := by
  have hroster : m'.roster = m.roster := by
    rw [← roster_moveTo ha hentry, roster, roster, hcallers]
  refine ⟨?_, ?_, fun s id hid => ?_, hnodup, ?_, fun b d hb => ?_⟩
  · rw [hroster, hlength]
    exact h.leaders
  · rw [hroster]
    exact fun p hp => (hsession _).trans (h.session p hp)
  · exact (hsession id).trans (h.current s id (hcurrent s id hid))
  · rw [hlength]
    exact hlt
  · rw [hcallers, getElem?_moveTo] at hb
    by_cases hba : b = a
    · subst hba
      simp only [ha, Option.map_some, if_true, Option.some.injEq] at hb
      exact hb ▸ hself
    · rw [Option.map_eq_some_iff] at hb
      obtain ⟨d, hd, rfl⟩ := hb
      rw [if_neg (Ne.symm hba)]
      exact hothers b d hba hd

theorem start (lifetime : Option Nat) (now : Nat) :
    (SessionMachine.start (α := α) (.empty lifetime) now).Coherent where
  leaders := rfl
  session := nofun
  current := nofun
  built_nodup := .nil
  built_lt := nofun
  fits := nofun

theorem build (h : m.Coherent) (ha : m.callers[a]? = some c) (hstate : c.state = .building id)
    (outcome : Outcome α) :
    (m.endBuild a id outcome).Coherent := by
  obtain ⟨hleads, hflight, hbuilt⟩ := (h.fits a c ha).of_building hstate
  have hid : c.state.entry = id := by rw [hstate]; rfl
  refine h.move ha rfl (by rw [CallerState.entry_afterBuild, hid]) (fun _ => rfl) rfl
    (fun _ _ h => h) ?_ ?_ ?_ fun b d hba hb => ?_
  · exact Lists.nodup_concat h.built_nodup hbuilt
  · intro i hi
    rcases List.mem_append.mp hi with hi | hi
    · exact h.built_lt i hi
    · exact List.mem_singleton.mp hi ▸ SessionCache.lt_of_flight? hflight
  · cases outcome <;> exact ⟨hleads, hflight, by simp [endBuild]⟩
  · refine fits_of_eq (h.fits b d hb) (fun _ => rfl) fun hd => ?_
    have hne : d.state.entry ≠ id := fun heq =>
      hba (h.eq_of_leads hb ha hd hleads (heq.trans hid.symm))
    simp [endBuild, hne]

theorem forget (h : m.Coherent) {e : BuildError} (ha : m.callers[a]? = some c)
    (hstate : c.state = .failing id e) :
    (m.forgetBy a c.session id e).Coherent := by
  obtain ⟨hleads, hbuilding, hbuilt⟩ := (h.fits a c ha).of_failing hstate
  have hentries : (m.cache.forget c.session id).entries = m.cache.entries := by
    rw [SessionCache.forget]
    split <;> rfl
  have hsession : ∀ i, (m.cache.forget c.session id).sessionOf? i = m.cache.sessionOf? i := by
    intro i
    rw [SessionCache.sessionOf?, SessionCache.entryAt?_forget]
    rfl
  have hflight : ∀ i, (m.cache.forget c.session id).flight? i = m.cache.flight? i := by
    intro i
    rw [SessionCache.flight?, SessionCache.entryAt?_forget]
    rfl
  have hcurrent : ∀ s i, (m.cache.forget c.session id).idOf? s = some i →
      m.cache.idOf? s = some i := by
    intro s i hi
    rw [SessionCache.idOf?_forget] at hi
    split at hi
    · cases hi
    · exact hi
  refine h.move ha rfl (by rw [hstate]; rfl) hsession (congrArg List.length hentries) hcurrent
    h.built_nodup h.built_lt ?_ fun b d _ hb => ?_
  · exact ⟨hleads, (hflight id).trans hbuilding, hbuilt⟩
  · exact fits_of_eq (h.fits b d hb) (fun _ => hflight _) fun _ => Iff.rfl

theorem land (h : m.Coherent) {outcome : Outcome α} (ha : m.callers[a]? = some c)
    (hstate : c.state = .landing id outcome) :
    (m.landBy a id outcome).Coherent := by
  obtain ⟨hleads, hflight, -⟩ := (h.fits a c ha).of_landing hstate
  have hid : c.state.entry = id := by rw [hstate]; rfl
  have hland : ∀ i, (m.cache.land id outcome).flight? i =
      if id = i then (m.cache.flight? i).map fun _ => .landed outcome else m.cache.flight? i := by
    intro i
    rw [SessionCache.flight?, SessionCache.entryAt?_land, SessionCache.flight?]
    by_cases hi : id = i <;> cases m.cache.entryAt? i <;> simp [hi]
  have hsession : ∀ i, (m.cache.land id outcome).sessionOf? i = m.cache.sessionOf? i := by
    intro i
    rw [SessionCache.sessionOf?, SessionCache.entryAt?_land, SessionCache.sessionOf?]
    cases m.cache.entryAt? i with
    | none => rfl
    | some e => by_cases hi : id = i <;> simp [hi]
  refine h.move ha rfl hid.symm hsession (List.length_modify ..) (fun _ _ h => h)
    h.built_nodup h.built_lt ?_ fun b d hba hb => ?_
  · exact (hland id).trans (by simp [hflight])
  · -- Nobody else has an outcome of the entry yet, nor leads it.
    have hother := h.fits b d hb
    have hne : (∀ i, d.state ≠ .waiting i) → id ≠ d.state.entry := by
      intro hwaits heq
      have hleads' : d.leads = true → False := fun hd =>
        hba (h.eq_of_leads hb ha hd hleads (heq.symm.trans hid.symm))
      cases hd : d.state with
      | building i => exact hleads' (hother.of_building hd).1
      | failing i e => exact hleads' (hother.of_failing hd).1
      | landing i o => exact hleads' (hother.of_landing hd).1
      | waiting i => exact hwaits i hd
      | returned i o =>
        rw [hd] at heq
        subst heq
        exact absurd (hflight.symm.trans (hother.of_returned hd)) nofun
    exact fits_of_eq hother (fun hwaits => (hland _).trans (if_neg (hne hwaits))) fun _ => Iff.rfl

theorem wake (h : m.Coherent) {outcome : Outcome α} (ha : m.callers[a]? = some c)
    (hstate : c.state = .waiting id) (hflight : m.cache.flight? id = some (.landed outcome)) :
    (m.moveTo a (.returned id outcome)).Coherent :=
  h.move ha rfl (by rw [hstate]; rfl) (fun _ => rfl) rfl (fun _ _ h => h) h.built_nodup h.built_lt
    hflight fun b d _ hb => fits_of_eq (h.fits b d hb) (fun _ => rfl) fun _ => Iff.rfl

theorem join (h : m.Coherent) {s : SessionId} (hid : m.cache.idOf? s = some id) :
    (m.joinBy s id).Coherent := by
  have hroster : (m.joinBy s id).roster = m.roster ++ [(s, id, false)] := List.map_append
  refine ⟨?_, ?_, h.current, h.built_nodup, h.built_lt, fun b d hb => ?_⟩
  · rw [hroster, List.filter_append, List.map_append]
    simpa [joinBy] using h.leaders
  · intro p hp
    rw [hroster] at hp
    rcases List.mem_append.mp hp with hp | hp
    · exact h.session p hp
    · rw [List.mem_singleton.mp hp]
      exact h.current s id hid
  · rcases List.mem_append.mp (List.mem_of_getElem? hb) with hd | hd
    · obtain ⟨b, hb⟩ := List.mem_iff_getElem?.mp hd
      exact fits_of_eq (h.fits b d hb) (fun _ => rfl) fun _ => Iff.rfl
    · rw [List.mem_singleton.mp hd]
      exact rfl

theorem lead (h : m.Coherent) (s : SessionId) : (m.leadBy s).Coherent := by
  have hroster : (m.leadBy s).roster = m.roster ++ [(s, m.cache.entries.length, true)] :=
    List.map_append
  have hold : ∀ i, i < m.cache.entries.length →
      SessionCache.entryAt? (m.cache.addEntry s m.now) i = m.cache.entryAt? i := fun i hi =>
    SessionCache.entryAt?_addEntry_of_lt hi
  have hsession : ∀ i t, m.cache.sessionOf? i = some t →
      (m.cache.addEntry s m.now).sessionOf? i = some t := by
    intro i t hi
    rw [SessionCache.sessionOf?, hold i (SessionCache.lt_of_sessionOf? hi)]
    exact hi
  refine ⟨?_, ?_, fun t i hi => ?_, h.built_nodup, fun i hi => ?_, fun b d hb => ?_⟩
  · rw [hroster, List.filter_append, List.map_append, h.leaders, leadBy_cache,
      SessionCache.addEntry, List.length_append]
    exact List.range_succ.symm
  · intro p hp
    rw [hroster] at hp
    rcases List.mem_append.mp hp with hp | hp
    · exact hsession _ _ (h.session p hp)
    · rw [List.mem_singleton.mp hp]
      simp [SessionCache.sessionOf?]
  · rw [leadBy_cache, SessionCache.idOf?_addEntry] at hi
    split at hi
    · next heq =>
      cases hi
      simp [SessionCache.sessionOf?, heq]
    · exact hsession i t (h.current t i hi)
  · rw [leadBy_cache, SessionCache.addEntry, List.length_append]
    exact Nat.lt_succ_of_lt (h.built_lt i hi)
  · rcases List.mem_append.mp (List.mem_of_getElem? hb) with hd | hd
    · obtain ⟨b, hb⟩ := List.mem_iff_getElem?.mp hd
      have hmem : (d.session, d.state.entry, d.leads) ∈ m.roster := List.mem_map.mpr ⟨d, hd, rfl⟩
      have hlt := SessionCache.lt_of_sessionOf? (h.session _ hmem)
      refine fits_of_eq (h.fits b d hb) (fun _ => ?_) fun _ => Iff.rfl
      rw [leadBy_cache, SessionCache.flight?, hold _ hlt]
      rfl
    · rw [List.mem_singleton.mp hd]
      refine ⟨rfl, by simp [SessionCache.flight?], fun hmem => ?_⟩
      exact Nat.lt_irrefl _ (h.built_lt _ hmem)

/-- A release or a clear makes entries absent and changes none of them. -/
theorem leave (h : m.Coherent) {current : List (SessionId × EntryId)}
    (hcurrent : ∀ s id, current.lookup s = some id → m.cache.idOf? s = some id) :
    (m.leave current).Coherent where
  leaders := h.leaders
  session := h.session
  current := fun s id hid => h.current s id (hcurrent s id hid)
  built_nodup := h.built_nodup
  built_lt := h.built_lt
  fits := fun b d hb => fits_of_eq (h.fits b d hb) (fun _ => rfl) fun _ => Iff.rfl

theorem moves (h : m.Coherent) (hm : m.Moves ev m') : m'.Coherent := by
  cases hm with
  | idle => exact h
  | join s id hlive => exact h.join (SessionCache.idOf?_of_live hlive)
  | lead s hlive => exact h.lead s
  | build a c id outcome ha hstate => exact h.build ha hstate outcome
  | forget a c id e ha hstate => exact h.forget ha hstate
  | land a c id outcome ha hstate => exact h.land ha hstate
  | wake a c id outcome ha hstate hflight => exact h.wake ha hstate hflight
  | release s =>
    refine h.leave fun t id hid => ?_
    rw [SessionCache.lookup_without] at hid
    split at hid
    · cases hid
    · exact hid
  | clear => exact h.leave nofun
  | pass time =>
    exact ⟨h.leaders, h.session, h.current, h.built_nodup, h.built_lt, fun b d hb =>
      fits_of_eq (h.fits b d hb) (fun _ => rfl) fun _ => Iff.rfl⟩

theorem run (h : m.Coherent) (events : List (SessionEvent α)) : (m.run events).Coherent := by
  induction events generalizing m with
  | nil => exact h
  | cons ev events ih => exact ih (h.moves (m.moves_apply ev))

end Coherent

/-! ### Builds of one session -/

/-- The machine after some events, from one with an empty cache. -/
def reached (lifetime : Option Nat) (events : List (SessionEvent α)) : SessionMachine α :=
  (start (.empty lifetime) 0).run events

/-- After caller `a` came and before caller `b` came, a release or a clear took out the entry of
the session. -/
def TakenOut (lifetime : Option Nat) (events : List (SessionEvent α)) (s : SessionId)
    (id : EntryId) (a b : Nat) : Prop :=
  ∃ before ev after, events = before ++ ev :: after ∧ (ev = .release s ∨ ev = .clear) ∧
    (reached lifetime before).cache.idOf? s = some id ∧
    a < (reached lifetime before).callers.length ∧ (reached lifetime before).callers.length ≤ b

variable {lifetime : Option Nat} {events : List (SessionEvent α)} {s : SessionId}

theorem reached_concat :
    reached lifetime (events ++ [ev]) = (reached lifetime events).apply ev := by
  simp [reached, run]

theorem coherent_reached (lifetime : Option Nat) (events : List (SessionEvent α)) :
    (reached lifetime events).Coherent :=
  (Coherent.start lifetime 0).run events

theorem TakenOut.append (h : TakenOut lifetime events s id a b) (more : List (SessionEvent α)) :
    TakenOut lifetime (events ++ more) s id a b := by
  obtain ⟨before, ev, after, rfl, hev, hid, ha, hb⟩ := h
  exact ⟨before, ev, after ++ more, by simp, hev, hid, ha, hb⟩

theorem TakenOut.mono (h : TakenOut lifetime events s id a b) {n : Nat} (hn : b ≤ n) :
    TakenOut lifetime events s id a n := by
  obtain ⟨before, ev, after, hevents, hev, hid, ha, hb⟩ := h
  exact ⟨before, ev, after, hevents, hev, hid, ha, Nat.le_trans hb hn⟩

theorem length_le_of_moves (hm : m.Moves ev m') : m.callers.length ≤ m'.callers.length := by
  cases hm <;> simp [joinBy, leadBy, endBuild, forgetBy, landBy, leave, passBy, moveTo]

/-- Only who calls starts to build, and then there was no live entry. -/
theorem building_of_moves (hm : m.Moves ev m') (hb : m'.callers[b]? = some d)
    (hstate : d.state = .building id) :
    m.callers[b]? = some d ∨ b = m.callers.length ∧
      m.cache.live? d.session m.now = none ∧ m'.cache.idOf? d.session = some id := by
  have hmoved : ∀ {a state}, (m.moveTo a state).callers[b]? = some d →
      (∀ i, state ≠ .building i) → m.callers[b]? = some d := by
    intro a state hb hne
    rw [getElem?_moveTo, Option.map_eq_some_iff] at hb
    obtain ⟨e, he, rfl⟩ := hb
    split at hstate
    · exact absurd hstate (hne id)
    · next hab => rw [if_neg hab, he]
  cases hm with
  | idle | release | clear | pass => exact .inl hb
  | join s i hlive =>
    rcases Lists.getElem?_concat hb with hb | ⟨-, rfl⟩
    · exact .inl hb
    · cases hstate
  | lead s hlive =>
    rcases Lists.getElem?_concat hb with hb | ⟨rfl, rfl⟩
    · exact .inl hb
    · cases hstate
      exact .inr ⟨rfl, hlive, by simp⟩
  | build a c i outcome ha =>
    refine .inl (hmoved hb fun j => ?_)
    cases outcome <;> nofun
  | forget | land | wake => exact .inl (hmoved hb nofun)

/-- Only a release or a clear takes out the entry of a build that runs. -/
theorem idOf?_of_moves (h : m.Coherent) (hm : m.Moves ev m') (ha : m.callers[a]? = some c)
    (hstate : c.state = .building id) (hid : m.cache.idOf? c.session = some id) :
    m'.cache.idOf? c.session = some id ∨
      (ev = .release c.session ∨ ev = .clear) ∧ m'.callers = m.callers := by
  obtain ⟨hleads, hflight, hbuilt⟩ := (h.fits a c ha).of_building hstate
  cases hm with
  | idle | join | build | land | wake | pass => exact .inl hid
  | lead s hlive =>
    rw [leadBy_cache, SessionCache.idOf?_addEntry, if_neg]
    · exact .inl hid
    · rintro rfl
      rw [SessionCache.live?_of_building hid hflight] at hlive
      cases hlive
  | forget b d i e hb hfailing =>
    -- The caller that forgets its entry has ended its build.
    rw [forgetBy_cache, SessionCache.idOf?_forget, if_neg]
    · exact .inl hid
    · rintro ⟨heq, hi⟩
      rw [← heq, hid, Option.some.injEq] at hi
      exact hbuilt (hi ▸ ((h.fits b d hb).of_failing hfailing).2.2)
  | release s =>
    by_cases hs : c.session = s
    · exact .inr ⟨.inl (by rw [hs]), rfl⟩
    · refine .inl ((SessionCache.lookup_without ..).trans ?_)
      rw [if_neg hs]
      exact hid
  | clear => exact .inr ⟨.inr rfl, rfl⟩

/-- What has become of the entries of the builds that run. -/
structure Separate (lifetime : Option Nat) (events : List (SessionEvent α)) : Prop where
  /-- The session still has the entry, unless it was taken out. -/
  kept : ∀ {a c id}, (reached lifetime events).callers[a]? = some c → c.state = .building id →
    (reached lifetime events).cache.idOf? c.session = some id ∨
      TakenOut lifetime events c.session id a (reached lifetime events).callers.length
  apart : ∀ {a b c d i j}, a < b → (reached lifetime events).callers[a]? = some c →
    (reached lifetime events).callers[b]? = some d → c.state = .building i →
    d.state = .building j → c.session = d.session → TakenOut lifetime events c.session i a b

theorem Separate.concat (h : Separate lifetime events) (ev : SessionEvent α) :
    Separate lifetime (events ++ [ev]) := by
  have hcoherent := coherent_reached lifetime events
  have hmoves := (reached lifetime events).moves_apply ev
  rw [← reached_concat] at hmoves
  constructor
  · intro a c id ha hstate
    rcases building_of_moves hmoves ha hstate with hold | ⟨-, -, hnew⟩
    · rcases h.kept hold hstate with hid | htaken
      · rcases idOf?_of_moves hcoherent hmoves hold hstate hid with hkept | ⟨hev, hcallers⟩
        · exact .inl hkept
        · refine .inr ⟨events, ev, [], rfl, hev, hid, ?_, hcallers ▸ Nat.le_refl _⟩
          exact (List.getElem?_eq_some_iff.mp hold).1
      · exact .inr ((htaken.append [ev]).mono (length_le_of_moves hmoves))
    · exact .inl hnew
  · intro a b c d i j hab ha hb hc hd hsession
    rcases building_of_moves hmoves hb hd with hbold | ⟨rfl, hlive, -⟩
    · rcases building_of_moves hmoves ha hc with haold | ⟨rfl, -, -⟩
      · exact (h.apart hab haold hbold hc hd hsession).append [ev]
      · have hlt := (List.getElem?_eq_some_iff.mp hbold).1
        omega
    · -- The later caller has just come, and the entry of the earlier one was not live any more.
      rcases building_of_moves hmoves ha hc with haold | ⟨rfl, -, -⟩
      · rcases h.kept haold hc with hid | htaken
        · have hflight := ((hcoherent.fits a c haold).of_building hc).2.1
          rw [← hsession, SessionCache.live?_of_building hid hflight] at hlive
          cases hlive
        · exact htaken.append [ev]
      · omega

theorem separate (lifetime : Option Nat) (events : List (SessionEvent α)) :
    Separate lifetime events := by
  induction events using List.reverseRecOn with
  | nil => exact ⟨nofun, nofun⟩
  | append_singleton events ev ih => exact ih.concat ev

/-! ### The guarantee -/

/-- What callers of the cache are promised, after any events. -/
structure SingleFlight (lifetime : Option Nat) (m : SessionMachine α)
    (events : List (SessionEvent α)) : Prop where
  one_leader : ∀ id < m.cache.entries.length,
    ∃! a : Nat, ∃ c : Caller α, m.callers[a]? = some c ∧ c.leads = true ∧ c.state.entry = id
  leader_builds : ∀ c ∈ m.callers, ∀ id, c.state = .building id → c.leads = true
  /-- No build has run twice, nor runs again. -/
  built_once : (m.built ++ m.running).Nodup
  /-- Who returns has what the leader of its entry has returned. -/
  same_outcome : ∀ c ∈ m.callers, ∀ d ∈ m.callers, ∀ id outcome, c.leads = true →
    c.state.entry = id → d.state = .returned id outcome → c.state = .returned id outcome
  apart : ∀ (a b : Nat) (c d : Caller α) (i j : EntryId), a < b → m.callers[a]? = some c →
    m.callers[b]? = some d → c.state = .building i → d.state = .building j →
    c.session = d.session → TakenOut lifetime events c.session i a b
  /-- At whatever time a caller comes, it joins the build that the session has on its way. -/
  joins : ∀ c ∈ m.callers, ∀ id, c.state = .building id → m.cache.idOf? c.session = some id →
    ∀ now, m.cache.join c.session now = ⟨m.cache, id, false⟩

theorem Coherent.built_once (h : m.Coherent) : (m.built ++ m.running).Nodup := by
  refine List.nodup_append.mpr ⟨h.built_nodup, ?_, ?_⟩
  · refine List.pairwise_filterMap.mpr (List.pairwise_iff_getElem.mpr ?_)
    intro a b ha hb hab i hi j hj
    rw [CallerState.building?_eq_some_iff] at hi hj
    have ha' := List.getElem?_eq_getElem ha
    have hb' := List.getElem?_eq_getElem hb
    have hlt := h.entry_lt hab ha' hb' ((h.fits a _ ha').of_building hi).1
      ((h.fits b _ hb').of_building hj).1
    rw [hi, hj] at hlt
    exact Nat.ne_of_lt hlt
  · rintro i hi j hj rfl
    obtain ⟨c, hc, hstate⟩ := List.mem_filterMap.mp hj
    obtain ⟨a, ha⟩ := List.mem_iff_getElem?.mp hc
    exact ((h.fits a c ha).of_building (CallerState.building?_eq_some_iff.mp hstate)).2.2 hi

theorem singleFlight (lifetime : Option Nat) (events : List (SessionEvent α)) :
    SingleFlight lifetime (reached lifetime events) events := by
  have h := coherent_reached lifetime events
  have hfits : ∀ c ∈ (reached lifetime events).callers, c.Fits (reached lifetime events) := by
    intro c hc
    obtain ⟨a, ha⟩ := List.mem_iff_getElem?.mp hc
    exact h.fits a c ha
  refine ⟨fun id hid => ?_, fun c hc id hstate => ((hfits c hc).of_building hstate).1,
    h.built_once, ?_, fun _ _ _ _ _ _ => (separate lifetime events).apart, ?_⟩
  · obtain ⟨a, c, ha, hc, hentry⟩ := h.exists_leader hid
    refine ⟨a, ⟨c, ha, hc, hentry⟩, ?_⟩
    rintro b ⟨d, hb, hd, hentry'⟩
    exact h.eq_of_leads hb ha hd hc (hentry'.trans hentry.symm)
  · rintro c hc d hd _ outcome hleads rfl hreturned
    exact (hfits c hc).returned_of_landed hleads ((hfits d hd).of_returned hreturned)
  · intro c hc id hstate hid now
    have hflight := ((hfits c hc).of_building hstate).2.1
    exact SessionCache.join_of_live (SessionCache.live?_of_building hid hflight)

end SessionMachine
end ProviderCoverage

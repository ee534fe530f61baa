import Mathlib.Data.List.Induction
import ProviderCoverage.Proofs.Discovery.Index

/-! The history of one key in a discovery state. What becomes of a key depends on the discoveries
and on whether an entity has it and which receiver is indexed under it, and on nothing else that the
state holds (`standing_rename`). A key is lost only when the receiver that is indexed under it is
given another name (`run_eq_absent_iff`). -/

namespace ProviderCoverage

/-- What a state holds of a key: no entity, or one, with the receiver that is indexed under it. -/
inductive Standing where
  | absent
  | present (holder : Option String)
deriving DecidableEq

namespace Standing

/-- After a receiver has been given a name for certain. -/
def rename (key : EntityKey) : Standing → String × EntityKey → Standing
  | absent, (receiver, name) => if name = key then present (some receiver) else absent
  | present holder, (receiver, name) =>
    if name ≠ key ∧ holder = some receiver then absent else present holder

def run (key : EntityKey) (start : Standing) (names : List (String × EntityKey)) : Standing :=
  names.foldl (rename key) start

variable {key name : EntityKey} {receiver : String} {start st : Standing}
  {names : List (String × EntityKey)}

theorem rename_eq_absent_iff : st.rename key (receiver, name) = absent ↔
    name ≠ key ∧ (st = absent ∨ st = present (some receiver)) := by
  cases st with
  | absent => by_cases h : name = key <;> simp [rename, h]
  | present holder => by_cases h : name ≠ key ∧ holder = some receiver <;> simp_all [rename]

theorem run_append (more : List (String × EntityKey)) :
    run key start (names ++ more) = run key (run key start names) more := by
  simp [run]

theorem run_concat : run key start (names ++ [(receiver, name)]) =
    (run key start names).rename key (receiver, name) := by
  simp [run]

theorem run_absent (h : ∀ n ∈ names, n.2 ≠ key) : run key absent names = absent := by
  induction names with
  | nil => rfl
  | cons n names ih =>
    have hn : rename key absent n = absent := if_neg (h n (List.mem_cons_self ..))
    simpa [run, hn] using ih fun m hm => h m (List.mem_cons_of_mem _ hm)

/-- The receiver that holds a key is given another name, and no receiver is given the key after
that. -/
def Surrenders (key : EntityKey) (start : Standing) (names : List (String × EntityKey)) : Prop :=
  ∃ before receiver name after, names = before ++ (receiver, name) :: after ∧
    run key start before = present (some receiver) ∧ name ≠ key ∧ ∀ n ∈ after, n.2 ≠ key

/-- A key that somebody is given or that has been there is lost only by surrender. -/
theorem run_eq_absent_iff (h : start ≠ absent ∨ ∃ n ∈ names, n.2 = key) :
    run key start names = absent ↔ Surrenders key start names := by
  constructor
  · intro hrun
    induction names using List.reverseRecOn with
    | nil =>
      rcases h with h | ⟨n, hn, -⟩
      · exact absurd hrun h
      · cases hn
    | append_singleton names n ih =>
      obtain ⟨receiver, name⟩ := n
      rw [run_concat, rename_eq_absent_iff] at hrun
      obtain ⟨hname, hst | hst⟩ := hrun
      · -- The key was lost before, and the last name is another one.
        have hmem : start ≠ absent ∨ ∃ n ∈ names, n.2 = key := by
          refine h.imp_right ?_
          rintro ⟨n, hn, hk⟩
          rcases List.mem_append.mp hn with hn | hn
          · exact ⟨n, hn, hk⟩
          · cases List.mem_singleton.mp hn
            exact absurd hk hname
        obtain ⟨before, r, other, after, rfl, hbefore, hother, hafter⟩ := ih hmem hst
        refine ⟨before, r, other, after ++ [(receiver, name)], by simp, hbefore, hother, ?_⟩
        intro n hn
        rcases List.mem_append.mp hn with hn | hn
        · exact hafter n hn
        · cases List.mem_singleton.mp hn
          exact hname
      · exact ⟨names, receiver, name, [], rfl, hst, hname, by simp⟩
  · rintro ⟨before, receiver, name, after, rfl, hbefore, hname, hafter⟩
    have hlost : rename key (run key start before) (receiver, name) = absent :=
      rename_eq_absent_iff.mpr ⟨hname, .inr hbefore⟩
    rw [show before ++ (receiver, name) :: after = (before ++ [(receiver, name)]) ++ after by simp,
      run_append, run_concat, hlost]
    exact run_absent hafter

/-- Who holds a key has held it from the start or has been given a name since. -/
theorem holder_of_run (h : run key start names = present (some receiver)) :
    start = present (some receiver) ∨ receiver ∈ names.map (·.1) := by
  induction names using List.reverseRecOn with
  | nil => exact .inl h
  | append_singleton names n ih =>
    obtain ⟨r, name⟩ := n
    rw [run_concat] at h
    cases hst : run key start names with
    | absent =>
      rw [hst] at h
      by_cases hname : name = key
      · simp_all [rename]
      · simp [rename, hname] at h
    | present holder =>
      rw [hst] at h
      by_cases hlost : name ≠ key ∧ holder = some r
      · simp [rename, hlost] at h
      · simp only [rename, if_neg hlost] at h
        rcases ih (hst.trans h) with h | h
        · exact .inl h
        · exact .inr (by simp [h])

theorem run_of_notMem (hr : receiver ∉ names.map (·.1)) :
    run key (present (some receiver)) names = present (some receiver) := by
  induction names with
  | nil => rfl
  | cons n names ih =>
    simp only [List.map_cons, List.mem_cons, not_or] at hr
    have hn : rename key (present (some receiver)) n = present (some receiver) := by
      simp [rename, hr.1]
    simpa [run, hn] using ih hr.2

/-- If no receiver is given two names, who surrenders a key has held it from the start. -/
theorem surrenders_iff (hnames : (names.map (·.1)).Nodup) :
    Surrenders key start names ↔
      ∃ before receiver name after, names = before ++ (receiver, name) :: after ∧
        start = present (some receiver) ∧ name ≠ key ∧ ∀ n ∈ after, n.2 ≠ key := by
  constructor
  · rintro ⟨before, receiver, name, after, rfl, hbefore, hname, hafter⟩
    refine ⟨before, receiver, name, after, rfl, ?_, hname, hafter⟩
    refine (holder_of_run hbefore).resolve_right fun hr => ?_
    rw [List.map_append, List.nodup_append] at hnames
    exact hnames.2.2 _ hr receiver (List.mem_cons_self ..) rfl
  · rintro ⟨before, receiver, name, after, rfl, rfl, hname, hafter⟩
    refine ⟨before, receiver, name, after, rfl, run_of_notMem fun hr => ?_, hname, hafter⟩
    rw [List.map_append, List.nodup_append] at hnames
    exact hnames.2.2 _ hr receiver (List.mem_cons_self ..) rfl

end Standing

namespace Discovery

def key : Discovery → EntityKey
  | insert e _ | rename _ e => e.key

/-- The receiver that a discovery is about, when it is known. -/
def receiver? : Discovery → Option String
  | insert _ r => r
  | rename r _ => some r

def named? (d : Discovery) : Option (String × EntityKey) :=
  d.receiver?.map (·, d.key)

end Discovery

/-- The standing that the first of some discoveries of a key gives it. -/
def Standing.first (key : EntityKey) (ds : List Discovery) : Standing :=
  match ds.find? (·.key = key) with
  | some d => .present d.receiver?
  | none => .absent

namespace DiscoveryState

def standing (s : DiscoveryState) (key : EntityKey) : Standing :=
  if s.contains key then .present (s.receiverOf? key) else .absent

variable {s s' : DiscoveryState} {key : EntityKey} {r : String}

theorem WellIndexed.receiverOf?_eq_some_iff (h : s.WellIndexed) :
    s.receiverOf? key = some r ↔ (r, key) ∈ s.receivers := by
  simp only [receiverOf?, Option.map_eq_some_iff]
  constructor
  · rintro ⟨p, hp, rfl⟩
    have hk : p.2 = key := by simpa using List.find?_some hp
    exact hk ▸ List.mem_of_find?_eq_some hp
  · intro hm
    cases hf : s.receivers.find? (·.2 = key) with
    | none => simpa using List.find?_eq_none.mp hf _ hm
    | some p =>
      have hk : p.2 = key := by simpa using List.find?_some hf
      exact ⟨p, rfl, h.eq_of_mem (hk ▸ List.mem_of_find?_eq_some hf) hm⟩

theorem standing_eq_absent_iff : s.standing key = .absent ↔ key ∉ s.keys := by
  rw [← contains_eq_false_iff, standing]
  split <;> simp_all

theorem standing_ne_absent_iff : s.standing key ≠ .absent ↔ s.contains key = true := by
  rw [ne_eq, standing_eq_absent_iff, not_not, contains_iff]

theorem WellIndexed.standing_of_mem (h : s.WellIndexed) (hr : (r, key) ∈ s.receivers) :
    s.standing key = .present (some r) := by
  rw [standing, if_pos (contains_iff.mpr (h.present _ hr)), h.receiverOf?_eq_some_iff.mpr hr]

theorem WellIndexed.mem_of_standing (h : s.WellIndexed)
    (hst : s.standing key = .present (some r)) : (r, key) ∈ s.receivers := by
  rw [standing] at hst
  split at hst
  · exact h.receiverOf?_eq_some_iff.mp (Standing.present.inj hst)
  · cases hst

/-- Only the entity of the key and the receiver that is indexed under it count. -/
theorem WellIndexed.standing_congr (h : s.WellIndexed) (h' : s'.WellIndexed)
    (hk : key ∈ s'.keys ↔ key ∈ s.keys)
    (hr : ∀ r, (r, key) ∈ s'.receivers ↔ (r, key) ∈ s.receivers) :
    s'.standing key = s.standing key := by
  have hc : s'.contains key = s.contains key := by
    rw [Bool.eq_iff_iff, contains_iff, contains_iff, hk]
  have hholder : s'.receiverOf? key = s.receiverOf? key := by
    ext r
    rw [h.receiverOf?_eq_some_iff, h'.receiverOf?_eq_some_iff, hr]
  rw [standing, standing, hc, hholder]

/-- An entity that is known already, or of another key, is none of the key's business. -/
theorem WellIndexed.standing_insert_of_other (h : s.WellIndexed) {e : Entity}
    (he : key ∈ s.keys ∨ e.key ≠ key) (receiver : Option String) :
    (s.insert e receiver).standing key = s.standing key := by
  by_cases hc : s.contains e.key = true
  · rw [insert_of_contains hc]
  have hne : e.key ≠ key := by
    rcases he with he | he
    · rintro rfl
      exact hc (contains_iff.mpr he)
    · exact he
  rw [Bool.not_eq_true] at hc
  refine h.standing_congr (h.insert e receiver) ?_ fun r => ?_
  · simp [insert_of_not_contains hc, DiscoveryState.keys, hne.symm]
  · rw [insert_of_not_contains hc]
    rcases index_cases s.receivers receiver e.key with hi | ⟨x, -, -, hi⟩ <;>
      simp [hi, hne.symm]

/-- A receiver that is not indexed under a key and gets another one changes nothing for the key. -/
private theorem WellIndexed.standing_rename_of_other (h : s.WellIndexed) {receiver : String}
    {e : Entity} (hr : (receiver, key) ∉ s.receivers) (he : e.key ≠ key) :
    (s.rename receiver e).standing key = s.standing key := by
  cases hk : s.keyOf? receiver with
  | none => rw [rename_of_none hk]; exact h.standing_insert_of_other (.inr he) _
  | some old =>
    have hold : old ≠ key := by
      rintro rfl
      exact hr (h.keyOf?_eq_some_iff.mp hk)
    by_cases heq : old = e.key
    · rw [rename_same (heq ▸ hk)]
    refine h.standing_congr (h.rename receiver e) ?_ fun r => ?_
    · by_cases hc : s.contains e.key = true
      · simp [h.mem_keys_taken hk heq hc, hold.symm]
      · rw [Bool.not_eq_true] at hc
        simp [h.mem_keys_free hk heq hc, hold.symm, he.symm]
    · have hne : (r, key) ∈ s.receivers → r ≠ receiver := by
        rintro hm rfl
        exact hr hm
      by_cases hc : s.contains e.key = true
      · simpa [h.mem_receivers_taken hk heq hc] using hne
      · rw [Bool.not_eq_true] at hc
        simpa [h.mem_receivers_free hk heq hc, he.symm] using hne

/-- A name that is known already stays with its entity. -/
private theorem WellIndexed.standing_rename_of_known (h : s.WellIndexed) {e : Entity}
    (receiver : String) (he : e.key ∈ s.keys) :
    (s.rename receiver e).standing e.key = s.standing e.key := by
  cases hk : s.keyOf? receiver with
  | none => rw [rename_of_none hk]; exact h.standing_insert_of_other (.inl he) _
  | some old =>
    by_cases heq : old = e.key
    · rw [rename_same (heq ▸ hk)]
    have hne {r : String} (hm : (r, e.key) ∈ s.receivers) : r ≠ receiver := by
      rintro rfl
      exact heq (Option.some.inj (hk.symm.trans (h.keyOf?_eq_some_iff.mpr hm)))
    have hc : s.contains e.key = true := contains_iff.mpr he
    refine h.standing_congr (h.rename receiver e) ?_ fun r => ?_
    · simp [h.mem_keys_taken hk heq hc, Ne.symm heq]
    · simpa [h.mem_receivers_taken hk heq hc] using hne

/-- A new name is that of the receiver. -/
private theorem WellIndexed.standing_rename_of_new (h : s.WellIndexed) {e : Entity}
    (receiver : String) (he : e.key ∉ s.keys) :
    (s.rename receiver e).standing e.key = .present (some receiver) := by
  have hc : s.contains e.key = false := contains_eq_false_iff.mpr he
  refine (h.rename receiver e).standing_of_mem ?_
  cases hk : s.keyOf? receiver with
  | none =>
    rw [rename_of_none hk, insert_of_not_contains hc]
    simp [index, show s.receivers.lookup receiver = none from hk]
  | some old =>
    have heq : old ≠ e.key := by
      rintro rfl
      exact he (h.present _ (h.keyOf?_eq_some_iff.mp hk))
    exact (h.mem_receivers_free hk heq hc).mpr (.inr rfl)

/-- A receiver that gets another name gives up the key under which it is indexed. -/
private theorem WellIndexed.standing_rename_of_holder (h : s.WellIndexed) {receiver : String}
    {e : Entity} (hr : (receiver, key) ∈ s.receivers) (he : e.key ≠ key) :
    (s.rename receiver e).standing key = .absent := by
  have hk : s.keyOf? receiver = some key := h.keyOf?_eq_some_iff.mpr hr
  rw [standing_eq_absent_iff]
  by_cases hc : s.contains e.key = true
  · simp [h.mem_keys_taken hk he.symm hc]
  · rw [Bool.not_eq_true] at hc
    simp [h.mem_keys_free hk he.symm hc, he.symm]

/-- What a renaming does to a key depends on nothing but the standing of that key. -/
theorem WellIndexed.standing_rename (h : s.WellIndexed) (receiver : String) (e : Entity)
    (key : EntityKey) :
    (s.rename receiver e).standing key = (s.standing key).rename key (receiver, e.key) := by
  by_cases he : e.key = key
  · subst he
    by_cases hk : e.key ∈ s.keys
    · rw [h.standing_rename_of_known receiver hk, standing, if_pos (contains_iff.mpr hk)]
      simp [Standing.rename]
    · rw [h.standing_rename_of_new receiver hk, standing_eq_absent_iff.mpr hk]
      simp [Standing.rename]
  · by_cases hr : (receiver, key) ∈ s.receivers
    · rw [h.standing_rename_of_holder hr he, h.standing_of_mem hr]
      simp [Standing.rename, he]
    · rw [h.standing_rename_of_other hr he]
      cases hst : s.standing key with
      | absent => simp [Standing.rename, he]
      | present holder =>
        have hholder : holder ≠ some receiver := by
          rintro rfl
          exact hr (h.mem_of_standing hst)
        simp [Standing.rename, hholder]

theorem WellIndexed.standing_insert_of_new (h : s.WellIndexed) {e : Entity}
    {receiver : Option String} (he : e.key ∉ s.keys)
    (hr : ∀ x, receiver = some x → x ∉ s.receivers.map (·.1)) :
    (s.insert e receiver).standing e.key = .present receiver := by
  have hc : s.contains e.key = false := contains_eq_false_iff.mpr he
  have hw := h.insert e receiver
  have hholder : (s.insert e receiver).receiverOf? e.key = receiver := by
    ext x
    rw [hw.receiverOf?_eq_some_iff, insert_of_not_contains hc]
    have hold : (x, e.key) ∉ s.receivers := fun hm => he (h.present _ hm)
    cases receiver with
    | none => simpa [index] using hold
    | some r =>
      have hfree : s.receivers.lookup r = none := Lookup.eq_none_iff_notMem.mpr (hr r rfl)
      simp [index, hfree, hold, eq_comm]
  rw [standing, if_pos (by simp [contains_insert]), hholder]

/-! ### Runs of discoveries -/

/-- Names that are given for certain, one after the other. -/
theorem WellIndexed.standing_applyAll_renames (h : s.WellIndexed) {ds : List Discovery}
    (hds : ∀ d ∈ ds, ∃ r e, d = .rename r e) (key : EntityKey) :
    (s.applyAll ds).standing key = Standing.run key (s.standing key) (ds.filterMap (·.named?)) := by
  induction ds generalizing s with
  | nil => rfl
  | cons d ds ih =>
    obtain ⟨r, e, rfl⟩ := hds d (List.mem_cons_self ..)
    have hstep := ih (h.rename r e) fun d hd => hds d (List.mem_cons_of_mem _ hd)
    rw [h.standing_rename] at hstep
    exact hstep

theorem WellIndexed.standing_applyAll_of_present (h : s.WellIndexed) {ds : List Discovery}
    (hds : ∀ d ∈ ds, ∃ e r, d = .insert e r) (hst : s.standing key ≠ .absent) :
    (s.applyAll ds).standing key = s.standing key := by
  induction ds generalizing s with
  | nil => rfl
  | cons d ds ih =>
    obtain ⟨e, r, rfl⟩ := hds d (List.mem_cons_self ..)
    have hk : key ∈ s.keys := contains_iff.mp (standing_ne_absent_iff.mp hst)
    have hstep : (s.insert e r).standing key = s.standing key :=
      h.standing_insert_of_other (.inl hk) r
    have hrest := ih (h.insert e r) (fun d hd => hds d (List.mem_cons_of_mem _ hd)) (hstep ▸ hst)
    exact hrest.trans hstep

/-- Where a receiver stands for one name only, the first entity of a key brings its receiver. -/
theorem WellIndexed.standing_applyAll_inserts (h : s.WellIndexed) (nameOf : String → EntityKey)
    {ds : List Discovery}
    (hds : ∀ d ∈ ds, ∃ e r, d = .insert e r ∧ ∀ x, r = some x → e.key = nameOf x)
    (hs : ∀ p ∈ s.receivers, p.2 = nameOf p.1) (hst : s.standing key = .absent) :
    (s.applyAll ds).standing key = Standing.first key ds := by
  induction ds generalizing s with
  | nil => exact hst
  | cons d ds ih =>
    obtain ⟨e, r, rfl, hr⟩ := hds d (List.mem_cons_self ..)
    have hrest : ∀ d ∈ ds, ∃ e r, d = .insert e r ∧ ∀ x, r = some x → e.key = nameOf x :=
      fun d hd => hds d (List.mem_cons_of_mem _ hd)
    by_cases he : e.key = key
    · subst he
      have hk : e.key ∉ s.keys := standing_eq_absent_iff.mp hst
      have hfree : ∀ x, r = some x → x ∉ s.receivers.map (·.1) := by
        intro x hx hm
        obtain ⟨p, hp, rfl⟩ := List.mem_map.mp hm
        exact hk (hr _ hx ▸ hs p hp ▸ h.present p hp)
      have hnew := h.standing_insert_of_new hk hfree
      have hkeep := (h.insert e r).standing_applyAll_of_present
        (fun d hd => let ⟨e, r, hd, _⟩ := hrest d hd; ⟨e, r, hd⟩) (by rw [hnew]; nofun)
      rw [Standing.first, List.find?_cons_of_pos (by simp [Discovery.key])]
      exact hkeep.trans hnew
    · have hstep : (s.insert e r).standing key = .absent :=
        (h.standing_insert_of_other (.inr he) r).trans hst
      rw [Standing.first, List.find?_cons_of_neg (by simp [Discovery.key, he])]
      refine ih (h.insert e r) hrest (fun p hp => ?_) hstep
      rcases mem_receivers_insert hp with hp | ⟨hx, hkey⟩
      · exact hs p hp
      · exact hkey.trans (hr p.1 hx)

theorem contains_applyAll_inserts {ds : List Discovery} (hds : ∀ d ∈ ds, ∃ e r, d = .insert e r) :
    (s.applyAll ds).contains key = true ↔ s.contains key = true ∨ ∃ d ∈ ds, d.key = key := by
  induction ds generalizing s with
  | nil => simp [applyAll]
  | cons d ds ih =>
    obtain ⟨e, r, rfl⟩ := hds d (List.mem_cons_self ..)
    have hrest : ((s.insert e r).applyAll ds).contains key = true ↔ _ :=
      ih fun d hd => hds d (List.mem_cons_of_mem _ hd)
    refine hrest.trans ?_
    simp [contains_insert, Discovery.key, or_assoc]

end DiscoveryState
end ProviderCoverage

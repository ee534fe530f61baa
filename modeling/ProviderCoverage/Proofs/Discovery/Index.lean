import ProviderCoverage.Discovery.State
import ProviderCoverage.Proofs.Lists

/-! The index of a discovery state. Keys and receivers occur once, every indexed key is that of an
entity, and no two receivers have the same key. The three facts need one another: an insertion
keeps the index injective because no indexed key lacks its entity, and a renaming takes away an
entity that no other receiver is indexed under because the index is injective. -/

namespace ProviderCoverage.DiscoveryState

def keys (s : DiscoveryState) : List EntityKey :=
  s.entities.map (·.key)

/-- The receivers that are indexed, and the keys that they are indexed under. -/
structure WellIndexed (s : DiscoveryState) : Prop where
  keys : s.keys.Nodup
  receivers : (s.receivers.map (·.1)).Nodup
  injective : (s.receivers.map (·.2)).Nodup
  present : ∀ p ∈ s.receivers, p.2 ∈ s.keys

variable {s : DiscoveryState} {e : Entity} {receiver : String} {key : EntityKey}

theorem contains_iff : s.contains key = true ↔ key ∈ s.keys := by
  simp [contains, entity?, keys]

theorem contains_eq_false_iff : s.contains key = false ↔ key ∉ s.keys := by
  rw [← contains_iff, Bool.not_eq_true]

theorem insert_of_contains (h : s.contains e.key = true) (r : Option String) :
    s.insert e r = s := by
  simp [insert, h]

theorem insert_of_not_contains (h : s.contains e.key = false) (r : Option String) :
    s.insert e r = ⟨s.entities ++ [e], index s.receivers r e.key⟩ := by
  simp [insert, h]

/-- A receiver is added to the index only if it is not there. -/
theorem index_cases (receivers : List (String × EntityKey)) (r : Option String)
    (key : EntityKey) :
    index receivers r key = receivers ∨
      ∃ x, r = some x ∧ x ∉ receivers.map (·.1) ∧
        index receivers r key = receivers ++ [(x, key)] := by
  cases r with
  | none => exact .inl rfl
  | some r =>
    cases hr : receivers.lookup r with
    | none => exact .inr ⟨r, rfl, Lookup.eq_none_iff_notMem.mp hr, by simp [index, hr]⟩
    | some k => exact .inl (by simp [index, hr])

theorem mem_receivers_insert {r : Option String} {p : String × EntityKey}
    (hp : p ∈ (s.insert e r).receivers) : p ∈ s.receivers ∨ r = some p.1 ∧ p.2 = e.key := by
  by_cases hc : s.contains e.key = true
  · exact .inl (insert_of_contains hc r ▸ hp)
  rw [Bool.not_eq_true] at hc
  rw [insert_of_not_contains hc] at hp
  rcases index_cases s.receivers r e.key with hi | ⟨x, rfl, -, hi⟩
  · exact .inl (hi ▸ hp)
  · rcases List.mem_append.mp (hi ▸ hp) with hp | hp
    · exact .inl hp
    · cases List.mem_singleton.mp hp
      exact .inr ⟨rfl, rfl⟩

theorem rename_of_none (h : s.keyOf? receiver = none) :
    s.rename receiver e = s.insert e (some receiver) := by
  simp [rename, h]

theorem rename_same (h : s.keyOf? receiver = some e.key) : s.rename receiver e = s := by
  simp [rename, h]

theorem mem_withoutReceiver {p : String × EntityKey} :
    p ∈ s.withoutReceiver receiver ↔ p ∈ s.receivers ∧ p.1 ≠ receiver := by
  simp [withoutReceiver]

/-- The keys after a renaming that finds the name free. -/
theorem map_key_renamed (es : List Entity) (old : EntityKey) :
    (es.map fun x => if x.key = old then renamed x e else x).map (·.key) =
      (es.map (·.key)).map fun k => if k = old then e.key else k := by
  simp only [List.map_map]
  apply List.map_congr_left
  intro x _
  by_cases h : x.key = old <;> simp [h, renamed]

namespace WellIndexed

theorem empty : WellIndexed empty where
  keys := List.nodup_nil
  receivers := List.nodup_nil
  injective := List.nodup_nil
  present := by simp [DiscoveryState.empty]

theorem keyOf?_eq_some_iff (h : s.WellIndexed) :
    s.keyOf? receiver = some key ↔ (receiver, key) ∈ s.receivers :=
  Lookup.eq_some_iff_mem h.receivers

theorem contains_of_keyOf? (h : s.WellIndexed) (hk : s.keyOf? receiver = some key) :
    s.contains key = true :=
  contains_iff.mpr (h.present _ (h.keyOf?_eq_some_iff.mp hk))

/-- The name is taken: the entity of the receiver is given up. -/
theorem rename_taken (h : s.WellIndexed) {old : EntityKey} (hk : s.keyOf? receiver = some old)
    (hne : old ≠ e.key) (hc : s.contains e.key = true) :
    s.rename receiver e = ⟨s.entities.filter (·.key ≠ old), s.withoutReceiver receiver⟩ := by
  simp [rename, hk, hne, h.contains_of_keyOf? hk, hc]

/-- The name is free: the entity of the receiver takes it. -/
theorem rename_free (h : s.WellIndexed) {old : EntityKey} (hk : s.keyOf? receiver = some old)
    (hne : old ≠ e.key) (hc : s.contains e.key = false) :
    s.rename receiver e =
      ⟨s.entities.map fun x => if x.key = old then renamed x e else x,
        s.withoutReceiver receiver ++ [(receiver, e.key)]⟩ := by
  simp [rename, hk, hne, h.contains_of_keyOf? hk, hc]

section
variable (h : s.WellIndexed) {old : EntityKey} (hk : s.keyOf? receiver = some old)
  (hne : old ≠ e.key)
include h hk hne

theorem mem_keys_taken (hc : s.contains e.key = true) :
    key ∈ (s.rename receiver e).keys ↔ key ∈ s.keys ∧ key ≠ old := by
  rw [h.rename_taken hk hne hc]
  simp only [DiscoveryState.keys, List.mem_map, List.mem_filter, decide_eq_true_eq]
  constructor
  · rintro ⟨x, ⟨hx, hx'⟩, rfl⟩
    exact ⟨⟨x, hx, rfl⟩, hx'⟩
  · rintro ⟨⟨x, hx, rfl⟩, hx'⟩
    exact ⟨x, ⟨hx, hx'⟩, rfl⟩

theorem mem_keys_free (hc : s.contains e.key = false) :
    key ∈ (s.rename receiver e).keys ↔ key ∈ s.keys ∧ key ≠ old ∨ key = e.key := by
  rw [h.rename_free hk hne hc, DiscoveryState.keys, map_key_renamed, List.mem_map]
  constructor
  · rintro ⟨k, hmem, rfl⟩
    by_cases hold : k = old
    · exact .inr (if_pos hold)
    · exact .inl (by simpa only [if_neg hold] using ⟨hmem, hold⟩)
  · rintro (⟨hmem, hold⟩ | rfl)
    · exact ⟨key, hmem, if_neg hold⟩
    · exact ⟨old, contains_iff.mp (h.contains_of_keyOf? hk), if_pos rfl⟩

theorem mem_receivers_taken (hc : s.contains e.key = true) {p : String × EntityKey} :
    p ∈ (s.rename receiver e).receivers ↔ p ∈ s.receivers ∧ p.1 ≠ receiver := by
  rw [h.rename_taken hk hne hc]
  exact mem_withoutReceiver

theorem mem_receivers_free (hc : s.contains e.key = false) {p : String × EntityKey} :
    p ∈ (s.rename receiver e).receivers ↔
      (p ∈ s.receivers ∧ p.1 ≠ receiver) ∨ p = (receiver, e.key) := by
  rw [h.rename_free hk hne hc, List.mem_append, List.mem_singleton, mem_withoutReceiver]

end

/-- No other receiver has the key of this one. -/
theorem eq_of_mem (h : s.WellIndexed) {r r' : String} (hr : (r, key) ∈ s.receivers)
    (hr' : (r', key) ∈ s.receivers) : r = r' :=
  congrArg Prod.fst (List.inj_on_of_nodup_map h.injective hr hr' rfl)

/-- An entity of a new key keeps the state well indexed, with or without a new receiver. -/
private theorem extend (h : s.WellIndexed) (he : e.key ∉ s.keys)
    {receivers : List (String × EntityKey)}
    (hr : receivers = s.receivers ∨
      ∃ r, r ∉ s.receivers.map (·.1) ∧ receivers = s.receivers ++ [(r, e.key)]) :
    WellIndexed ⟨s.entities ++ [e], receivers⟩ := by
  have hkeys : DiscoveryState.keys ⟨s.entities ++ [e], receivers⟩ = s.keys ++ [e.key] := by
    simp [DiscoveryState.keys]
  have hv : e.key ∉ s.receivers.map (·.2) := by
    intro hv
    obtain ⟨p, hp, hpe⟩ := List.mem_map.mp hv
    exact he (hpe ▸ h.present p hp)
  rcases hr with rfl | ⟨r, hr, rfl⟩
  · refine ⟨hkeys ▸ Lists.nodup_concat h.keys he, h.receivers, h.injective, fun p hp => ?_⟩
    rw [hkeys]
    exact List.mem_append_left _ (h.present p hp)
  · refine ⟨hkeys ▸ Lists.nodup_concat h.keys he, ?_, ?_, fun p hp => ?_⟩
    · rw [List.map_append]
      exact Lists.nodup_concat h.receivers hr
    · rw [List.map_append]
      exact Lists.nodup_concat h.injective hv
    · rw [hkeys]
      rcases List.mem_append.mp hp with hp | hp
      · exact List.mem_append_left _ (h.present p hp)
      · cases List.mem_singleton.mp hp
        exact List.mem_append_right _ (List.mem_singleton_self _)

protected theorem insert (h : s.WellIndexed) (e : Entity) (r : Option String) :
    (s.insert e r).WellIndexed := by
  by_cases hc : s.contains e.key = true
  · rwa [insert_of_contains hc]
  rw [Bool.not_eq_true] at hc
  rw [insert_of_not_contains hc]
  refine h.extend (contains_eq_false_iff.mp hc) ?_
  exact (index_cases ..).imp_right fun ⟨x, _, hx, hi⟩ => ⟨x, hx, hi⟩

/-- The entity of a receiver is given up: no other receiver is indexed under its key. -/
private theorem drop (h : s.WellIndexed) {old : EntityKey} (hold : (receiver, old) ∈ s.receivers) :
    WellIndexed ⟨s.entities.filter (·.key ≠ old), s.withoutReceiver receiver⟩ := by
  have hkeys : (s.entities.filter (·.key ≠ old)).map (·.key) = s.keys.filter (· ≠ old) := by
    simp [DiscoveryState.keys, List.filter_map, Function.comp_def]
  refine ⟨?_, h.receivers.sublist (List.filter_sublist.map _),
    h.injective.sublist (List.filter_sublist.map _), fun p hp => ?_⟩
  · exact h.keys.sublist (List.filter_sublist.map _)
  · obtain ⟨hmem, hne⟩ := mem_withoutReceiver.mp hp
    change p.2 ∈ (s.entities.filter (·.key ≠ old)).map (·.key)
    rw [hkeys, List.mem_filter, decide_eq_true_eq]
    exact ⟨h.present p hmem, fun heq => hne (h.eq_of_mem (heq ▸ hmem) hold)⟩

/-- The entity of a receiver takes a free name. -/
private theorem replace (h : s.WellIndexed) {old : EntityKey}
    (hold : (receiver, old) ∈ s.receivers) (he : e.key ∉ s.keys) :
    WellIndexed ⟨s.entities.map fun x => if x.key = old then renamed x e else x,
      s.withoutReceiver receiver ++ [(receiver, e.key)]⟩ := by
  have hv : e.key ∉ (s.withoutReceiver receiver).map (·.2) := by
    intro hv
    obtain ⟨p, hp, hpe⟩ := List.mem_map.mp hv
    exact he (hpe ▸ h.present p (mem_withoutReceiver.mp hp).1)
  have hr : receiver ∉ (s.withoutReceiver receiver).map (·.1) := by
    intro hr
    obtain ⟨p, hp, hpr⟩ := List.mem_map.mp hr
    exact (mem_withoutReceiver.mp hp).2 hpr
  refine ⟨?_, ?_, ?_, fun p hp => ?_⟩
  · rw [DiscoveryState.keys, map_key_renamed]
    apply h.keys.map_on
    intro a ha b hb hab
    split at hab <;> split at hab
    · simp_all
    · exact absurd (hab ▸ hb) he
    · exact absurd (hab ▸ ha) he
    · exact hab
  · rw [List.map_append]
    exact Lists.nodup_concat (h.receivers.sublist (List.filter_sublist.map _)) hr
  · rw [List.map_append]
    exact Lists.nodup_concat (h.injective.sublist (List.filter_sublist.map _)) hv
  · rw [DiscoveryState.keys, map_key_renamed]
    rcases List.mem_append.mp hp with hp | hp
    · obtain ⟨hmem, hne⟩ := mem_withoutReceiver.mp hp
      exact List.mem_map.mpr ⟨p.2, h.present p hmem,
        if_neg fun heq => hne (h.eq_of_mem (heq ▸ hmem) hold)⟩
    · cases List.mem_singleton.mp hp
      exact List.mem_map.mpr ⟨old, h.present _ hold, if_pos rfl⟩

protected theorem rename (h : s.WellIndexed) (receiver : String) (e : Entity) :
    (s.rename receiver e).WellIndexed := by
  cases hk : s.keyOf? receiver with
  | none => rw [rename_of_none hk]; exact h.insert e _
  | some old =>
    have hold := h.keyOf?_eq_some_iff.mp hk
    by_cases heq : old = e.key
    · rwa [rename_same (heq ▸ hk)]
    by_cases hc : s.contains e.key = true
    · rw [h.rename_taken hk heq hc]
      exact h.drop hold
    · rw [h.rename_free hk heq (Bool.not_eq_true _ ▸ hc)]
      exact h.replace hold (fun hm => hc (contains_iff.mpr hm))

protected theorem apply (h : s.WellIndexed) (d : Discovery) : (s.apply d).WellIndexed := by
  cases d with
  | insert e r => exact h.insert e r
  | rename r e => exact h.rename r e

theorem applyAll (h : s.WellIndexed) (ds : List Discovery) : (s.applyAll ds).WellIndexed := by
  induction ds generalizing s with
  | nil => exact h
  | cons d ds ih => exact ih (h.apply d)

end WellIndexed
end ProviderCoverage.DiscoveryState

import ProviderCoverage.Proofs.Discovery.Standing

/-! What a renaming does to a state. It adds the entity, ignores it, leaves the state as it is,
gives the entity of the receiver its new name, or drops that entity because the name is taken. In
every case the name is that of one entity afterwards, the name that the receiver had before is gone,
and all other entities stay as they are and where they are (`apply_rename`). -/

namespace ProviderCoverage.DiscoveryState

/-- The entity `old` under the name of `e`: its place in the source stays, and what was learned
about it. -/
structure TakesName (old e new : Entity) : Prop where
  key : new.key = e.key
  location : new.location = old.location
  attributes_of_some : old.attributes ≠ [] → new.attributes = old.attributes
  attributes_of_none : old.attributes = [] → new.attributes = e.attributes
  importable : new.importable = true ↔ old.importable = true ∨ e.importable = true

/-- The state `s'` differs from `s` in that `receiver` has the entity `e`. -/
structure Renames (s : DiscoveryState) (receiver : String) (e : Entity) (s' : DiscoveryState) :
    Prop where
  once : s'.keys.count e.key = 1
  /-- The receiver gives up another name. -/
  given_up : ∀ old, s.keyOf? receiver = some old → old ≠ e.key → old ∉ s'.keys
  /-- The entities that the receiver is not indexed under stay, in their order. -/
  kept : (s.entities.filter fun x => some x.key ≠ s.keyOf? receiver).Sublist s'.entities
  known : ∀ x ∈ s'.entities, x ∈ s.entities ∨ x.key = e.key
  others : ∀ r, r ≠ receiver → s'.byReceiver? r = s.byReceiver? r
  /-- An entity that takes a free name stays where it is. -/
  in_place : ∀ old, s.keyOf? receiver = some old → old ≠ e.key → e.key ∉ s.keys →
    ∃ i x y, s.entities[i]? = some x ∧ x.key = old ∧ TakesName x e y ∧
      s'.entities = s.entities.set i y ∧ s'.byReceiver? receiver = some y

variable {s : DiscoveryState} {e x : Entity} {receiver r : String} {key : EntityKey}

theorem takesName_renamed (old e : Entity) : TakesName old e (renamed old e) where
  key := rfl
  location := rfl
  attributes_of_some h := if_neg (by simpa using h)
  attributes_of_none h := if_pos (by simpa using h)
  importable := by simp [renamed]

theorem mem_receivers_insert_of_mem {receiver : Option String} {p : String × EntityKey}
    (hp : p ∈ s.receivers) : p ∈ (s.insert e receiver).receivers := by
  by_cases hc : s.contains e.key = true
  · rwa [insert_of_contains hc]
  rw [Bool.not_eq_true] at hc
  rw [insert_of_not_contains hc]
  rcases index_cases s.receivers receiver e.key with hi | ⟨x, -, -, hi⟩
  · rwa [hi]
  · rw [hi]
    exact List.mem_append_left _ hp

/-- Where keys occur once, what is done to the entity of a key is done at one place. -/
theorem map_eq_set {es : List Entity} {i : Nat} (hes : (es.map (·.key)).Nodup)
    (hi : es[i]? = some x) (f : Entity → Entity) :
    (es.map fun y => if y.key = x.key then f y else y) = es.set i (f x) := by
  obtain ⟨hlt, rfl⟩ := List.getElem?_eq_some_iff.mp hi
  refine List.ext_getElem (by simp) fun j hj hj' => ?_
  have hjlt : j < es.length := by simpa using hj
  rw [List.getElem_map, List.getElem_set]
  by_cases hij : i = j
  · subst hij
    simp
  · have hkey : es[j].key ≠ es[i].key := by
      intro heq
      have hsame : es[j] = es[i] :=
        List.inj_on_of_nodup_map hes (List.getElem_mem hjlt) (List.getElem_mem hlt) heq
      exact hij ((hes.of_map _).getElem_inj_iff.mp hsame.symm)
    rw [if_neg hkey, if_neg hij]

namespace WellIndexed

theorem entity?_eq_some_iff (h : s.WellIndexed) :
    s.entity? key = some x ↔ x ∈ s.entities ∧ x.key = key := by
  constructor
  · intro hx
    exact ⟨List.mem_of_find?_eq_some hx, by simpa using List.find?_some hx⟩
  · rintro ⟨hx, rfl⟩
    cases hfound : s.entity? x.key with
    | none => simpa using List.find?_eq_none.mp hfound x hx
    | some y =>
      have hy : y.key = x.key := by simpa using List.find?_some hfound
      rw [List.inj_on_of_nodup_map h.keys (List.mem_of_find?_eq_some hfound) hx hy]

theorem mem_keys_rename (h : s.WellIndexed) (receiver : String) (e : Entity) :
    e.key ∈ (s.rename receiver e).keys := by
  rw [← contains_iff, ← standing_ne_absent_iff, h.standing_rename, ne_eq,
    Standing.rename_eq_absent_iff]
  exact fun hlost => hlost.1 rfl

theorem notMem_keys_rename (h : s.WellIndexed) (hk : s.keyOf? receiver = some key)
    (hne : key ≠ e.key) : key ∉ (s.rename receiver e).keys := by
  rw [← standing_eq_absent_iff, h.standing_rename, Standing.rename_eq_absent_iff]
  exact ⟨hne.symm, .inr (h.standing_of_mem (h.keyOf?_eq_some_iff.mp hk))⟩

theorem keyOf?_rename_of_ne (h : s.WellIndexed) (hr : r ≠ receiver) :
    (s.rename receiver e).keyOf? r = s.keyOf? r := by
  ext key
  rw [(h.rename receiver e).keyOf?_eq_some_iff, h.keyOf?_eq_some_iff]
  cases hk : s.keyOf? receiver with
  | none =>
    rw [rename_of_none hk]
    constructor
    · intro hmem
      rcases mem_receivers_insert hmem with hmem | ⟨heq, -⟩
      · exact hmem
      · exact absurd (Option.some.inj heq).symm hr
    · exact mem_receivers_insert_of_mem
  | some old =>
    by_cases heq : old = e.key
    · rw [rename_same (heq ▸ hk)]
    by_cases hc : s.contains e.key = true
    · simp [h.mem_receivers_taken hk heq hc, hr]
    · rw [Bool.not_eq_true] at hc
      simp [h.mem_receivers_free hk heq hc, hr]

/-- Whatever the outcome, the other entities stay. -/
theorem kept_rename (h : s.WellIndexed) (receiver : String) (e : Entity) :
    (s.entities.filter fun x => some x.key ≠ s.keyOf? receiver).Sublist
      (s.rename receiver e).entities := by
  cases hk : s.keyOf? receiver with
  | none =>
    rw [rename_of_none hk, insert]
    split
    · exact List.filter_sublist
    · exact List.filter_sublist.trans (List.sublist_append_left ..)
  | some old =>
    by_cases heq : old = e.key
    · rw [rename_same (heq ▸ hk)]
      exact List.filter_sublist
    by_cases hc : s.contains e.key = true
    · rw [h.rename_taken hk heq hc]
      simp
    · rw [h.rename_free hk heq (Bool.not_eq_true _ ▸ hc)]
      refine Lists.filter_sublist_map fun x _ hx => if_neg ?_
      simpa using hx

theorem known_rename (h : s.WellIndexed) (hx : x ∈ (s.rename receiver e).entities) :
    x ∈ s.entities ∨ x.key = e.key := by
  cases hk : s.keyOf? receiver with
  | none =>
    rw [rename_of_none hk, insert] at hx
    split at hx
    · exact .inl hx
    · exact (List.mem_append.mp hx).imp_right fun hx => by rw [List.mem_singleton.mp hx]
  | some old =>
    by_cases heq : old = e.key
    · rw [rename_same (heq ▸ hk)] at hx
      exact .inl hx
    by_cases hc : s.contains e.key = true
    · rw [h.rename_taken hk heq hc] at hx
      exact .inl (List.mem_filter.mp hx).1
    · rw [h.rename_free hk heq (Bool.not_eq_true _ ▸ hc)] at hx
      obtain ⟨y, hy, rfl⟩ := List.mem_map.mp hx
      split
      · exact .inr rfl
      · exact .inl hy

/-- Another receiver keeps its entity, as it is indexed under another key. -/
theorem byReceiver?_rename_of_ne (h : s.WellIndexed) (hr : r ≠ receiver) :
    (s.rename receiver e).byReceiver? r = s.byReceiver? r := by
  rw [byReceiver?, byReceiver?, h.keyOf?_rename_of_ne hr]
  cases hk : s.keyOf? r with
  | none => rfl
  | some key =>
    obtain ⟨x, hx⟩ := Option.isSome_iff_exists.mp (h.contains_of_keyOf? hk)
    obtain ⟨hmem, hkey⟩ := h.entity?_eq_some_iff.mp hx
    have hother : some x.key ≠ s.keyOf? receiver := by
      intro hreceiver
      rw [hkey, eq_comm, h.keyOf?_eq_some_iff] at hreceiver
      exact hr (h.eq_of_mem (h.keyOf?_eq_some_iff.mp hk) hreceiver)
    have hkept : x ∈ (s.rename receiver e).entities :=
      (h.kept_rename receiver e).mem (List.mem_filter.mpr ⟨hmem, by simpa using hother⟩)
    rw [Option.bind_some, Option.bind_some, hx,
      (h.rename receiver e).entity?_eq_some_iff.mpr ⟨hkept, hkey⟩]

/-- The entity of the receiver takes a free name at its place. -/
theorem in_place_rename (h : s.WellIndexed) (hk : s.keyOf? receiver = some key)
    (hne : key ≠ e.key) (hfree : e.key ∉ s.keys) :
    ∃ i x, s.entities[i]? = some x ∧ x.key = key ∧
      (s.rename receiver e).entities = s.entities.set i (renamed x e) ∧
      (s.rename receiver e).byReceiver? receiver = some (renamed x e) := by
  obtain ⟨x, hx, hkey⟩ := List.mem_map.mp (contains_iff.mp (h.contains_of_keyOf? hk))
  obtain ⟨i, hi⟩ := List.getElem?_of_mem hx
  have hc : s.contains e.key = false := contains_eq_false_iff.mpr hfree
  have hset : (s.rename receiver e).entities = s.entities.set i (renamed x e) := by
    rw [h.rename_free hk hne hc, ← hkey]
    exact map_eq_set h.keys hi (renamed · e)
  have hnew : renamed x e ∈ (s.rename receiver e).entities := by
    rw [hset]
    exact List.mem_set (List.getElem?_eq_some_iff.mp hi).1 _
  have hindexed : (s.rename receiver e).keyOf? receiver = some e.key :=
    (h.rename receiver e).keyOf?_eq_some_iff.mpr ((h.mem_receivers_free hk hne hc).mpr (.inr rfl))
  refine ⟨i, x, hi, hkey, hset, ?_⟩
  rw [byReceiver?, hindexed]
  exact (h.rename receiver e).entity?_eq_some_iff.mpr ⟨hnew, rfl⟩

end WellIndexed

theorem Reachable.wellIndexed (hs : s.Reachable) : s.WellIndexed := by
  obtain ⟨ds, rfl⟩ := hs
  exact WellIndexed.empty.applyAll ds

/-- A renaming of any state that discoveries lead to. -/
theorem apply_rename (hs : s.Reachable) (receiver : String) (e : Entity) :
    s.Renames receiver e (s.apply (.rename receiver e)) where
  once := List.count_eq_one_of_mem (hs.wellIndexed.rename receiver e).keys
    (hs.wellIndexed.mem_keys_rename receiver e)
  given_up _ hk hne := hs.wellIndexed.notMem_keys_rename hk hne
  kept := hs.wellIndexed.kept_rename receiver e
  known _ hx := hs.wellIndexed.known_rename hx
  others _ hr := hs.wellIndexed.byReceiver?_rename_of_ne hr
  in_place _ hk hne hfree := by
    obtain ⟨i, x, hi, hkey, hset, hby⟩ := hs.wellIndexed.in_place_rename hk hne hfree
    exact ⟨i, x, renamed x e, hi, hkey, takesName_renamed x e, hset, hby⟩

/-- A resource that is named for its type, before another one. -/
def provisionalWidget : List Discovery :=
  [.insert ⟨⟨.resource, "widget_thing"⟩, ⟨"widget.go", 3, 1⟩, [.named "size"], false⟩
     (some "WidgetThingResource"),
   .insert ⟨⟨.resource, "gadget"⟩, ⟨"widget.go", 7, 1⟩, [], false⟩ (some "GadgetResource")]

def assignedWidget : Entity :=
  ⟨⟨.resource, "widget"⟩, ⟨"widget.go", 11, 1⟩, [], true⟩

/-- The resource is first and has its attribute when it has its assigned name. -/
theorem apply_rename_widget : ∃ s, s = empty.applyAll provisionalWidget ∧ s.Reachable ∧
    s.Renames "WidgetThingResource" assignedWidget
      (s.apply (.rename "WidgetThingResource" assignedWidget)) ∧
    (s.apply (.rename "WidgetThingResource" assignedWidget)).entities =
      [⟨⟨.resource, "widget"⟩, ⟨"widget.go", 3, 1⟩, [.named "size"], true⟩,
       ⟨⟨.resource, "gadget"⟩, ⟨"widget.go", 7, 1⟩, [], false⟩] :=
  ⟨_, rfl, ⟨_, rfl⟩, apply_rename ⟨_, rfl⟩ _ _, by decide⟩

end ProviderCoverage.DiscoveryState

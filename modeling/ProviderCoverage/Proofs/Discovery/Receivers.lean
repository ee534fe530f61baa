import ProviderCoverage.Discovery.Extraction
import ProviderCoverage.Proofs.Discovery.Standing

/-! Receivers and keys. Discoveries leave every entity with a key of its own and every indexed
receiver with an entity of its own, so a receiver leads to one entity and a key to one receiver,
in whatever order the index is searched (`applyAll_oneToOne`). -/

namespace ProviderCoverage

namespace DiscoveryState

/-- The same entities, and an index that lists the same receivers in another order. -/
def reindexed (s : DiscoveryState) (receivers : List (String × EntityKey)) : DiscoveryState :=
  { s with receivers }

/-- The index tells which receivers belong to which entities, one to one. -/
structure OneToOne (s : DiscoveryState) : Prop where
  keys_nodup : (s.entities.map (·.key)).Nodup
  /-- Who renames the entity of a receiver finds it. -/
  contains_of_keyOf? : ∀ receiver key, s.keyOf? receiver = some key → s.contains key = true
  keyOf?_injective : ∀ r r' key, s.keyOf? r = some key → s.keyOf? r' = some key → r = r'
  receiverOf?_eq_some_iff : ∀ receiver key,
    s.receiverOf? key = some receiver ↔ s.keyOf? receiver = some key
  /-- The order of the index does not matter, neither for receivers nor for keys. -/
  keyOf?_reindexed : ∀ receivers, receivers.Perm s.receivers → ∀ receiver,
    (s.reindexed receivers).keyOf? receiver = s.keyOf? receiver
  receiverOf?_reindexed : ∀ receivers, receivers.Perm s.receivers → ∀ key,
    (s.reindexed receivers).receiverOf? key = s.receiverOf? key

variable {s : DiscoveryState}

namespace WellIndexed

theorem reindexed (h : s.WellIndexed) {receivers : List (String × EntityKey)}
    (hperm : receivers.Perm s.receivers) : (s.reindexed receivers).WellIndexed where
  keys := h.keys
  receivers := (hperm.map _).nodup_iff.mpr h.receivers
  injective := (hperm.map _).nodup_iff.mpr h.injective
  present := fun p hp => h.present p (hperm.mem_iff.mp hp)

theorem oneToOne (h : s.WellIndexed) : s.OneToOne where
  keys_nodup := h.keys
  contains_of_keyOf? := fun _ _ hk => h.contains_of_keyOf? hk
  keyOf?_injective := fun _ _ _ hr hr' =>
    h.eq_of_mem (h.keyOf?_eq_some_iff.mp hr) (h.keyOf?_eq_some_iff.mp hr')
  receiverOf?_eq_some_iff := fun _ _ => h.receiverOf?_eq_some_iff.trans h.keyOf?_eq_some_iff.symm
  keyOf?_reindexed := by
    intro receivers hperm receiver
    ext key
    rw [(h.reindexed hperm).keyOf?_eq_some_iff, h.keyOf?_eq_some_iff]
    exact hperm.mem_iff
  receiverOf?_reindexed := by
    intro receivers hperm key
    ext receiver
    rw [(h.reindexed hperm).receiverOf?_eq_some_iff, h.receiverOf?_eq_some_iff]
    exact hperm.mem_iff

theorem run (h : s.WellIndexed) (f : Go.SourceFile) (settings : Settings)
    (strategies : List Strategy) : (s.run f settings strategies).WellIndexed := by
  induction strategies generalizing s with
  | nil => exact h
  | cons strategy strategies ih => exact ih (h.applyAll (strategy.discover f settings))

end WellIndexed
end DiscoveryState

theorem Extractor.keys_extract_nodup (x : Extractor) (f : Go.SourceFile) :
    ((x.extract f).map (·.key)).Nodup := by
  have h := DiscoveryState.WellIndexed.empty.run f x.settings Strategy.all
  rw [extract, List.map_map]
  simp only [Function.comp_def, complete_key]
  exact h.keys.sublist (List.filter_sublist.map _)

namespace DiscoveryState

/-- Whatever is discovered in whatever order, receivers and entities are indexed one to one, and the
entities of a file have keys of their own. -/
theorem applyAll_oneToOne : (∀ ds : List Discovery, (empty.applyAll ds).OneToOne) ∧
    ∀ (x : Extractor) (f : Go.SourceFile), ((x.extract f).map (·.key)).Nodup :=
  ⟨fun ds => (WellIndexed.empty.applyAll ds).oneToOne, Extractor.keys_extract_nodup⟩

end DiscoveryState
end ProviderCoverage

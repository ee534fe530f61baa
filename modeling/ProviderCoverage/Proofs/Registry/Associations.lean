import Mathlib.Algebra.Ring.Nat
import Mathlib.Data.List.Perm.Basic
import ProviderCoverage.Proofs.Lists
import ProviderCoverage.Proofs.Registry.Changes

/-! The two records of what is linked to what. Every test has a field for the entity that it is
linked to, and every entity has a list of the tests that are linked to it; the two agree in every
registry (`Reachable.consistent`). So the tests of some entities are those whose field holds one of
their keys, each as often as it is registered (`Consistent.testsFor_perm`). -/

namespace ProviderCoverage.Registry

/-- The entity that the test of an id is linked to. -/
def linkOf? (r : Registry) (id : TestId) : Option EntityKey :=
  (r.test? id).bind (·.linkedKey?)

/-- The tests and the associations tell the same. -/
structure Consistent (r : Registry) : Prop where
  keys_nodup : r.keys.Nodup
  associated_nodup : (r.associations.map (·.1)).Nodup
  associated_mem : ∀ key ∈ r.associations.map (·.1), key ∈ r.keys
  ids_nodup : ∀ key, (r.linkedIds key).Nodup
  mem_iff : ∀ key id, id ∈ r.linkedIds key ↔ r.linkOf? id = some key

variable {r r' : Registry} {key : EntityKey} {id : TestId}

theorem exists_of_linkOf? (h : r.linkOf? id = some key) :
    ∃ t, r.test? id = some t ∧ t.linkedKey? = some key :=
  Option.bind_eq_some_iff.mp h

theorem lt_of_linkOf? (h : r.linkOf? id = some key) : id < r.tests.length := by
  obtain ⟨t, ht, -⟩ := exists_of_linkOf? h
  exact (List.getElem?_eq_some_iff.mp ht).1

theorem linkOf?_addTest {t : AcceptanceTest} (ht : t.linkedKey? = none) (id : TestId) :
    (r.addTest t).linkOf? id = r.linkOf? id := by
  rw [linkOf?, linkOf?, test?, test?, addTest]
  rcases Nat.lt_trichotomy id r.tests.length with h | h | h
  · rw [List.getElem?_append_left h]
  · simp [h, ht]
  · rw [List.getElem?_eq_none (by simp; omega), List.getElem?_eq_none (by omega)]

theorem linkOf?_recordLink {t : AcceptanceTest} (ht : r.test? id = some t) (l : Link)
    (i : TestId) :
    (r.recordLink id t l).linkOf? i = if i = id then some l.target else r.linkOf? i := by
  rw [linkOf?, test?_recordLink ht]
  split
  · rfl
  · rfl

namespace Consistent

theorem empty : Consistent .empty where
  keys_nodup := .nil
  associated_nodup := .nil
  associated_mem := nofun
  ids_nodup := fun _ => .nil
  mem_iff := fun key id => by simp [linkedIds, linkOf?, test?, Registry.empty]

theorem addEntity (h : r.Consistent) {e : Entity} (hnew : e.key ∉ r.keys) :
    (r.addEntity e).Consistent where
  keys_nodup := (r.keys_addEntity_perm e).nodup_iff.mpr (List.nodup_cons.mpr ⟨hnew, h.keys_nodup⟩)
  associated_nodup := h.associated_nodup
  associated_mem := fun key hkey =>
    (r.keys_addEntity_perm e).mem_iff.mpr (List.mem_cons_of_mem _ (h.associated_mem key hkey))
  ids_nodup := h.ids_nodup
  mem_iff := h.mem_iff

theorem addTest (h : r.Consistent) {t : AcceptanceTest} (ht : t.linkedKey? = none) :
    (r.addTest t).Consistent where
  keys_nodup := h.keys_nodup
  associated_nodup := h.associated_nodup
  associated_mem := h.associated_mem
  ids_nodup := h.ids_nodup
  mem_iff := fun key id => (h.mem_iff key id).trans (by rw [linkOf?_addTest ht])

theorem recordLink (h : r.Consistent) {t : AcceptanceTest} {l : Link} (hkey : l.target ∈ r.keys)
    (ht : r.test? id = some t) (hlink : t.linkedKey? = none) :
    (r.recordLink id t l).Consistent := by
  have hfree : r.linkOf? id = none := by simp [linkOf?, ht, hlink]
  have hid : ∀ key, id ∉ r.linkedIds key := by
    intro key hmem
    rw [h.mem_iff, hfree] at hmem
    cases hmem
  have hkeys : (r.recordLink id t l).associations.map (·.1) =
      if l.target ∈ r.associations.map (·.1) then r.associations.map (·.1)
      else r.associations.map (·.1) ++ [l.target] := keys_associate ..
  refine ⟨h.keys_nodup, ?_, ?_, fun key => ?_, fun key i => ?_⟩
  · rw [hkeys]
    split
    · exact h.associated_nodup
    · next hmem => exact Lists.nodup_concat h.associated_nodup hmem
  · intro key hmem
    rw [hkeys] at hmem
    split at hmem
    · exact h.associated_mem key hmem
    · rcases List.mem_append.mp hmem with hmem | hmem
      · exact h.associated_mem key hmem
      · exact List.mem_singleton.mp hmem ▸ hkey
  · rw [linkedIds_recordLink]
    split
    · exact Lists.nodup_concat (h.ids_nodup key) (hid key)
    · simpa using h.ids_nodup key
  · rw [linkedIds_recordLink, linkOf?_recordLink ht, List.mem_append, h.mem_iff]
    by_cases hi : i = id
    · subst hi
      by_cases hk : key = l.target <;> simp [hk, hfree, eq_comm]
    · rw [if_neg hi]
      by_cases hk : key = l.target <;> simp [hk, hi]

theorem change (h : r.Consistent) (hr : r.Change r') : r'.Consistent := by
  cases hr with
  | unchanged => exact h
  | entity e hnew => exact h.addEntity hnew
  | test t hlink => exact h.addTest hlink
  | link id t l hkey ht hlink => exact h.recordLink hkey ht hlink
  | sweeperFile file => exact ⟨h.1, h.2, h.3, h.4, h.5⟩

end Consistent

theorem Reachable.consistent (h : r.Reachable) : r.Consistent :=
  h.induction .empty fun _ _ hr hc => hc.change hr

namespace Consistent

theorem mem_keys_of_linkOf? (h : r.Consistent) (hid : r.linkOf? id = some key) : key ∈ r.keys := by
  have hmem : id ∈ r.linkedIds key := (h.mem_iff key id).mpr hid
  cases hl : r.associations.lookup key with
  | none => simp [linkedIds, hl] at hmem
  | some ids => exact h.associated_mem key (List.mem_map.mpr ⟨_, Lookup.mem_of_eq_some hl, rfl⟩)

/-- The lists of the associations are those of their keys. -/
theorem flatMap_associations (h : r.Consistent) :
    r.associations.flatMap (·.2) = (r.associations.map (·.1)).flatMap r.linkedIds := by
  rw [List.flatMap_map]
  refine List.flatMap_congr fun a ha => ?_
  rw [linkedIds, Lookup.eq_some_iff_mem h.associated_nodup |>.mpr ha]
  rfl

/-- No test is linked to two entities. -/
theorem flatMap_linkedIds_nodup (h : r.Consistent) {keys : List EntityKey} (hkeys : keys.Nodup) :
    (keys.flatMap r.linkedIds).Nodup := by
  refine List.nodup_flatMap.mpr ⟨fun key _ => h.ids_nodup key, hkeys.imp fun {a b} hne => ?_⟩
  intro id ha hb
  rw [h.mem_iff] at ha hb
  exact hne (Option.some.inj (ha.symm.trans hb))

theorem flatMap_linkedIds_perm (h : r.Consistent) {keys : List EntityKey} (hkeys : keys.Nodup) :
    (keys.flatMap r.linkedIds).Perm (r.testIds.filter fun id => (r.linkOf? id).any (· ∈ keys)) := by
  have hids : r.testIds.Nodup := List.nodup_range
  refine (List.perm_ext_iff_of_nodup (h.flatMap_linkedIds_nodup hkeys) (hids.filter _)).mpr ?_
  intro id
  simp only [List.mem_flatMap, List.mem_filter, Option.any_eq_true, decide_eq_true_eq, testIds,
    List.mem_range, h.mem_iff]
  constructor
  · rintro ⟨key, hkey, hid⟩
    exact ⟨lt_of_linkOf? hid, key, hid, hkey⟩
  · rintro ⟨-, key, hid, hkey⟩
    exact ⟨key, hkey, hid⟩

/-- Every associated id is that of a registered test. -/
theorem map_some_testsFor (h : r.Consistent) (key : EntityKey) :
    (r.testsFor key).map some = (r.linkedIds key).map r.test? := by
  refine Lists.map_some_filterMap fun id hid => ?_
  obtain ⟨t, ht, -⟩ := exists_of_linkOf? ((h.mem_iff key id).mp hid)
  exact ht ▸ rfl

end Consistent

theorem map_test?_testIds (r : Registry) : r.testIds.map r.test? = r.tests.map some := by
  refine List.ext_getElem (by simp [testIds]) fun i hi hi' => ?_
  simp [testIds, test?]

theorem filterMap_testIds (r : Registry) (p : AcceptanceTest → Bool) :
    (r.testIds.filter fun id => (r.test? id).any p).filterMap r.test? = r.tests.filter p := by
  calc (r.testIds.filter fun id => (r.test? id).any p).filterMap r.test?
      = ((r.testIds.map r.test?).filter (·.any p)).filterMap id := by
        rw [List.filter_map, List.filterMap_map]
        rfl
    _ = ((r.tests.filter p).map some).filterMap id := by
        rw [map_test?_testIds, List.filter_map]
        rfl
    _ = r.tests.filter p := by simp

/-- The tests that are linked to some entities, each as often as it is registered. -/
theorem Consistent.flatMap_testsFor_perm (h : r.Consistent) {keys : List EntityKey}
    (hkeys : keys.Nodup) :
    (keys.flatMap r.testsFor).Perm (r.tests.filter fun t => t.linkedKey?.any (· ∈ keys)) := by
  have hperm := (h.flatMap_linkedIds_perm hkeys).filterMap r.test?
  rw [List.filterMap_flatMap] at hperm
  refine hperm.trans (.of_eq ?_)
  rw [← filterMap_testIds]
  congr 2
  funext id
  cases ht : r.test? id <;> simp [linkOf?, ht]

theorem Consistent.testsFor_perm (h : r.Consistent) (key : EntityKey) :
    (r.testsFor key).Perm (r.tests.filter (·.linkedKey? = some key)) := by
  have hperm := h.flatMap_testsFor_perm (List.nodup_singleton key)
  rw [List.flatMap_singleton] at hperm
  refine hperm.trans (.of_eq (List.filter_congr fun t _ => ?_))
  cases t.linkedKey? <;> simp

/-- The tests of all entities are the linked ones. -/
theorem Consistent.flatMap_testsFor_keys_perm (h : r.Consistent) :
    (r.keys.flatMap r.testsFor).Perm (r.tests.filter (·.linkedKey?.isSome)) := by
  refine (h.flatMap_testsFor_perm h.keys_nodup).trans (.of_eq (List.filter_congr fun t ht => ?_))
  obtain ⟨id, hid⟩ := List.mem_iff_getElem?.mp ht
  cases hl : t.linkedKey? with
  | none => rfl
  | some key =>
    have hkey : r.linkOf? id = some key := by simp [linkOf?, test?, hid, hl]
    simpa using h.mem_keys_of_linkOf? hkey

/-- What the associations and the queries that read them owe to the links of the tests. -/
structure AssociationsAgree (r : Registry) : Prop where
  /-- The associations of a key hold the ids of the tests that are linked to it. -/
  mem_linkedIds : ∀ key id, id ∈ r.linkedIds key ↔ (r.test? id).bind (·.linkedKey?) = some key
  keys_nodup : (r.associations.map (·.1)).Nodup
  /-- No id occurs twice, neither in one list nor in two. -/
  ids_nodup : (r.associations.flatMap (·.2)).Nodup
  ids_lt : ∀ id ∈ r.associations.flatMap (·.2), id < r.tests.length
  registered : ∀ key ∈ r.associations.map (·.1), r.contains key
  /-- Each id leads to a test. -/
  testsFor_eq : ∀ key, (r.testsFor key).map some = (r.linkedIds key).map r.test?
  testsForName_eq : ∀ name, (r.testsForName name).map some =
    (EntityKind.all.flatMap fun kind => r.linkedIds ⟨kind, name⟩).map r.test?
  testsFor_perm : ∀ key, (r.testsFor key).Perm (r.tests.filter (·.linkedKey? = some key))
  testsForName_perm : ∀ name,
    (r.testsForName name).Perm (r.tests.filter fun t => t.linkedKey?.any (·.name = name))
  /-- The tests of all entities are the linked ones. -/
  sum_testsFor : (r.entities.map fun e => (r.testsFor e.key).length).sum = r.stats.linkedTests

theorem Reachable.associationsAgree (hr : r.Reachable) : r.AssociationsAgree := by
  have h := hr.consistent
  refine ⟨h.mem_iff, h.associated_nodup, ?_, fun id hid => ?_, fun key hkey => ?_,
    h.map_some_testsFor, fun name => ?_, h.testsFor_perm, fun name => ?_, ?_⟩
  · rw [h.flatMap_associations]
    exact h.flatMap_linkedIds_nodup h.associated_nodup
  · rw [h.flatMap_associations] at hid
    obtain ⟨key, -, hid⟩ := List.mem_flatMap.mp hid
    exact lt_of_linkOf? ((h.mem_iff key id).mp hid)
  · exact contains_iff.mpr (h.associated_mem key hkey)
  · rw [testsForName, List.map_flatMap, List.map_flatMap]
    exact List.flatMap_congr fun kind _ => h.map_some_testsFor ⟨kind, name⟩
  · have hkeys : (EntityKind.all.map fun kind => (⟨kind, name⟩ : EntityKey)).Nodup := by
      simp [EntityKind.all]
    have hperm := h.flatMap_testsFor_perm hkeys
    rw [List.flatMap_map] at hperm
    refine hperm.trans (.of_eq (List.filter_congr fun t _ => ?_))
    cases t.linkedKey? with
    | none => rfl
    | some key => obtain ⟨kind, n⟩ := key; simp [eq_comm]
  · have hlength := h.flatMap_testsFor_keys_perm.length_eq
    rw [List.length_flatMap, keys, List.map_map] at hlength
    rw [stats, List.countP_eq_length_filter]
    exact hlength

/-- A test is linked to a data source, and then it cannot be linked to a resource. -/
def linkedTwice : List Operation :=
  [.registerEntity ⟨⟨.dataSource, "widget"⟩, .unknown, [], false⟩,
   .registerEntity ⟨⟨.resource, "widget"⟩, .unknown, [], false⟩,
   .registerTest ⟨"TestAccWidget_basic", .unknown, [], .entity, false, false, false, false, [],
    "resource.Test", .unmatched, 0, none⟩,
   .link 0 ⟨.dataSource, "widget"⟩ .functionName 1,
   .linkByName 0 "widget" .functionName 1]

theorem associationsAgree_linkedTwice : (empty.run linkedTwice).AssociationsAgree ∧
    (empty.run linkedTwice).associations = [(⟨.dataSource, "widget"⟩, [0])] := by
  refine ⟨Reachable.associationsAgree ⟨linkedTwice, ?_, rfl⟩, by decide⟩
  simp [linkedTwice, Operation.Admissible]

end ProviderCoverage.Registry

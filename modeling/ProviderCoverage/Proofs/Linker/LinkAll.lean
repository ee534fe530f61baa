import Mathlib.Data.List.Nodup
import ProviderCoverage.Proofs.Linker.Candidates
import ProviderCoverage.Proofs.Registry.Changes

/-! What linking does to a registry. No link is refused, as matches are registered and linked tests
are passed over; and a test is linked according to its own match, whatever other tests there are
(`linkAll_ok`). -/

namespace ProviderCoverage.Linker

/-- What becomes of a test. -/
def linked (l : Linker) (t : AcceptanceTest) : AcceptanceTest :=
  if t.linkedKey?.isSome then t
  else match l.matchTest t with
    | none => t
    | some m => t.linkedBy ⟨m.target, m.matchType, clampConfidence m.confidence⟩

/-- Whether a test gains a link. -/
def links (l : Linker) (t : AcceptanceTest) : Bool :=
  t.linkedKey?.isNone && (l.matchTest t).isSome

/-- A registry before and after the tests of some ids have been linked, and the number of new
links. -/
structure Links (l : Linker) (ids : List TestId) (r r' : Registry) (n : Nat) : Prop where
  entities : r'.entities = r.entities
  test : ∀ id, r'.test? id = if id ∈ ids then (r.test? id).map l.linked else r.test? id
  count : n = ids.countP fun id => (r.test? id).any l.links

variable {l : Linker} {r r' r'' : Registry} {id : TestId} {ids : List TestId} {t : AcceptanceTest}

theorem linked_of_not_links (h : l.links t = false) : l.linked t = t := by
  rw [linked]
  cases hlink : t.linkedKey? with
  | some existing => rfl
  | none =>
    cases hm : l.matchTest t with
    | none => rfl
    | some m => simp [links, hlink, hm] at h

/-- A test is dealt with once. -/
theorem links_linked (t : AcceptanceTest) : l.links (l.linked t) = false := by
  cases hlinks : l.links t with
  | false => rw [linked_of_not_links hlinks, hlinks]
  | true =>
    obtain ⟨hlink, hm⟩ := Bool.and_eq_true_iff.mp hlinks
    obtain ⟨m, hm⟩ := Option.isSome_iff_exists.mp hm
    have hnone : t.linkedKey? = none := Option.isNone_iff_eq_none.mp hlink
    simp [links, linked, hnone, hm, AcceptanceTest.linkedBy]

theorem linkedKey?_linked (ht : t.linkedKey? = none) :
    (l.linked t).linkedKey? = (l.matchTest t).map (·.target) := by
  rw [linked, ht]
  cases l.matchTest t with
  | none => exact ht
  | some m => rfl

/-- A new test has the match type of none afterwards exactly if it has no link. -/
theorem matchType_linked_iff (ht : t.IsNew) :
    (l.linked t).matchType = .unmatched ↔ (l.linked t).linkedKey? = none := by
  rw [linked, ht.linkedKey?]
  cases hm : l.matchTest t with
  | none => exact iff_of_true ht.matchType ht.linkedKey?
  | some m =>
    obtain ⟨key, -, rfl⟩ | ⟨key, -, rfl⟩ | ⟨key, -, rfl⟩ | ⟨key, score, -, rfl⟩ :=
      matchTest_cases hm
    all_goals exact iff_of_false nofun nofun

theorem Links.nil (l : Linker) (r : Registry) : Links l [] r r 0 :=
  ⟨rfl, fun i => by simp, rfl⟩

theorem Links.unchanged (h : (r.test? id).any l.links = false) : Links l [id] r r 0 := by
  refine ⟨rfl, fun i => ?_, by simp [h]⟩
  split
  · next hi =>
    cases List.mem_singleton.mp hi
    cases ht : r.test? id with
    | none => rfl
    | some t =>
      rw [ht] at h
      rw [Option.map_some, linked_of_not_links h]
  · rfl

theorem Links.cons {n n' : Nat} (h : Links l [id] r r' n) (h' : Links l ids r' r'' n')
    (hid : id ∉ ids) : Links l (id :: ids) r r'' (n + n') := by
  refine ⟨h'.entities.trans h.entities, fun i => ?_, ?_⟩
  · rw [h'.test, h.test]
    by_cases hi : i = id
    · subst hi
      simp [hid]
    · simp [hi]
  · have hothers : ∀ i ∈ ids, (r'.test? i).any l.links = (r.test? i).any l.links := by
      intro i hi
      have hne : i ≠ id := fun heq => hid (heq ▸ hi)
      rw [h.test, if_neg (by simpa using hne)]
    rw [h'.count, List.countP_congr fun i hi => by rw [hothers i hi], h.count, ← List.countP_append]
    rfl

theorem Links.recordLink {m : Link} (ht : r.test? id = some t) (hlink : t.linkedKey? = none)
    (hm : l.matchTest t = some m) :
    Links l [id] r
      (r.recordLink id t ⟨m.target, m.matchType, clampConfidence m.confidence⟩) 1 := by
  refine ⟨rfl, fun i => ?_, by simp [ht, links, hlink, hm]⟩
  rw [Registry.test?_recordLink ht]
  by_cases hi : i = id
  · subst hi
    simp [ht, linked, hlink, hm]
  · rw [if_neg hi, if_neg (by simpa using hi)]

/-- A test that gains no link is passed over. -/
theorem linkIds_of_not_links (h : (r.test? id).any l.links = false) (ids : List TestId) (n : Nat) :
    l.linkIds (id :: ids) r n = l.linkIds ids r n := by
  rw [linkIds]
  cases ht : r.test? id with
  | none => rfl
  | some t =>
    rw [ht] at h
    cases hlink : t.linkedKey? with
    | some existing => simp [hlink]
    | none =>
      cases hm : l.matchTest t with
      | none => simp [hlink, hm]
      | some m => simp [links, hlink, hm] at h

/-- Each test is dealt with on its own. -/
theorem linkIds_cons (hkeys : ∀ key ∈ l.keys, key ∈ r.keys) (id : TestId) (ids : List TestId)
    (n : Nat) :
    ∃ r' n', l.linkIds (id :: ids) r n = l.linkIds ids r' (n + n') ∧ Links l [id] r r' n' := by
  cases hlinks : (r.test? id).any l.links with
  | false => exact ⟨r, 0, linkIds_of_not_links hlinks ids n, .unchanged hlinks⟩
  | true =>
    obtain ⟨t, ht, hlinks⟩ := (Option.any_eq_true _ _).mp hlinks
    obtain ⟨hlink, hm⟩ := Bool.and_eq_true_iff.mp hlinks
    obtain ⟨m, hm⟩ := Option.isSome_iff_exists.mp hm
    have hnone : t.linkedKey? = none := Option.isNone_iff_eq_none.mp hlink
    have hok : r.link id m.target m.matchType m.confidence = _ :=
      Registry.link_of_unlinked (hkeys _ (target_mem_keys hm)) ht hnone
    exact ⟨_, 1, by rw [linkIds]; simp [ht, hnone, hm, hok], .recordLink ht hnone hm⟩

theorem linkIds_ok (hkeys : ∀ key ∈ l.keys, key ∈ r.keys) (ids : List TestId) (hids : ids.Nodup)
    (n : Nat) :
    ∃ r' n', l.linkIds ids r n = (r', .ok (n + n')) ∧ Links l ids r r' n' := by
  induction ids generalizing r n with
  | nil => exact ⟨r, 0, rfl, .nil l r⟩
  | cons id ids ih =>
    obtain ⟨hid, hrest⟩ := List.nodup_cons.mp hids
    obtain ⟨r₁, n₁, heq, hfirst⟩ := linkIds_cons hkeys id ids n
    have hkeys₁ : ∀ key ∈ l.keys, key ∈ r₁.keys := by
      rw [Registry.keys, hfirst.entities]
      exact hkeys
    obtain ⟨r₂, n₂, hok, hlinks⟩ := ih hkeys₁ hrest (n + n₁)
    exact ⟨r₂, n₁ + n₂, by rw [heq, hok, Nat.add_assoc], hfirst.cons hlinks hid⟩

/-- Linking succeeds, and links every test according to its match. -/
theorem linkAll_ok (hkeys : ∀ key ∈ l.keys, key ∈ r.keys) :
    ∃ r' n, l.linkAll r = (r', .ok n) ∧ r'.entities = r.entities ∧
      r'.tests = r.tests.map l.linked ∧
      n = r.testIds.countP fun id => (r.test? id).any l.links := by
  have hids : r.testIds.Nodup := List.nodup_range
  obtain ⟨r', n, hok, hlinks⟩ := linkIds_ok hkeys r.testIds hids 0
  refine ⟨r', n, by rw [linkAll, hok, Nat.zero_add], hlinks.entities, ?_, hlinks.count⟩
  refine List.ext_getElem? fun id => (hlinks.test id).trans ?_
  rw [List.getElem?_map]
  split
  · rfl
  · next hid =>
    have hnone : r.test? id = none := by
      rw [Registry.testIds, List.mem_range, Nat.not_lt] at hid
      exact List.getElem?_eq_none hid
    rw [Registry.test?] at hnone
    simp [Registry.test?, hnone]

theorem linkIds_of_settled (ids : List TestId) (h : ∀ id ∈ ids, (r.test? id).any l.links = false)
    (n : Nat) : l.linkIds ids r n = (r, .ok n) := by
  induction ids with
  | nil => rfl
  | cons id ids ih =>
    rw [linkIds_of_not_links (h id (List.mem_cons_self ..))]
    exact ih fun i hi => h i (List.mem_cons_of_mem _ hi)

/-- After linking there is nothing left to link. -/
theorem linkAll_of_linked (h : r'.tests = r.tests.map l.linked) : l.linkAll r' = (r', .ok 0) := by
  refine linkIds_of_settled _ (fun id _ => ?_) 0
  rw [Registry.test?, h, List.getElem?_map]
  cases r.tests[id]? with
  | none => rfl
  | some t => exact links_linked t

end ProviderCoverage.Linker

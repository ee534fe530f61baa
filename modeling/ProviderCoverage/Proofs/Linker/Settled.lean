import Mathlib.Tactic.NormNum
import ProviderCoverage.Proofs.Linker.LinkAll
import ProviderCoverage.Proofs.Linker.Snapshot
import ProviderCoverage.Proofs.Similarity.Scores

/-! What linking all tests settles. A linker never fails on the registry that it was made for, even
if that has grown since; it gives every unlinked test the link of its own match, unaltered, and
leaves all else alone (`Settles`). Neither the order of the entities nor that of the tests has a say
in which link a test ends up with (`linkAll_settles`). -/

namespace ProviderCoverage

/-- A score between zero and one is recorded as it is. -/
theorem clampConfidence_of_mem_unit {q : Rat} (hnonneg : 0 ≤ q) (hle : q ≤ 1) :
    clampConfidence q = q := by
  rw [clampConfidence, if_neg (not_lt.mpr hnonneg), if_neg (not_lt.mpr hle)]

namespace Linker

variable {l : Linker} {r r' : Registry} {s : Settings} {t : AcceptanceTest} {m : Link}

theorem score_mem_unit {function : String} {key : EntityKey} {score : Rat}
    (hround : l.rounding.KeepsUnit) (h : l.matchBySimilarity function = some (key, score)) :
    0 ≤ score ∧ score ≤ 1 := by
  obtain ⟨threshold, p, best, -, -, hbest, -, rfl⟩ := matchBySimilarity_eq_some_iff.mp h
  rw [score_bestMatch hbest]
  exact similarity_mem_unit hround ..

theorem confidence_mem_unit (hround : l.rounding.KeepsUnit) (h : l.matchTest t = some m) :
    0 ≤ m.confidence ∧ m.confidence ≤ 1 := by
  obtain ⟨key, -, rfl⟩ | ⟨key, -, rfl⟩ | ⟨key, -, rfl⟩ | ⟨key, score, hsimilar, rfl⟩ :=
    matchTest_cases h
  · exact ⟨zero_le_one, le_refl 1⟩
  · exact Binary64.nearest_keepsUnit _ (by norm_num) (by norm_num [Rat.mkRat_eq_div])
  · exact Binary64.nearest_keepsUnit _ (by norm_num) (by norm_num [Rat.mkRat_eq_div])
  · exact score_mem_unit hround hsimilar

/-- A test that had no link has that of its match, with the confidence that the match has. -/
theorem linked_of_unlinked (hround : l.rounding.KeepsUnit) (ht : t.linkedKey? = none) :
    l.linked t = (l.matchTest t).elim t t.linkedBy := by
  rw [linked, ht]
  cases hm : l.matchTest t with
  | none => rfl
  | some m =>
    obtain ⟨hnonneg, hle⟩ := confidence_mem_unit hround hm
    simp [clampConfidence_of_mem_unit hnonneg hle]

/-- What linking all tests of a registry makes of it, and the number that it answers. -/
structure Settles (l : Linker) (r r' : Registry) (n : Nat) : Prop where
  entities : r'.entities = r.entities
  /-- No test is added or lost, so that ids mean the same as before. -/
  length : r'.tests.length = r.tests.length
  /-- The tests that have a link now and had none before. -/
  count : n = r.testIds.countP fun id =>
    (r.test? id).any (·.linkedKey?.isNone) && (r'.test? id).any (·.linkedKey?.isSome)
  keeps : ∀ id t, r.test? id = some t → t.linkedKey?.isSome → r'.test? id = some t
  /-- A test without a link has that of its match afterwards, and stays as it is if it has no
  match. -/
  gives : ∀ id t, r.test? id = some t → t.linkedKey? = none →
    r'.test? id = some ((l.matchTest t).elim t t.linkedBy)
  again : l.linkAll r' = (r', .ok 0)

theorem linkAll_settles_of_keys (hkeys : ∀ key ∈ l.keys, key ∈ r.keys)
    (hround : l.rounding.KeepsUnit) :
    ∃ r' n, l.linkAll r = (r', .ok n) ∧ l.Settles r r' n ∧ r'.tests = r.tests.map l.linked := by
  obtain ⟨r', n, hok, hentities, htests, hcount⟩ := linkAll_ok hkeys
  have htest : ∀ id, r'.test? id = (r.test? id).map l.linked := by
    intro id
    rw [Registry.test?, htests, List.getElem?_map]
    rfl
  refine ⟨r', n, hok, ⟨hentities, by rw [htests, List.length_map], ?_, ?_, ?_,
    linkAll_of_linked htests⟩, htests⟩
  · rw [hcount]
    refine List.countP_congr fun id _ => ?_
    rw [htest]
    cases r.test? id with
    | none => rfl
    | some t =>
      cases hlink : t.linkedKey? with
      | some existing => simp [links, hlink]
      | none => simp [links, linkedKey?_linked hlink, hlink]
  · intro id t ht hlink
    rw [htest, ht, Option.map_some, linked, if_pos hlink]
  · intro id t ht hlink
    rw [htest, ht, Option.map_some, linked_of_unlinked hround hlink]

/-- Linking succeeds and settles the tests, also those of entities and tests that have come since
the linker was made. If the same operations have led to another registry in another order, a test
that is in both ends up with the same link in both. -/
theorem linkAll_settles {base : Registry} {ops : List Registry.Operation}
    (hl : ofRegistry (base.run ops) s Binary64.nearest = .ok l) (more : List Registry.Operation) :
    ∃ r' n, l.linkAll ((base.run ops).run more) = (r', .ok n) ∧
      l.Settles ((base.run ops).run more) r' n ∧
      ∀ ops' more' : List Registry.Operation, ops'.Perm ops →
        ∃ l₂ r₂' n₂, ofRegistry (base.run ops') s Binary64.nearest = .ok l₂ ∧
          l₂.linkAll ((base.run ops').run more') = (r₂', .ok n₂) ∧
          ∀ id id', ((base.run ops').run more').test? id' = ((base.run ops).run more).test? id →
            r₂'.test? id' = r'.test? id := by
  have hsettles : ∀ {r : Registry} {l : Linker}, ofRegistry r s Binary64.nearest = .ok l →
      ∀ more : List Registry.Operation, ∃ r' n, l.linkAll (r.run more) = (r', .ok n) ∧
        l.Settles (r.run more) r' n ∧ r'.tests = (r.run more).tests.map l.linked := by
    intro r l hl more
    refine linkAll_settles_of_keys (fun key hkey => ?_) ?_
    · exact Registry.mem_keys_run_of_mem ((isSnapshot_of_ofRegistry hl).keys ▸ hkey)
    · rw [(isSnapshot_of_ofRegistry hl).rounding]
      exact Binary64.nearest_keepsUnit
  obtain ⟨r', n, hok, hset, htests⟩ := hsettles hl more
  refine ⟨r', n, hok, hset, fun ops' more' hperm => ?_⟩
  obtain ⟨l₂, hl₂, hmatch⟩ :=
    matchTest_of_keys hl fun key => Registry.mem_keys_run_perm (r := base) hperm
  obtain ⟨r₂', n₂, hok₂, -, htests₂⟩ := hsettles hl₂ more'
  have hlinked : l₂.linked = l.linked := by
    funext t
    rw [linked, linked, hmatch]
  refine ⟨l₂, r₂', n₂, hl₂, hok₂, fun id id' hsame => ?_⟩
  rw [Registry.test?, Registry.test?] at hsame ⊢
  rw [htests, htests₂, List.getElem?_map, List.getElem?_map, hsame, hlinked]

/-- A resource without tests. -/
def untestedWidget : List Registry.Operation :=
  [.registerEntity ⟨⟨.resource, "widget"⟩, .unknown, [], false⟩]

def widgetTest : AcceptanceTest :=
  ⟨"TestAccWidget_basic", .unknown, [], .entity, false, false, false, false, [], "resource.Test",
    .unmatched, 0, none⟩

/-- The test comes when the linker has been made. -/
theorem linkAll_settles_widget : ∃ l r' n,
    ofRegistry (Registry.empty.run untestedWidget) .default Binary64.nearest = .ok l ∧
    l.linkAll ((Registry.empty.run untestedWidget).run [.registerTest widgetTest]) = (r', .ok n) ∧
    l.Settles ((Registry.empty.run untestedWidget).run [.registerTest widgetTest]) r' n ∧
    r'.test? 0 = some (widgetTest.linkedBy ⟨⟨.resource, "widget"⟩, .functionName, 1⟩) := by
  obtain ⟨l, hl⟩ : ∃ l,
      ofRegistry (Registry.empty.run untestedWidget) .default Binary64.nearest = .ok l := ⟨_, rfl⟩
  obtain ⟨r', n, hok, hset, -⟩ := linkAll_settles hl [.registerTest widgetTest]
  have hmatch : (ofRegistry (Registry.empty.run untestedWidget) .default
      Binary64.nearest).toOption.bind (·.matchTest widgetTest) =
        some ⟨⟨.resource, "widget"⟩, .functionName, 1⟩ := by decide +kernel
  rw [hl] at hmatch
  refine ⟨l, r', n, hl, hok, hset, ?_⟩
  rw [hset.gives 0 widgetTest rfl rfl, show l.matchTest widgetTest = some _ from hmatch]
  rfl

end Linker
end ProviderCoverage

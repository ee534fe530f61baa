import Mathlib.Algebra.BigOperators.Group.List.Basic
import ProviderCoverage.Analysis.Basic
import ProviderCoverage.Pattern.Syntax
import ProviderCoverage.Proofs.Findings.Severity
import ProviderCoverage.Proofs.Go.Lines
import ProviderCoverage.Proofs.Registry.KeyOrder
import ProviderCoverage.Proofs.Settings.Validation

/-! What the analysis of a built registry owes to it (`ofRegistry_conserves`). The analysis reads
the registry in three ways: the tests of each entity by the associations, the unmatched tests by
their match types, and the statistics by the links. None of them loses a test or has it twice. Tests
are told apart by their ids, as two of them may be equal. -/

namespace ProviderCoverage

theorem exists_of_map_eq_ok {ε α β : Type} {x : Except ε α} {f : α → β} {b : β}
    (h : x.map f = .ok b) : ∃ a, x = .ok a ∧ f a = b := by
  cases x with
  | error e => cases h
  | ok a => exact ⟨a, rfl, Except.ok.inj h⟩

theorem TestCategory.eq_of_not_expectsEntity {c : TestCategory} (h : ¬ c.expectsEntity) :
    c = .providerConfig ∨ c = .function := by
  cases c <;> simp [expectsEntity] at h ⊢

namespace Registry

variable {r : Registry} {id : TestId} {t : AcceptanceTest}

/-- Every entity is of one of the kinds that are counted. -/
theorem length_entities (r : Registry) :
    r.entities.length = r.stats.resources + r.stats.dataSources + r.stats.actions := by
  simp only [stats, countKind, keys]
  induction r.entities with
  | nil => rfl
  | cons e es ih =>
    simp only [List.length_cons, ih, List.map_cons, List.countP_cons]
    cases e.key.kind <;> simp <;> omega

/-- The ids of the unmatched tests. -/
def unmatchedIds (r : Registry) : List TestId :=
  r.testIds.filter fun id => (r.test? id).any fun t => !t.isMatched && t.category.expectsEntity

theorem map_some_unmatchedTests (r : Registry) :
    r.unmatchedTests.map some = r.unmatchedIds.map r.test? := by
  rw [unmatchedTests, ← filterMap_testIds]
  refine Lists.map_some_filterMap fun id hid => ?_
  obtain ⟨t, ht, -⟩ := (Option.any_eq_true _ _).mp (List.mem_filter.mp hid).2
  exact ht ▸ rfl

theorem unmatchedIds_nodup (r : Registry) : r.unmatchedIds.Nodup :=
  List.nodup_range.filter _

theorem mem_unmatchedIds_iff (ht : r.test? id = some t) :
    id ∈ r.unmatchedIds ↔ t.matchType = .unmatched ∧ t.category.expectsEntity := by
  have hid : id < r.tests.length := (List.getElem?_eq_some_iff.mp ht).1
  simp [unmatchedIds, testIds, ht, hid, AcceptanceTest.isMatched]

/-- The test of an id is among the tests of one key only, the one that it is linked to, and there it
is once. -/
structure ShownOnce (r : Registry) (id : TestId) (key : EntityKey) : Prop where
  registered : key ∈ r.keys
  linked : r.linkOf? id = some key
  once : (r.linkedIds key).count id = 1
  alone : ∀ other, id ∈ r.linkedIds other → other = key

/-- Where the test of an id is: among the tests of an entity, among the unmatched ones, or in
neither place as one that is not about an entity. -/
inductive Place (r : Registry) (id : TestId) : Prop
  | shown (key : EntityKey) (hshown : r.ShownOnce id key) (hunmatched : id ∉ r.unmatchedIds)
  | unmatched (hlink : r.linkOf? id = none) (hshown : ∀ key, id ∉ r.linkedIds key)
      (honce : r.unmatchedIds.count id = 1)
  | neither (t : AcceptanceTest) (htest : r.test? id = some t) (hlink : t.linkedKey? = none)
      (hcategory : t.category = .providerConfig ∨ t.category = .function)
      (hshown : ∀ key, id ∉ r.linkedIds key) (hunmatched : id ∉ r.unmatchedIds)

theorem Consistent.shownOnce (h : r.Consistent) {key : EntityKey}
    (hlink : r.linkOf? id = some key) : r.ShownOnce id key where
  registered := h.mem_keys_of_linkOf? hlink
  linked := hlink
  once := List.count_eq_one_of_mem (h.ids_nodup key) ((h.mem_iff key id).mpr hlink)
  alone := fun other hother => Option.some.inj (((h.mem_iff other id).mp hother).symm.trans hlink)

/-- Every test has its place if the match type of none goes with having no link. -/
theorem Consistent.place (h : r.Consistent)
    (hmatched : ∀ t ∈ r.tests, t.matchType = .unmatched ↔ t.linkedKey? = none)
    (hid : id < r.tests.length) : r.Place id := by
  obtain ⟨t, ht⟩ : ∃ t, r.test? id = some t := ⟨_, List.getElem?_eq_getElem hid⟩
  have hlinkOf : r.linkOf? id = t.linkedKey? := by rw [linkOf?, ht, Option.bind_some]
  have htype := hmatched t (List.mem_of_getElem? ht)
  cases hlink : t.linkedKey? with
  | some key =>
    refine .shown key (h.shownOnce (hlinkOf.trans hlink)) fun hmem => ?_
    cases hlink.symm.trans (htype.mp ((mem_unmatchedIds_iff ht).mp hmem).1)
  | none =>
    have hshown : ∀ key, id ∉ r.linkedIds key := by
      intro key hmem
      rw [h.mem_iff, hlinkOf, hlink] at hmem
      cases hmem
    by_cases hexpects : t.category.expectsEntity
    · exact .unmatched (hlinkOf.trans hlink) hshown (List.count_eq_one_of_mem r.unmatchedIds_nodup
        ((mem_unmatchedIds_iff ht).mpr ⟨htype.mpr hlink, hexpects⟩))
    · exact .neither t ht hlink (TestCategory.eq_of_not_expectsEntity hexpects) hshown
        fun hmem => hexpects ((mem_unmatchedIds_iff ht).mp hmem).2

end Registry

/-! ### The coverage report -/

namespace CoverageReport

variable {r : Registry}

theorem keys_ofRegistry (r : Registry) :
    (ofRegistry r).entries.map (·.entity.key) = r.keys := by
  rw [ofRegistry, List.map_map]
  rfl

theorem sum_testCount (h : r.Consistent) :
    ((ofRegistry r).entries.map (·.coverage.testCount)).sum = r.stats.linkedTests := by
  have hlength := h.flatMap_testsFor_keys_perm.length_eq
  rw [List.length_flatMap, Registry.keys, List.map_map, ← List.countP_eq_length_filter] at hlength
  rw [ofRegistry, List.map_map]
  exact hlength

theorem sum_stepCount (h : r.Consistent) :
    ((ofRegistry r).entries.map (·.coverage.stepCount)).sum =
      ((r.tests.filter (·.linkedKey?.isSome)).flatMap (·.steps)).length := by
  rw [← (h.flatMap_testsFor_keys_perm.flatMap_right (·.steps)).length_eq, List.flatMap_assoc,
    List.length_flatMap, Registry.keys, List.map_map, ofRegistry, List.map_map]
  rfl

/-- The entries are those of the entities with tests and those without. -/
theorem length_entries (r : Registry) : (ofRegistry r).entries.length =
    (r.keys.countP fun key => !(r.testsFor key).isEmpty) + (ofRegistry r).untested.length := by
  rw [List.length_eq_length_filter_add (·.coverage.hasBasicTest), ← List.countP_eq_length_filter,
    Registry.keys, List.countP_map]
  congr 1
  rw [ofRegistry, List.countP_map]
  rfl

end CoverageReport

namespace Analysis

/-- What an analysis owes to the registry that it is about. -/
structure Conserves (a : Analysis) (r : Registry) : Prop where
  /-- The entries are those of the registered keys. -/
  keys : a.coverage.entries.map (·.entity.key) = r.keys
  keys_ordered : r.keys.Pairwise fun key later => key.before later = true
  keys_nodup : r.keys.Nodup
  /-- Each id that is linked to a key stands for a test of that key. -/
  tests : a.tests.map (fun (key, tests) => (key, tests.map some)) =
    r.keys.map fun key => (key, (r.linkedIds key).map r.test?)
  unmatched : a.unmatched.map some = r.unmatchedIds.map r.test?
  place : ∀ id < r.tests.length, r.Place id
  testCount : (a.coverage.entries.map (·.coverage.testCount)).sum = a.stats.linkedTests
  linkedTests : a.stats.linkedTests = r.tests.countP (·.linkedKey?.isSome)
  stepCount : (a.coverage.entries.map (·.coverage.stepCount)).sum =
    ((r.tests.filter (·.linkedKey?.isSome)).flatMap (·.steps)).length
  entityCount : a.entityCount = a.stats.resources + a.stats.dataSources + a.stats.actions
  untested_le : a.coverage.untested.length ≤ a.entityCount
  testedCount : a.testedCount = a.tests.countP (!·.2.isEmpty)

variable {r : Registry} {s : Settings} {patterns : PatternReader} {rounding : Rounding}
  {files : List Go.SourceFile}

theorem exists_of_validate (h : s.validate patterns = .ok ()) (root : String) (r : Registry) :
    ∃ a, ofRegistry root r s patterns = .ok a := by
  obtain ⟨fs, hfs⟩ := (Settings.validate_eq_ok_iff.mp h).exists_findings r
  rw [ofRegistry, hfs]
  exact ⟨_, rfl⟩

theorem exists_of_ofRegistry {root : String} {a : Analysis}
    (h : ofRegistry root r s patterns = .ok a) :
    ∃ findings, a = ⟨root, r.stats, .ofRegistry r, r.keys.map fun key => (key, r.testsFor key),
      r.unmatchedTests, findings, []⟩ := by
  obtain ⟨findings, -, rfl⟩ := exists_of_map_eq_ok h
  exact ⟨findings, rfl⟩

/-- A registry can be analysed with the settings that it has been built with, and whatever settings
it is analysed with, all of it is in the analysis. -/
theorem ofRegistry_conserves (h : Registry.build s patterns rounding files = .ok r)
    (root : String) :
    (∃ a, ofRegistry root r s patterns = .ok a) ∧
      ∀ s' patterns' a, ofRegistry root r s' patterns' = .ok a → a.Conserves r := by
  refine ⟨exists_of_validate (Registry.validate_of_build h) root r, fun s' patterns' a ha => ?_⟩
  obtain ⟨findings, rfl⟩ := exists_of_ofRegistry ha
  have hconsistent : r.Consistent := (Registry.reachable_of_build h).consistent
  have hordered : KeySorted r.entities := by
    obtain ⟨ops, -, rfl⟩ := Registry.reachable_of_build h
    exact Registry.keySorted_run ops
  have hcount := CoverageReport.length_entries r
  exact {
    keys := CoverageReport.keys_ofRegistry r
    keys_ordered := List.pairwise_map.mpr hordered
    keys_nodup := hconsistent.keys_nodup
    tests := by
      rw [List.map_map]
      exact List.map_congr_left fun key _ => congrArg (key, ·) (hconsistent.map_some_testsFor key)
    unmatched := r.map_some_unmatchedTests
    place := fun id hid => hconsistent.place (fun t => Registry.matchType_of_build h) hid
    testCount := CoverageReport.sum_testCount hconsistent
    linkedTests := rfl
    stepCount := CoverageReport.sum_stepCount hconsistent
    entityCount := List.length_map .. |>.trans r.length_entities
    untested_le := List.length_filter_le ..
    testedCount := by
      rw [testedCount, entityCount, hcount, Nat.add_sub_cancel, List.countP_map]
      rfl }

/-- A resource and three tests: one of the resource, one of something that there is not, and one of
a function. -/
def threePlaces : List Go.SourceFile :=
  [.ofLines "provider.go"
    ["package provider",
     "",
     "func (r *WidgetResource) Schema() \x7b\x7d"] false,
   .ofLines "misc_test.go"
    ["package provider",
     "",
     "import \"github.com/hashicorp/terraform-plugin-testing/helper/resource\"",
     "",
     "func TestAccWidget_basic(t *testing.T) \x7b",
     "\tresource.Test(t, resource.TestCase\x7b",
     "\t\tSteps: []resource.TestStep\x7b\x7bRefreshState: true\x7d\x7d,",
     "\t\x7d)",
     "\x7d",
     "",
     "func TestAccGadget_basic(t *testing.T) \x7b",
     "\tresource.Test(t, resource.TestCase\x7b\x7d)",
     "\x7d",
     "",
     "func TestAccProviderFunction_basic(t *testing.T) \x7b",
     "\tresource.Test(t, resource.TestCase\x7b\x7d)",
     "\x7d"] true]

theorem threePlaces_conserved : ∃ r a,
    Registry.build .default Pattern.finder? Binary64.nearest threePlaces = .ok r ∧
    ofRegistry "." r .default Pattern.finder? = .ok a ∧ a.Conserves r ∧
    r.tests.length = 3 ∧ r.associations = [(⟨.resource, "widget"⟩, [0])] ∧
    r.unmatchedIds = [1] := by
  have hrun : (Registry.build .default Pattern.finder? Binary64.nearest
      threePlaces).toOption.any fun r =>
        r.tests.length = 3 ∧ r.associations = [(⟨.resource, "widget"⟩, [0])] ∧
          r.unmatchedIds = [1] := by
    rw [threePlaces, Go.SourceFile.ofLines_eq, Go.SourceFile.ofLines_eq]
    repeat rw [Go.SourceFile.textOfLines_cons]
    decide +kernel
  obtain ⟨r, hr, hplaces⟩ := exists_of_any_toOption hrun
  obtain ⟨⟨a, ha⟩, hconserves⟩ := ofRegistry_conserves hr "."
  exact ⟨r, a, hr, ha, hconserves .default _ a ha, of_decide_eq_true hplaces⟩

end Analysis
end ProviderCoverage

import ProviderCoverage.Proofs.Coverage.Updates
import ProviderCoverage.Proofs.Go.Lines

/-! Coverage adds up. What some tests and others cover is what the first cover combined with what
the second cover (`Coverage.ofTests_append`), so the order of tests does not matter. Flags and
counts agree: there is an update exactly if updates have been counted, and for tests that have been
read the same holds of imports. Every entity of a report is untested, or tested without a check of
state or plan, or tested with one (`CoverageReport.threefold_of_ofTests`). -/

namespace ProviderCoverage

namespace AcceptanceTest

variable {t : AcceptanceTest}

theorem isRead_of_mem_tests {reader : TestReader} {f : Go.SourceFile} (h : t ∈ reader.tests f) :
    t.IsRead :=
  ⟨reader, f, (TestReader.isNew_of_mem_tests h).unlink_eq.symm ▸ h⟩

/-- The flag of a test that has been read says what its steps say. -/
theorem IsRead.hasImportStep_iff (h : t.IsRead) :
    t.hasImportStep = true ↔ ∃ s ∈ t.steps, s.importState = true := by
  obtain ⟨reader, f, hmem⟩ := h
  exact (TestReader.wellFormed_of_mem_tests hmem).importStep

end AcceptanceTest

namespace Coverage

/-- What two groups of tests cover together: flags of either, and counts of both. -/
def combine (c d : Coverage) : Coverage where
  hasBasicTest := c.hasBasicTest || d.hasBasicTest
  hasUpdateTest := c.hasUpdateTest || d.hasUpdateTest
  hasImportTest := c.hasImportTest || d.hasImportTest
  hasErrorTest := c.hasErrorTest || d.hasErrorTest
  hasStateCheck := c.hasStateCheck || d.hasStateCheck
  hasPlanCheck := c.hasPlanCheck || d.hasPlanCheck
  hasCheckDestroy := c.hasCheckDestroy || d.hasCheckDestroy
  testCount := c.testCount + d.testCount
  stepCount := c.stepCount + d.stepCount
  updateStepCount := c.updateStepCount + d.updateStepCount
  importStepCount := c.importStepCount + d.importStepCount

variable {xs ys tests : List AcceptanceTest}

theorem combine_left_comm (b c d : Coverage) :
    b.combine (c.combine d) = c.combine (b.combine d) := by
  simp only [combine, Bool.or_left_comm, Nat.add_left_comm]

theorem ofTests_append (xs ys : List AcceptanceTest) :
    ofTests (xs ++ ys) = (ofTests xs).combine (ofTests ys) := by
  have hbasic : (!(xs ++ ys).isEmpty) = (!xs.isEmpty || !ys.isEmpty) := by
    cases xs <;> rfl
  simp only [ofTests, combine, List.flatMap_append, List.any_append, List.length_append,
    List.countP_append, hbasic]

theorem ofTests_cons (t : AcceptanceTest) (tests : List AcceptanceTest) :
    ofTests (t :: tests) = (ofTests [t]).combine (ofTests tests) :=
  ofTests_append [t] tests

/-- Tests are taken one after the other, and any two may change places. -/
theorem ofTests_perm (h : xs.Perm ys) : ofTests xs = ofTests ys := by
  induction h with
  | nil => rfl
  | cons t _ ih => rw [ofTests_cons t, ih, ← ofTests_cons]
  | swap t u tests =>
    rw [ofTests_cons u, ofTests_cons t, combine_left_comm, ← ofTests_cons u, ← ofTests_cons t]
  | trans _ _ ih ih' => exact ih.trans ih'

theorem hasUpdateTest_iff_count :
    (ofTests tests).hasUpdateTest = true ↔ 0 < (ofTests tests).updateStepCount :=
  List.any_eq_true.trans List.countP_pos_iff.symm

/-- The flag comes from the tests and the count from their steps. -/
theorem hasImportTest_iff_count (h : ∀ t ∈ tests, t.IsRead) :
    (ofTests tests).hasImportTest = true ↔ 0 < (ofTests tests).importStepCount := by
  calc (ofTests tests).hasImportTest = true
    _ ↔ ∃ t ∈ tests, t.hasImportStep = true := List.any_eq_true
    _ ↔ ∃ t ∈ tests, ∃ s ∈ t.steps, s.importState = true :=
      exists_congr fun t => and_congr_right fun ht => (h t ht).hasImportStep_iff
    _ ↔ ∃ s ∈ tests.flatMap (·.steps), s.importState = true := by
      simp only [List.mem_flatMap]
      tauto
    _ ↔ 0 < (ofTests tests).importStepCount := List.countP_pos_iff.symm

/-- Some test asserts on the state or the plan. -/
def hasResultCheck (c : Coverage) : Bool :=
  c.hasStateCheck || c.hasPlanCheck

/-- There is no check without a test. -/
theorem hasBasicTest_of_hasResultCheck (h : (ofTests tests).hasResultCheck = true) :
    (ofTests tests).hasBasicTest = true := by
  cases tests with
  | nil => cases h
  | cons t tests => rfl

end Coverage

namespace CoverageReport

variable {report : CoverageReport} {e : CoverageEntry}

/-- Entities with a test. -/
def tested (report : CoverageReport) : List CoverageEntry :=
  report.entries.filter (·.coverage.hasBasicTest)

/-- Entities with a test that asserts on the state or the plan. -/
def checked (report : CoverageReport) : List CoverageEntry :=
  report.entries.filter (·.coverage.hasResultCheck)

/-- The entries of a report fall into three lists, and no two of these share an entry. -/
structure Threefold (report : CoverageReport) : Prop where
  perm : (report.untested ++ report.missingStateChecks ++ report.checked).Perm report.entries
  untested_missing : report.untested.Disjoint report.missingStateChecks
  untested_checked : report.untested.Disjoint report.checked
  missing_checked : report.missingStateChecks.Disjoint report.checked

theorem disjoint_filter_not {α : Type} (p : α → Bool) (l : List α) :
    (l.filter (!p ·)).Disjoint (l.filter p) := by
  intro a ha ha'
  have hnot := (List.mem_filter.mp ha).2
  rw [(List.mem_filter.mp ha').2] at hnot
  cases hnot

theorem missingStateChecks_eq_filter (report : CoverageReport) :
    report.missingStateChecks = report.tested.filter (!·.coverage.hasResultCheck) := by
  rw [missingStateChecks, tested, List.filter_filter]
  refine List.filter_congr fun e _ => ?_
  rw [Coverage.missingStateChecks, Coverage.hasResultCheck, Bool.not_or, Bool.and_assoc,
    Bool.and_comm]

variable (h : ∀ e ∈ report.entries, ∃ tests, e.coverage = Coverage.ofTests tests)
include h

theorem checked_eq_filter : report.checked = report.tested.filter (·.coverage.hasResultCheck) := by
  rw [checked, tested, List.filter_filter]
  refine List.filter_congr fun e he => ?_
  obtain ⟨tests, htests⟩ := h e he
  have hbasic := @Coverage.hasBasicTest_of_hasResultCheck tests
  rw [← htests] at hbasic
  cases hcheck : e.coverage.hasResultCheck with
  | false => rfl
  | true => rw [hbasic hcheck, Bool.and_self]

/-- Entities are told apart by whether they have tests, and those with tests by whether one of these
asserts on the state or the plan. -/
theorem threefold_of_ofTests : report.Threefold := by
  have hchecked := checked_eq_filter h
  have hmissing := report.missingStateChecks_eq_filter
  have htested : (report.missingStateChecks ++ report.checked).Perm report.tested := by
    rw [hmissing, hchecked]
    exact List.perm_append_comm.trans (List.filter_append_perm _ _)
  have huntested : report.untested.Disjoint (report.missingStateChecks ++ report.checked) :=
    htested.disjoint_right.mpr (disjoint_filter_not _ _)
  obtain ⟨huntestedMissing, huntestedChecked⟩ := List.disjoint_append_right.mp huntested
  refine ⟨?_, huntestedMissing, huntestedChecked, ?_⟩
  · rw [List.append_assoc]
    exact (htested.append_left _).trans
      (List.perm_append_comm.trans (List.filter_append_perm _ _))
  · rw [hmissing, hchecked]
    exact disjoint_filter_not _ _

end CoverageReport

namespace Coverage

/-- The coverage of two lists of tests is that of both combined, and does not depend on the order.
There is an update exactly if the count of updates is positive, and likewise for imports of tests
that have been read. A report has every entity once, untested, without a check of state or plan, or
with one. -/
theorem ofTests_adds_up :
    (∀ xs ys, ofTests (xs ++ ys) = (ofTests xs).combine (ofTests ys)) ∧
    (∀ xs ys, xs.Perm ys → ofTests xs = ofTests ys) ∧
    (∀ tests, (ofTests tests).hasUpdateTest = true ↔ 0 < (ofTests tests).updateStepCount) ∧
    (∀ tests, (∀ t ∈ tests, t.IsRead) →
      ((ofTests tests).hasImportTest = true ↔ 0 < (ofTests tests).importStepCount)) ∧
    ∀ r : Registry, (CoverageReport.ofRegistry r).entries.map (·.entity) = r.entities ∧
      (CoverageReport.ofRegistry r).Threefold := by
  refine ⟨ofTests_append, fun _ _ => ofTests_perm, fun _ => hasUpdateTest_iff_count,
    fun _ => hasImportTest_iff_count, fun r => ⟨?_, ?_⟩⟩
  · rw [CoverageReport.ofRegistry, List.map_map]
    exact List.map_id _
  · refine CoverageReport.threefold_of_ofTests fun e he => ?_
    obtain ⟨entity, -, rfl⟩ := List.mem_map.mp he
    exact ⟨r.testsFor entity.key, rfl⟩

/-! ### A test with an import beside one without -/

def importingFile : Go.SourceFile :=
  .ofLines "widget_test.go"
    ["package provider",
     "",
     "import \"github.com/hashicorp/terraform-plugin-testing/helper/resource\"",
     "",
     "func TestAccWidget(t *testing.T) \x7b",
     "\tresource.Test(t, resource.TestCase\x7b",
     "\t\tSteps: []resource.TestStep\x7b\x7bImportState: true\x7d\x7d,",
     "\t\x7d)",
     "\x7d",
     "",
     "func TestAccGadget(t *testing.T) \x7b",
     "\tresource.Test(t, resource.TestCase\x7b",
     "\t\tSteps: []resource.TestStep\x7b\x7bConfig: a\x7d\x7d,",
     "\t\x7d)",
     "\x7d"] true

theorem importing_adds_up : ∃ tests, (∀ t ∈ tests, t.IsRead) ∧ tests.length = 2 ∧
    (ofTests tests).importStepCount = 1 ∧ (ofTests tests).hasImportTest = true ∧
    ofTests tests.reverse = ofTests tests := by
  obtain ⟨-, hperm, -, himport, -⟩ := ofTests_adds_up
  have hread : ∀ t ∈ TestReader.tests ⟨.default, []⟩ importingFile, t.IsRead :=
    fun _ ht => AcceptanceTest.isRead_of_mem_tests ht
  have hcounts : (TestReader.tests ⟨.default, []⟩ importingFile).length = 2 ∧
      (ofTests (TestReader.tests ⟨.default, []⟩ importingFile)).importStepCount = 1 := by
    rw [importingFile, Go.SourceFile.ofLines_eq]
    repeat rw [Go.SourceFile.textOfLines_cons]
    decide +kernel
  exact ⟨_, hread, hcounts.1, hcounts.2, (himport _ hread).mpr (hcounts.2 ▸ Nat.one_pos),
    hperm _ _ (List.reverse_perm _)⟩

end Coverage
end ProviderCoverage

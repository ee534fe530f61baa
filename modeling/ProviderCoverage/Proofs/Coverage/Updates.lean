import ProviderCoverage.Coverage
import ProviderCoverage.Proofs.Go.Lines
import ProviderCoverage.Proofs.Registry.FileOrder
import ProviderCoverage.Proofs.TestFile.StepLists

/-! Update coverage. An entity has it if, in one list of steps of one of its tests, a step after the
first has a configuration and is no import. Steps of different test cases or tests are never set
against each other, although the steps of a test are one list and those of an entity are taken
together (`update_coverage_within_lists`). -/

namespace ProviderCoverage

open Go

namespace AcceptanceTest

/-- The test as it was before it was linked. -/
def unlink (t : AcceptanceTest) : AcceptanceTest :=
  { t with matchType := .unmatched, confidence := 0, linkedKey? := none }

/-- What a reader has read from a function of a file, whatever it has been linked to since. -/
structure ReadFrom (t : AcceptanceTest) (reader : TestReader) (f : SourceFile) (g : Function) :
    Prop where
  mem : g ∈ f.functions
  read : reader.ofFunction? f (TestScope.ofFile f) g = some t.unlink

/-- The test is one of some file, whatever it has been linked to since. -/
def IsRead (t : AcceptanceTest) : Prop :=
  ∃ (reader : TestReader) (f : SourceFile), t.unlink ∈ reader.tests f

/-- In one list of steps of the body that the test has been read from, some step after the first has
a configuration and does not say `ImportState: true`. -/
def UpdatesInList (t : AcceptanceTest) : Prop :=
  ∃ reader f g body, t.ReadFrom reader f g ∧ g.body = some body ∧
    ∃ list ∈ (TestScope.ofFile f).stepLists body, TestStep.UpdatesIn list

variable {t : AcceptanceTest} {reader : TestReader} {f : SourceFile} {g : Function} {body : Node}

theorem ReadFrom.isRead (h : t.ReadFrom reader f g) : t.IsRead :=
  ⟨reader, f, List.mem_filterMap.mpr ⟨g, h.mem, h.read⟩⟩

theorem IsRead.exists_readFrom (h : t.IsRead) : ∃ reader f g, t.ReadFrom reader f g := by
  obtain ⟨reader, f, hmem⟩ := h
  obtain ⟨g, hg, hread⟩ := List.mem_filterMap.mp hmem
  exact ⟨reader, f, g, hg, hread⟩

theorem ReadFrom.exists_body (h : t.ReadFrom reader f g) : ∃ body, g.body = some body := by
  obtain ⟨body, -, hbody, -⟩ := TestReader.ofFunction?_eq_some h.read
  exact ⟨body, hbody⟩

theorem ReadFrom.any_isUpdate (h : t.ReadFrom reader f g) (hbody : g.body = some body) :
    t.steps.any (·.isUpdate) = true ↔
      ∃ list ∈ (TestScope.ofFile f).stepLists body, TestStep.UpdatesIn list := by
  obtain ⟨body', helper, hbody', ht⟩ := TestReader.ofFunction?_eq_some h.read
  obtain rfl : body = body' := Option.some.inj (hbody.symm.trans hbody')
  change t.unlink.steps.any _ = true ↔ _
  rw [ht]
  exact TestReader.any_isUpdate_ofBody

theorem IsRead.any_isUpdate (h : t.IsRead) :
    t.steps.any (·.isUpdate) = true ↔ t.UpdatesInList := by
  constructor
  · intro hupdate
    obtain ⟨reader, f, g, hread⟩ := h.exists_readFrom
    obtain ⟨body, hbody⟩ := hread.exists_body
    exact ⟨reader, f, g, body, hread, hbody, (hread.any_isUpdate hbody).mp hupdate⟩
  · rintro ⟨reader, f, g, body, hread, hbody, hlist⟩
    exact (hread.any_isUpdate hbody).mpr hlist

/-- Where the same test can be read from several bodies, any of them tells whether it updates. -/
theorem ReadFrom.updatesInList_iff (h : t.ReadFrom reader f g) (hbody : g.body = some body) :
    t.UpdatesInList ↔ ∃ list ∈ (TestScope.ofFile f).stepLists body, TestStep.UpdatesIn list :=
  h.isRead.any_isUpdate.symm.trans (h.any_isUpdate hbody)

theorem IsNew.unlink_eq (h : t.IsNew) : t.unlink = t := by
  rw [unlink, ← h.linkedKey?, ← h.matchType, ← h.confidence]

/-- Linking keeps what has been read. -/
theorem IsNew.unlink_linked (h : t.IsNew) (l : Linker) : (l.linked t).unlink = t := by
  rw [Linker.linked, h.linkedKey?]
  cases l.matchTest t with
  | none => exact h.unlink_eq
  | some m => exact h.unlink_eq

end AcceptanceTest

namespace Coverage

variable {tests : List AcceptanceTest}

theorem hasUpdateTest_ofTests :
    (ofTests tests).hasUpdateTest = true ↔ ∃ t ∈ tests, t.steps.any (·.isUpdate) = true := by
  rw [ofTests, List.any_flatMap, List.any_eq_true]

theorem hasUpdateTest_ofTests_of_isRead (h : ∀ t ∈ tests, t.IsRead) :
    (ofTests tests).hasUpdateTest = true ↔ ∃ t ∈ tests, t.UpdatesInList :=
  hasUpdateTest_ofTests.trans
    (exists_congr fun t => and_congr_right fun ht => (h t ht).any_isUpdate)

end Coverage

namespace Registry

variable {r : Registry} {s : Settings} {patterns : PatternReader} {rounding : Rounding}
  {files : List SourceFile} {t : AcceptanceTest}

/-- All tests of a built registry have been read from its files. -/
theorem isRead_of_build (h : build s patterns rounding files = .ok r) (ht : t ∈ r.tests) :
    t.IsRead := by
  obtain ⟨x, l, -, -, -, htests, -⟩ := linked_of_build h
  rw [htests] at ht
  obtain ⟨t₀, ht₀, rfl⟩ := List.mem_map.mp ht
  rw [unlinked_eq] at ht₀
  obtain ⟨f, -, hmem⟩ := List.mem_flatMap.mp ht₀
  have hunlink : (l.linked t₀).unlink = t₀ :=
    (TestReader.isNew_of_mem_tests hmem).unlink_linked l
  exact ⟨_, f, hunlink.symm ▸ hmem⟩

/-- Every test that is read is well formed. In a registry of tests that have been read, and all
tests of a built one have, an entity has update coverage exactly if one list of steps of one of its
tests holds an update. -/
theorem update_coverage_within_lists :
    (∀ (reader : TestReader) (f : SourceFile), ∀ t ∈ reader.tests f, t.WellFormed) ∧
    (∀ r : Registry, (∀ t ∈ r.tests, t.IsRead) → ∀ e ∈ (CoverageReport.ofRegistry r).entries,
      (e.coverage.hasUpdateTest = true ↔ ∃ t ∈ r.testsFor e.entity.key, t.UpdatesInList)) ∧
    (∀ s patterns rounding files r, build s patterns rounding files = .ok r →
      ∀ t ∈ r.tests, t.IsRead) := by
  refine ⟨fun _ _ _ => TestReader.wellFormed_of_mem_tests, fun r hread e he => ?_,
    fun _ _ _ _ _ h _ => isRead_of_build h⟩
  obtain ⟨entity, -, rfl⟩ := List.mem_map.mp he
  exact Coverage.hasUpdateTest_ofTests_of_isRead fun t ht => hread t (mem_tests_of_mem_testsFor ht)

/-! ### Two test cases are not one -/

/-- Two resources: the test of one has a test case of two steps, that of the other two test cases of
one step. -/
def twoSteps : List SourceFile :=
  [.ofLines "provider.go"
    ["package provider",
     "",
     "func (r *WidgetResource) Schema() \x7b\x7d",
     "",
     "func (r *GadgetResource) Schema() \x7b\x7d"] false,
   .ofLines "provider_test.go"
    ["package provider",
     "",
     "import \"github.com/hashicorp/terraform-plugin-testing/helper/resource\"",
     "",
     "func TestAccWidget(t *testing.T) \x7b",
     "\tresource.Test(t, resource.TestCase\x7b",
     "\t\tSteps: []resource.TestStep\x7b\x7bConfig: a\x7d, \x7bConfig: b\x7d\x7d,",
     "\t\x7d)",
     "\x7d",
     "",
     "func TestAccGadget(t *testing.T) \x7b",
     "\tresource.Test(t, resource.TestCase\x7b",
     "\t\tSteps: []resource.TestStep\x7b\x7bConfig: a\x7d\x7d,",
     "\t\x7d)",
     "\tresource.Test(t, resource.TestCase\x7b",
     "\t\tSteps: []resource.TestStep\x7b\x7bConfig: b\x7d\x7d,",
     "\t\x7d)",
     "\x7d"] true]

theorem widget_updated_gadget_not : ∃ r,
    build .default Pattern.finder? Binary64.nearest twoSteps = .ok r ∧
    (∀ t ∈ r.tests, t.IsRead) ∧
    (CoverageReport.ofRegistry r).entries.map (fun e => (e.entity.key.name, e.coverage.stepCount)) =
      [("gadget", 2), ("widget", 2)] ∧
    ∀ e ∈ (CoverageReport.ofRegistry r).entries,
      (∃ t ∈ r.testsFor e.entity.key, t.UpdatesInList) ↔ e.entity.key.name = "widget" := by
  have hrun : (build .default Pattern.finder? Binary64.nearest twoSteps).toOption.any fun r =>
      (CoverageReport.ofRegistry r).entries.map
        (fun e => (e.entity.key.name, e.coverage.stepCount)) = [("gadget", 2), ("widget", 2)] ∧
      ∀ e ∈ (CoverageReport.ofRegistry r).entries,
        e.coverage.hasUpdateTest = true ↔ e.entity.key.name = "widget" := by
    rw [twoSteps, SourceFile.ofLines_eq, SourceFile.ofLines_eq]
    repeat rw [SourceFile.textOfLines_cons]
    decide +kernel
  obtain ⟨r, hr, hentries⟩ := exists_of_any_toOption hrun
  obtain ⟨hnames, hflags⟩ := of_decide_eq_true hentries
  obtain ⟨-, hlists, hread⟩ := update_coverage_within_lists
  have htests : ∀ t ∈ r.tests, t.IsRead := hread _ _ _ _ r hr
  exact ⟨r, hr, htests, hnames, fun e he => (hlists r htests e he).symm.trans (hflags e he)⟩

end Registry
end ProviderCoverage

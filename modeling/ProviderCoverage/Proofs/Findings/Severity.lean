import ProviderCoverage.Pattern.Syntax
import ProviderCoverage.Proofs.Findings.Reviews
import ProviderCoverage.Proofs.Go.Lines
import ProviderCoverage.Proofs.Registry.Built

/-! How serious the findings about an entity of a built registry are. What decides is the surest
link of its tests, and how sure a link is depends on the way that found it: a link by blocks never
makes an error, and one by the name of the function or of the file always does. A link by
similarity is as sure as the names are similar, and that may be more than enough for a warning or
an error (`severity_of_build`). -/

namespace ProviderCoverage

/-- The numbers that decide, with that of a link by blocks, in order. -/
theorem Binary64.tenths_lt :
    0 < nearest (mkRat 7 10) ∧ nearest (mkRat 7 10) < nearest (mkRat 8 10) ∧
      nearest (mkRat 8 10) < nearest (mkRat 9 10) ∧ nearest (mkRat 9 10) < 1 := by
  decide +kernel

namespace Severity

variable {q : Rat}

theorem ofConfidence_eq_error_iff :
    ofConfidence q = .error ↔ Binary64.nearest (mkRat 9 10) ≤ q := by
  rw [ofConfidence]
  split
  · next h => simp [h]
  · next h => split <;> simp [h]

theorem ofConfidence_eq_info_iff :
    ofConfidence q = .info ↔ ¬ Binary64.nearest (mkRat 7 10) ≤ q := by
  obtain ⟨-, hseven, height, -⟩ := Binary64.tenths_lt
  rw [ofConfidence]
  split
  · next h => simp [(hseven.trans height).le.trans h]
  · split
    · next h => simp [h]
    · next h => simp [h]

end Severity

namespace Findings

variable {r : Registry} {s : Settings} {patterns : PatternReader} {fs : List Finding} {f : Finding}
  {key : EntityKey}

/-- The highest confidence reaches a bound if one does. -/
theorem le_confidence_iff {tests : List AcceptanceTest} {bound : Rat} (hbound : 0 < bound) :
    bound ≤ confidence tests ↔ ∃ t ∈ tests, bound ≤ t.confidence := by
  have hfold : ∀ first, bound ≤ tests.foldl
      (fun best t => if best < t.confidence then t.confidence else best) first ↔
        bound ≤ first ∨ ∃ t ∈ tests, bound ≤ t.confidence := by
    induction tests with
    | nil => simp
    | cons t tests ih =>
      intro first
      rw [List.foldl_cons, ih, List.exists_mem_cons_iff, ← or_assoc]
      refine or_congr_left ?_
      split
      · next hlt => exact ⟨.inr, fun h => h.elim (·.trans hlt.le) id⟩
      · next hle => exact ⟨.inl, fun h => h.elim id (·.trans (not_lt.mp hle))⟩
  rw [confidence, hfold]
  simp [hbound.not_ge]

/-- A finding about an entity, other than that it has no tests, is as serious as its tests are
surely linked. -/
theorem severity_of_mem_evaluate (hfs : evaluate r s patterns = .ok fs) (hf : f ∈ fs)
    (hkey : f.entity = some key) (hbasic : f.analyzer ≠ .basic) :
    r.testsFor key ≠ [] ∧ f.severity = Severity.ofConfidence (confidence (r.testsFor key)) := by
  rcases mem_evaluate hfs hf with ⟨e, -, hf⟩ | rfl
  · have hentity : some key = some e.key :=
      hkey.symm.trans (EntityReview.reports_of_mem_findings hf).2
    rw [Option.some.inj hentity]
    refine ⟨fun hnone => hbasic ?_, EntityReview.severity_of_mem_findings hf hbasic⟩
    rw [EntityReview.analyzer_eq_basic_iff hf]
    simp [review, entry, Coverage.ofTests, hnone]
  · cases hkey

end Findings

namespace Registry

variable {r : Registry} {s : Settings} {patterns : PatternReader} {files : List Go.SourceFile}
  {key : EntityKey} {t : AcceptanceTest}

/-- How sure the links of a built registry are. -/
theorem confidence_of_build (h : build s patterns Binary64.nearest files = .ok r)
    (ht : t ∈ r.testsFor key) :
    t.matchType = .functionName ∧ t.confidence = 1 ∨
    t.matchType = .fileProximity ∧ t.confidence = Binary64.nearest (mkRat 9 10) ∨
    t.matchType = .inferredFromConfig ∧ t.confidence = Binary64.nearest (mkRat 8 10) ∨
    t.matchType = .fuzzy ∧ s.fuzzyThreshold.exceeds t.confidence = false := by
  obtain ⟨ht, hkey⟩ := (reachable_of_build h).consistent.mem_testsFor_iff.mp ht
  obtain ⟨l, hl, hlinks⟩ := link_of_build h
  obtain ⟨t₀, hnew, htest⟩ := hlinks t ht
  obtain ⟨m, hmatch⟩ : ∃ m, l.matchTest t = some m := by
    refine Option.ne_none_iff_exists'.mp fun hnone => ?_
    rw [htest, hnone, Option.elim_none, hnew.linkedKey?] at hkey
    cases hkey
  rw [hmatch, Option.elim_some] at htest
  have htype : t.matchType = m.matchType := by rw [htest, AcceptanceTest.linkedBy]
  have hconfidence : t.confidence = m.confidence := by rw [htest, AcceptanceTest.linkedBy]
  rw [htype, hconfidence]
  obtain ⟨key, -, rfl⟩ | ⟨key, -, rfl⟩ | ⟨key, -, rfl⟩ | ⟨key, score, hsimilar, rfl⟩ :=
    Linker.matchTest_cases hmatch
  · exact .inl ⟨rfl, rfl⟩
  · exact .inr (.inl ⟨rfl, rfl⟩)
  · exact .inr (.inr (.inl ⟨rfl, rfl⟩))
  · obtain ⟨threshold, _, best, hthreshold, -, hbest, -, rfl⟩ :=
      Linker.matchBySimilarity_eq_some_iff.mp hsimilar
    rw [(Linker.isSnapshot_of_ofRegistry hl).threshold] at hthreshold
    split at hthreshold
    · rw [Option.some.inj hthreshold]
      exact .inr (.inr (.inr ⟨rfl, not_exceeds_bestMatch hbest⟩))
    · cases hthreshold

/-- A link is sure enough for an error if it comes from the name of the function or of the file, or
from a name that is similar enough. -/
theorem nine_tenths_le_confidence_iff (h : build s patterns Binary64.nearest files = .ok r)
    (ht : t ∈ r.testsFor key) :
    Binary64.nearest (mkRat 9 10) ≤ t.confidence ↔
      t.matchType = .functionName ∨ t.matchType = .fileProximity ∨
        t.matchType = .fuzzy ∧ Binary64.nearest (mkRat 9 10) ≤ t.confidence := by
  obtain ⟨-, -, height, hnine⟩ := Binary64.tenths_lt
  rcases confidence_of_build h ht with ⟨hw, hq⟩ | ⟨hw, hq⟩ | ⟨hw, hq⟩ | ⟨hw, -⟩
  · simp [hw, hq, hnine.le]
  · simp [hw, hq]
  · simp [hw, hq, height]
  · simp [hw]

/-- Only similarity makes links that are not sure enough for a warning. -/
theorem confidence_lt_seven_tenths_iff (h : build s patterns Binary64.nearest files = .ok r)
    (ht : t ∈ r.testsFor key) :
    t.confidence < Binary64.nearest (mkRat 7 10) ↔
      t.matchType = .fuzzy ∧ t.confidence < Binary64.nearest (mkRat 7 10) := by
  obtain ⟨-, hseven, height, hnine⟩ := Binary64.tenths_lt
  rcases confidence_of_build h ht with ⟨hw, hq⟩ | ⟨hw, hq⟩ | ⟨hw, hq⟩ | ⟨hw, -⟩
  · simp [hw, hq, ((hseven.trans height).trans hnine).le]
  · simp [hw, hq, (hseven.trans height).le]
  · simp [hw, hq, hseven.le]
  · simp [hw]

end Registry

namespace Findings

section

variable {r : Registry} {s s' : Settings} {patterns : PatternReader} {files : List Go.SourceFile}
  {fs : List Finding} {f : Finding} {key : EntityKey}
  (hr : Registry.build s patterns Binary64.nearest files = .ok r)
  (hfs : evaluate r s' patterns = .ok fs) (hf : f ∈ fs)
include hr hfs hf

theorem severity_eq_error_iff (hkey : f.entity = some key) (hbasic : f.analyzer ≠ .basic) :
    f.severity = .error ↔ ∃ t ∈ r.testsFor key,
      t.matchType = .functionName ∨ t.matchType = .fileProximity ∨
        t.matchType = .fuzzy ∧ Binary64.nearest (mkRat 9 10) ≤ t.confidence := by
  obtain ⟨hpos, hseven, height, -⟩ := Binary64.tenths_lt
  rw [(severity_of_mem_evaluate hfs hf hkey hbasic).2, Severity.ofConfidence_eq_error_iff,
    le_confidence_iff (hpos.trans (hseven.trans height))]
  exact exists_congr fun t =>
    and_congr_right fun ht => Registry.nine_tenths_le_confidence_iff hr ht

theorem severity_eq_info_iff (hkey : f.entity = some key) (hbasic : f.analyzer ≠ .basic) :
    f.severity = .info ↔ ∀ t ∈ r.testsFor key,
      t.matchType = .fuzzy ∧ t.confidence < Binary64.nearest (mkRat 7 10) := by
  obtain ⟨hpos, -⟩ := Binary64.tenths_lt
  rw [(severity_of_mem_evaluate hfs hf hkey hbasic).2, Severity.ofConfidence_eq_info_iff,
    le_confidence_iff hpos]
  simp only [not_exists, not_and, not_le]
  exact forall₂_congr fun t ht => Registry.confidence_lt_seven_tenths_iff hr ht

/-- Where only scores from 0.7 on count, as by default, no such finding is informational. -/
theorem severity_ne_info (hkey : f.entity = some key) (hbasic : f.analyzer ≠ .basic)
    (hthreshold : ∀ q < Binary64.nearest (mkRat 7 10), s.fuzzyThreshold.exceeds q = true) :
    f.severity ≠ .info := by
  intro hinfo
  obtain ⟨t, ht⟩ := List.exists_mem_of_ne_nil _ (severity_of_mem_evaluate hfs hf hkey hbasic).1
  obtain ⟨hfuzzy, hlt⟩ := (severity_eq_info_iff hr hfs hf hkey hbasic).mp hinfo t ht
  rcases Registry.confidence_of_build hr ht with ⟨hw, -⟩ | ⟨hw, -⟩ | ⟨hw, -⟩ | ⟨-, hle⟩
  · simp [hw] at hfuzzy
  · simp [hw] at hfuzzy
  · simp [hw] at hfuzzy
  · simp [hthreshold _ hlt] at hle

/-- A finding about an entity, other than that it has no tests, is an error if a test is linked by
the name of its function, and a warning if all are linked by blocks. If all are linked by
similarity, it is informational exactly if every score is below 0.7, which the threshold may rule
out, and an error exactly if one reaches 0.9. -/
theorem severity_of_build (hkey : f.entity = some key) (hbasic : f.analyzer ≠ .basic) :
    r.testsFor key ≠ [] ∧
    ((∃ t ∈ r.testsFor key, t.matchType = .functionName) → f.severity = .error) ∧
    ((∀ t ∈ r.testsFor key, t.matchType = .inferredFromConfig) → f.severity = .warning) ∧
    (f.severity = .error ↔ ∃ t ∈ r.testsFor key,
      t.matchType = .functionName ∨ t.matchType = .fileProximity ∨
        t.matchType = .fuzzy ∧ Binary64.nearest (mkRat 9 10) ≤ t.confidence) ∧
    (f.severity = .info ↔ ∀ t ∈ r.testsFor key,
      t.matchType = .fuzzy ∧ t.confidence < Binary64.nearest (mkRat 7 10)) ∧
    ((∀ q < Binary64.nearest (mkRat 7 10), s.fuzzyThreshold.exceeds q = true) →
      f.severity ≠ .info) := by
  have htests := (severity_of_mem_evaluate hfs hf hkey hbasic).1
  have herror := severity_eq_error_iff hr hfs hf hkey hbasic
  have hinfo := severity_eq_info_iff hr hfs hf hkey hbasic
  refine ⟨htests, ?_, ?_, herror, hinfo, severity_ne_info hr hfs hf hkey hbasic⟩
  · rintro ⟨t, ht, hname⟩
    exact herror.mpr ⟨t, ht, .inl hname⟩
  · intro hall
    obtain ⟨t, ht⟩ := List.exists_mem_of_ne_nil _ htests
    cases hseverity : f.severity with
    | warning => rfl
    | error =>
      obtain ⟨t, ht, hway⟩ := herror.mp hseverity
      simp [hall t ht] at hway
    | info =>
      have hway := hinfo.mp hseverity t ht
      simp [hall t ht] at hway

end

/-! ### A guess that counts as an error -/

/-- A resource, and a test that has nearly the name of it and no configuration. -/
def nearlyNamed : List Go.SourceFile :=
  [.ofLines "provider.go"
    ["package provider",
     "",
     "func (r *LoadBalancerResource) Schema() \x7b\x7d"] false,
   .ofLines "misc_test.go"
    ["package provider",
     "",
     "import (",
     "\t\"github.com/hashicorp/terraform-plugin-testing/helper/resource\"",
     ")",
     "",
     "func TestAccLoadBalancers_basic(t *testing.T) \x7b",
     "\tresource.Test(t, resource.TestCase\x7b",
     "\t\tSteps: []resource.TestStep\x7b",
     "\t\t\t\x7bRefreshState: true\x7d,",
     "\t\t\x7d,",
     "\t\x7d)",
     "\x7d"] true]

def similarityWanted : Settings :=
  { Settings.default with enableFuzzyMatching := true }

theorem fuzzy_finding_error : ∃ r fs f,
    Registry.build similarityWanted Pattern.finder? Binary64.nearest nearlyNamed = .ok r ∧
    evaluate r similarityWanted Pattern.finder? = .ok fs ∧ f ∈ fs ∧
    f.entity = some ⟨.resource, "load_balancer"⟩ ∧ f.analyzer ≠ .basic ∧
    (∀ t ∈ r.testsFor ⟨.resource, "load_balancer"⟩, t.matchType = .fuzzy) ∧
    f.severity = .error := by
  have hrun : (Registry.build similarityWanted Pattern.finder? Binary64.nearest
      nearlyNamed).toOption.any fun r =>
        ((r.testsFor ⟨.resource, "load_balancer"⟩).all fun t =>
          t.matchType = .fuzzy ∧ Binary64.nearest (mkRat 9 10) ≤ t.confidence) &&
        (evaluate r similarityWanted Pattern.finder?).toOption.any fun fs => fs.any fun f =>
          f.entity = some ⟨.resource, "load_balancer"⟩ ∧ f.analyzer ≠ .basic := by
    rw [nearlyNamed, Go.SourceFile.ofLines_eq, Go.SourceFile.ofLines_eq]
    repeat rw [Go.SourceFile.textOfLines_cons]
    decide +kernel
  obtain ⟨r, hr, hr'⟩ := exists_of_any_toOption hrun
  obtain ⟨hall, hfindings⟩ := Bool.and_eq_true_iff.mp hr'
  obtain ⟨fs, hfs, hfs'⟩ := exists_of_any_toOption hfindings
  simp only [List.all_eq_true, List.any_eq_true, decide_eq_true_eq] at hall hfs'
  obtain ⟨f, hf, hkey, hbasic⟩ := hfs'
  obtain ⟨htests, -, -, herror, -⟩ := severity_of_build hr hfs hf hkey hbasic
  obtain ⟨t, ht⟩ := List.exists_mem_of_ne_nil _ htests
  exact ⟨r, fs, f, hr, hfs, hf, hkey, hbasic, fun t ht => (hall t ht).1,
    herror.mpr ⟨t, ht, .inr (.inr (hall t ht))⟩⟩

end Findings
end ProviderCoverage

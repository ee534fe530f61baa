import Mathlib.Data.List.Flatten
import ProviderCoverage.Pattern.Syntax
import ProviderCoverage.Proofs.Findings.Reviews
import ProviderCoverage.Proofs.Registry.Associations

/-! More tests never open a gap. What some tests cover, more tests cover too
(`Coverage.within_of_subset`), so an analyzer that reports a tested entity with more tests has
reported it before. And a new link changes nothing for other entities, nor for the package. So the
findings after a link are among those before it (`evaluate_narrows`). -/

namespace ProviderCoverage

/-! ### Coverage -/

/-- What the first covers, the second covers too. -/
structure Coverage.Within (c c' : Coverage) : Prop where
  basic : c.hasBasicTest = true → c'.hasBasicTest = true
  update : c.hasUpdateTest = true → c'.hasUpdateTest = true
  importing : c.hasImportTest = true → c'.hasImportTest = true
  error : c.hasErrorTest = true → c'.hasErrorTest = true
  stateCheck : c.hasStateCheck = true → c'.hasStateCheck = true
  planCheck : c.hasPlanCheck = true → c'.hasPlanCheck = true
  checkDestroy : c.hasCheckDestroy = true → c'.hasCheckDestroy = true

/-- Coverage asks whether some test or step is there, never how many. -/
theorem Coverage.within_of_subset {tests tests' : List AcceptanceTest} (h : tests ⊆ tests') :
    (ofTests tests).Within (ofTests tests') := by
  have htest : ∀ p : AcceptanceTest → Bool, tests.any p = true → tests'.any p = true := by
    intro p hp
    obtain ⟨t, ht, hp⟩ := List.any_eq_true.mp hp
    exact List.any_eq_true.mpr ⟨t, h ht, hp⟩
  have hstep : ∀ p : TestStep → Bool, (tests.flatMap (·.steps)).any p = true →
      (tests'.flatMap (·.steps)).any p = true := by
    intro p
    rw [List.any_flatMap, List.any_flatMap]
    exact htest _
  refine ⟨fun hbasic => ?_, hstep _, htest _, htest _, hstep _, hstep _, htest _⟩
  cases tests with
  | nil => cases hbasic
  | cons t tests =>
    have hne : tests' ≠ [] := List.ne_nil_of_mem (h (List.mem_cons_self ..))
    simpa [ofTests] using hne

namespace EntityReview

variable {s : Settings} {r r' : EntityReview} {a : Analyzer}

/-- What is reported of a tested entity is reported with less coverage as well. -/
theorem reports_of_within (hentity : r'.entity = r.entity) (h : r.coverage.Within r'.coverage)
    (htested : r.coverage.hasBasicTest = true) (hreports : r'.reports s a = true) :
    r.reports s a = true := by
  have htested' := h.basic htested
  cases a with
  | basic => simp [reports, htested'] at hreports
  | update =>
    have hupdate := h.update
    simp only [reports, missingUpdate, isResource, hentity, htested] at hreports ⊢
    grind
  | importing =>
    have himport := h.importing
    simp only [reports, missingImport, isResource, hentity, htested] at hreports ⊢
    grind
  | error =>
    have herror := h.error
    simp only [reports, missingError, isResource, hentity, htested] at hreports ⊢
    grind
  | stateCheck =>
    have hstate := h.stateCheck
    have hplan := h.planCheck
    simp only [reports, Coverage.missingStateChecks, htested] at hreports ⊢
    grind
  | checkDestroy =>
    have hdestroy := h.checkDestroy
    simp only [reports, entry, CoverageEntry.missingCheckDestroy, hentity, htested] at hreports ⊢
    grind
  | sweeper => cases hreports

/-- So nothing is reported that has not been reported. -/
theorem pairs_sublist_of_within (hentity : r'.entity = r.entity)
    (h : r.coverage.Within r'.coverage) (htested : r.coverage.hasBasicTest = true) :
    ((r'.findings s).map fun f => (f.analyzer, f.entity)).Sublist
      ((r.findings s).map fun f => (f.analyzer, f.entity)) := by
  rw [map_findings, map_findings, hentity]
  exact (List.monotone_filter_right _ fun a ha => reports_of_within hentity h htested ha).map _

end EntityReview

/-! ### Tests after a link -/

namespace Registry

variable {r r' : Registry} {key : EntityKey} {id : TestId} {t : AcceptanceTest} {l : Link}

/-- The entity of the link gains the test, and all others keep theirs. -/
theorem Consistent.testsFor_recordLink (h : r.Consistent) (ht : r.test? id = some t)
    (hlink : t.linkedKey? = none) (l : Link) (key : EntityKey) : (r.recordLink id t l).testsFor key =
      r.testsFor key ++ if key = l.target then [t.linkedBy l] else [] := by
  have hkept : ∀ i ∈ r.linkedIds key, (r.recordLink id t l).test? i = r.test? i := by
    intro i hi
    rw [test?_recordLink ht, if_neg]
    rintro rfl
    have hfree := (h.mem_iff key i).mp hi
    simp [linkOf?, ht, hlink] at hfree
  rw [testsFor, linkedIds_recordLink, List.filterMap_append, List.filterMap_congr hkept, testsFor]
  congr 1
  split
  · simp [test?_recordLink ht]
  · rfl

/-- A link does not move the first test to another file. -/
theorem location_head?_recordLink (ht : r.test? id = some t) :
    (r.recordLink id t l).tests.head?.map (·.location) = r.tests.head?.map (·.location) := by
  cases id with
  | zero =>
    have hhead : r.tests.head? = some t := List.head?_eq_getElem?.trans ht
    obtain ⟨rest, hrest⟩ := List.head?_eq_some_iff.mp hhead
    rw [recordLink, hrest]
    rfl
  | succ id =>
    rw [recordLink]
    cases r.tests <;> rfl

end Registry

namespace Findings

variable {r r' : Registry} {s : Settings} {pattern : Option (String → Bool)} {key : EntityKey}
  {id : TestId} {t : AcceptanceTest} {l : Link} {fs : List Finding}

/-! ### Findings after a link -/

theorem ofEntries_eq (r : Registry) (s : Settings) (pattern : Option (String → Bool)) :
    ofEntries r s pattern = (r.entities.filter (admits pattern ·.key.name)).flatMap fun e =>
      (review r (entry r e)).findings s := by
  rw [ofEntries, CoverageReport.ofRegistry, List.filter_map, List.flatMap_map]
  rfl

/-- The place of the finding about the package is all that it takes from the tests. -/
theorem noSweepers_eq (h : r'.tests.head?.map (·.location) = r.tests.head?.map (·.location)) :
    noSweepers r' = noSweepers r := by
  rw [noSweepers, noSweepers]
  cases hr' : r'.tests.head? <;> cases hr : r.tests.head? <;> simp_all

theorem ofPackage_recordLink (ht : r.test? id = some t) :
    ofPackage (r.recordLink id t l) s = ofPackage r s := by
  rw [ofPackage, ofPackage, noSweepers_eq (Registry.location_head?_recordLink ht)]
  rfl

section
variable (hr : r.Consistent) (ht : r.test? id = some t) (hlink : t.linkedKey? = none)
include hr ht hlink

theorem review_recordLink_of_ne {e : Entity} (hkey : e.key ≠ l.target) :
    review (r.recordLink id t l) (entry (r.recordLink id t l) e) = review r (entry r e) := by
  have htests : (r.recordLink id t l).testsFor e.key = r.testsFor e.key := by
    rw [hr.testsFor_recordLink ht hlink, if_neg hkey, List.append_nil]
  simp only [review, entry, htests]

theorem pairs_recordLink_sublist (htested : r.testsFor l.target ≠ []) (e : Entity) :
    (((review (r.recordLink id t l) (entry (r.recordLink id t l) e)).findings s).map fun f =>
        (f.analyzer, f.entity)).Sublist
      (((review r (entry r e)).findings s).map fun f => (f.analyzer, f.entity)) := by
  by_cases hkey : e.key = l.target
  · refine EntityReview.pairs_sublist_of_within rfl (Coverage.within_of_subset ?_) ?_
    · rw [hr.testsFor_recordLink ht hlink]
      exact List.subset_append_left ..
    · rw [← hkey] at htested
      simpa [review, entry, Coverage.ofTests] using htested
  · rw [review_recordLink_of_ne hr ht hlink hkey]

/-- The findings that are not about the entity of the link stay. -/
theorem filter_findings_recordLink (e : Entity) :
    ((review (r.recordLink id t l) (entry (r.recordLink id t l) e)).findings s).filter
        (·.entity ≠ some l.target) =
      ((review r (entry r e)).findings s).filter (·.entity ≠ some l.target) := by
  by_cases hkey : e.key = l.target
  · have hnone : ∀ r : Registry, ((review r (entry r e)).findings s).filter
        (·.entity ≠ some l.target) = [] := by
      intro r
      refine List.filter_eq_nil_iff.mpr fun f hf => ?_
      rw [(EntityReview.reports_of_mem_findings hf).2, ← hkey]
      simp [review, entry]
    rw [hnone, hnone]
  · rw [review_recordLink_of_ne hr ht hlink hkey]

end

/-- How findings change when an entity with tests has one more. -/
structure Narrows (key : EntityKey) (fs fs' : List Finding) : Prop where
  /-- No analyzer reports an entity that it has not reported. -/
  pairs : (fs'.map fun f => (f.analyzer, f.entity)).Sublist (fs.map fun f => (f.analyzer, f.entity))
  /-- All that is said of other entities, and of the package, stays word for word. -/
  others : fs'.filter (·.entity ≠ some key) = fs.filter (·.entity ≠ some key)

theorem narrows_recordLink (hr : r.Consistent) (ht : r.test? id = some t)
    (hlink : t.linkedKey? = none)
    (htested : r.testsFor l.target ≠ []) (s : Settings) (pattern : Option (String → Bool)) :
    Narrows l.target (ofEntries r s pattern ++ ofPackage r s)
      (ofEntries (r.recordLink id t l) s pattern ++ ofPackage (r.recordLink id t l) s) := by
  have hentities : (r.recordLink id t l).entities = r.entities := rfl
  rw [ofPackage_recordLink ht, ofEntries_eq, ofEntries_eq, hentities]
  constructor
  · rw [List.map_append, List.map_append, List.map_flatMap, List.map_flatMap]
    exact (List.Sublist.flatMap_right _ fun e _ =>
      pairs_recordLink_sublist hr ht hlink htested e).append_right _
  · rw [List.filter_append, List.filter_append, List.filter_flatMap, List.filter_flatMap]
    congr 1
    exact List.flatMap_congr fun e _ => filter_findings_recordLink hr ht hlink e

/-- A link to an entity that has tests opens no gap, neither there nor elsewhere. There are
findings after it if there are some before it, and otherwise the settings are refused as before. -/
theorem evaluate_narrows {matchType : MatchType} {confidence : Rat} (hr : r.Reachable)
    (hlink : r.link id key matchType confidence = (r', .ok ())) (htested : r.testsFor key ≠ [])
    (s : Settings) (patterns : PatternReader) :
    match evaluate r s patterns with
    | .error e => evaluate r' s patterns = .error e
    | .ok fs => ∃ fs', evaluate r' s patterns = .ok fs' ∧ Narrows key fs fs' := by
  obtain ⟨-, t, ht, hfree, rfl⟩ := Registry.link_eq_ok_iff.mp hlink
  rw [evaluate, evaluate]
  cases s.namingPattern patterns with
  | error e => rfl
  | ok pattern =>
    exact ⟨_, rfl, narrows_recordLink (l := ⟨key, matchType, clampConfidence confidence⟩)
      hr.consistent ht hfree htested s pattern⟩

/-- A step that applies a configuration. -/
def appliedStep (index : Nat) : TestStep :=
  ⟨index, true, "a", "", true, true, false, false, false, false, false, false, [], []⟩

/-- A resource that can be imported and changed in place, with a test of one step. A second test,
which changes the configuration, is not linked yet. The data source has no tests. -/
def halfCovered : List Registry.Operation :=
  [.registerEntity ⟨⟨.resource, "widget"⟩, .unknown,
    [⟨"size", none, false, true, false, true, false, []⟩], true⟩,
   .registerEntity ⟨⟨.dataSource, "widget"⟩, .unknown, [], false⟩,
   .registerTest ⟨"TestAccWidget_basic", .unknown, [appliedStep 0], .entity, false, false, false,
    false, [], "resource.Test", .unmatched, 0, none⟩,
   .registerTest ⟨"TestAccWidget_update", .unknown, [appliedStep 0, appliedStep 1], .entity, true,
    false, false, false, [], "resource.Test", .unmatched, 0, none⟩,
   .link 0 ⟨.resource, "widget"⟩ .functionName 1]

/-- The second test closes two gaps of its entity. The others stay. -/
theorem evaluate_narrows_widget : ∃ r' fs fs',
    (Registry.empty.run halfCovered).link 1 ⟨.resource, "widget"⟩ .functionName 1 =
      (r', .ok ()) ∧
    evaluate (Registry.empty.run halfCovered) .default Pattern.finder? = .ok fs ∧
    evaluate r' .default Pattern.finder? = .ok fs' ∧
    Narrows ⟨.resource, "widget"⟩ fs fs' ∧
    fs.map (fun f => (f.analyzer, f.entity)) =
      [(.update, some ⟨.resource, "widget"⟩), (.importing, some ⟨.resource, "widget"⟩),
       (.checkDestroy, some ⟨.resource, "widget"⟩), (.basic, some ⟨.dataSource, "widget"⟩),
       (.sweeper, none)] ∧
    fs'.map (fun f => (f.analyzer, f.entity)) =
      [(.importing, some ⟨.resource, "widget"⟩), (.basic, some ⟨.dataSource, "widget"⟩),
       (.sweeper, none)] := by
  have hreachable : (Registry.empty.run halfCovered).Reachable :=
    ⟨halfCovered, by simp [halfCovered, Registry.Operation.Admissible], rfl⟩
  have hlink : (Registry.empty.run halfCovered).link 1 ⟨.resource, "widget"⟩ .functionName 1 =
      (_, .ok ()) := rfl
  obtain ⟨fs', hfs', hnarrows⟩ :=
    evaluate_narrows hreachable hlink (by decide) .default Pattern.finder?
  cases hfs'
  exact ⟨_, _, _, hlink, rfl, rfl, hnarrows, by decide +kernel, by decide +kernel⟩

end Findings
end ProviderCoverage

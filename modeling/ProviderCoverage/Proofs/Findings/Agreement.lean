import Mathlib.Data.List.Nodup
import ProviderCoverage.Pattern.Syntax
import ProviderCoverage.Proofs.Findings.Reviews
import ProviderCoverage.Proofs.Registry.KeyOrder

/-! Findings and coverage report. The analyzers decide for each entity in turn what the report
gives as lists of entries, and both come to the same: every analyzer reports the entries of its list
whose names are admitted, each once and in key order (`evaluate_agreesWithReport`). -/

namespace ProviderCoverage

/-- The entries of resources with tests. -/
def CoverageReport.testedResources (report : CoverageReport) : List CoverageEntry :=
  report.entries.filter fun e => e.coverage.hasBasicTest && e.entity.key.kind == .resource

namespace Findings

/-- The entities that an analyzer reports, in the order of its findings. -/
def reportedBy (a : Analyzer) (fs : List Finding) : List (Option EntityKey) :=
  (fs.filter (·.analyzer = a)).map (·.entity)

/-- The entities of some entries as far as their names are admitted, or none if the analyzer is not
enabled. -/
def wanted (pattern : Option (String → Bool)) (enabled : Bool) (entries : List CoverageEntry) :
    List (Option EntityKey) :=
  if enabled then (entries.filter (admits pattern ·.entity.key.name)).map (some ·.entity.key)
  else []

/-- The findings about a registry are those that its coverage report gives reason for. -/
structure AgreesWithReport (r : Registry) (s : Settings) (pattern : Option (String → Bool))
    (fs : List Finding) : Prop where
  /-- The report has an entry for each entity, on the tests that are linked to it. -/
  entries : (CoverageReport.ofRegistry r).entries =
    r.entities.map fun e => ⟨e, Coverage.ofTests (r.testsFor e.key)⟩
  untested : (CoverageReport.ofRegistry r).untested.map (·.entity.key) =
    r.keys.filter fun key => (r.testsFor key).isEmpty
  basic : reportedBy .basic fs =
    wanted pattern s.enableBasicTest (CoverageReport.ofRegistry r).untested
  stateCheck : reportedBy .stateCheck fs =
    wanted pattern s.enableStateCheck (CoverageReport.ofRegistry r).missingStateChecks
  checkDestroy : reportedBy .checkDestroy fs =
    wanted pattern s.anyAnalyzer (CoverageReport.ofRegistry r).missingCheckDestroy
  /-- Some attribute can be changed in place, and no step changes one. -/
  update : reportedBy .update fs = wanted pattern s.enableUpdateTest
    ((CoverageReport.ofRegistry r).testedResources.filter fun e =>
      e.entity.attributes.any (fun a => a.optional && a.updatable) && !e.coverage.hasUpdateTest)
  /-- It can be imported, and no step imports it. -/
  importing : reportedBy .importing fs = wanted pattern s.enableImportTest
    ((CoverageReport.ofRegistry r).testedResources.filter fun e =>
      e.entity.importable && !e.coverage.hasImportTest)
  /-- Some attribute is validated or required, and no step expects an error. -/
  error : reportedBy .error fs = wanted pattern s.enableErrorTest
    ((CoverageReport.ofRegistry r).testedResources.filter fun e =>
      e.entity.attributes.any (fun a => a.validated || a.required) && !e.coverage.hasErrorTest)
  nodup : (fs.map fun f => (f.analyzer, f.entity)).Nodup
  untested_alone : ∀ f ∈ fs, f.analyzer = .basic → ∀ g ∈ fs, g.entity = f.entity → g = f
  ordered : (fs.filterMap (·.entity)).Pairwise fun a b => b.before a = false
  /-- Last comes one finding about the package, if it has no sweepers. -/
  sweeper : ∃ others, (∀ f ∈ others, f.analyzer ≠ .sweeper ∧ f.entity.isSome) ∧
    fs = others ++ if s.anyAnalyzer ∧ r.sweeperFiles = [] then [noSweepers r] else []

variable {r : Registry} {s : Settings} {pattern : Option (String → Bool)} {a : Analyzer}

theorem reportedBy_append (fs gs : List Finding) :
    reportedBy a (fs ++ gs) = reportedBy a fs ++ reportedBy a gs := by
  simp [reportedBy]

/-- What an analyzer reports can be read off the pairs of analyzers and entities. -/
theorem reportedBy_eq (fs : List Finding) : reportedBy a fs =
    ((fs.map fun f => (f.analyzer, f.entity)).filter (·.1 = a)).map (·.2) := by
  simp [reportedBy, List.filter_map, Function.comp_def]

/-- An analyzer reports an entity once or not at all. -/
theorem reportedBy_findings (ha : a ∈ Analyzer.ofEntities) (review : EntityReview) :
    reportedBy a (review.findings s) =
      if review.reports s a then [some review.entity.key] else [] := by
  have hone : Analyzer.ofEntities.filter (· = a) = [a] := by
    revert ha
    cases a <;> decide
  calc reportedBy a (review.findings s)
    _ = ((Analyzer.ofEntities.filter (review.reports s)).filter (· = a)).map
          fun _ => some review.entity.key := by
        rw [reportedBy_eq, EntityReview.map_findings, List.filter_map, List.map_map]
        rfl
    _ = ((Analyzer.ofEntities.filter (· = a)).filter (review.reports s)).map
          fun _ => some review.entity.key := by
        rw [List.filter_filter, List.filter_filter]
        simp only [Bool.and_comm]
    _ = _ := by
        rw [hone, List.filter_singleton]
        cases review.reports s a <;> rfl

theorem reportedBy_ofEntries (ha : a ∈ Analyzer.ofEntities) :
    reportedBy a (ofEntries r s pattern) =
      (((CoverageReport.ofRegistry r).entries.filter (admits pattern ·.entity.key.name)).filter
        fun entry => (review r entry).reports s a).map (some ·.entity.key) := by
  rw [ofEntries]
  generalize (CoverageReport.ofRegistry r).entries.filter (admits pattern ·.entity.key.name) =
    entries
  induction entries with
  | nil => rfl
  | cons entry entries ih =>
    rw [List.flatMap_cons, reportedBy_append, ih, reportedBy_findings ha,
      EntityReview.map_filter_cons]
    rfl

/-- The finding about the package is no finding about an entity. -/
theorem mem_ofPackage {f : Finding} (hf : f ∈ ofPackage r s) :
    f.analyzer = .sweeper ∧ f.entity = none := by
  rw [eq_noSweepers_of_mem hf]
  exact ⟨rfl, rfl⟩

theorem reportedBy_ofPackage (ha : a ∈ Analyzer.ofEntities) :
    reportedBy a (ofPackage r s) = [] := by
  have hnone : ∀ f ∈ ofPackage r s, ¬ decide (f.analyzer = a) = true := by
    intro f hf
    rw [(mem_ofPackage hf).1, decide_eq_true_eq]
    rintro rfl
    revert ha
    decide
  rw [reportedBy, List.filter_eq_nil_iff.mpr hnone, List.map_nil]

/-- An analyzer that asks for the same as a list of the report reports the entries of that list. -/
theorem reportedBy_eq_wanted (ha : a ∈ Analyzer.ofEntities) {enabled : Bool}
    {p : CoverageEntry → Bool}
    (hreports : ∀ entry, (review r entry).reports s a = (enabled && p entry)) :
    reportedBy a (ofEntries r s pattern ++ ofPackage r s) =
      wanted pattern enabled ((CoverageReport.ofRegistry r).entries.filter p) := by
  rw [reportedBy_append, reportedBy_ofPackage ha, List.append_nil, reportedBy_ofEntries ha, wanted]
  simp only [hreports]
  cases enabled with
  | false => simp
  | true => simp only [Bool.true_and, if_true, List.filter_filter, Bool.and_comm]

/-- The analyzers that only look at resources. -/
theorem reportedBy_eq_wanted_resources (ha : a ∈ Analyzer.ofEntities) {enabled : Bool}
    {p : CoverageEntry → Bool}
    (hreports : ∀ entry, (review r entry).reports s a = (entry.coverage.hasBasicTest &&
      (enabled && ((review r entry).isResource && p entry)))) :
    reportedBy a (ofEntries r s pattern ++ ofPackage r s) =
      wanted pattern enabled ((CoverageReport.ofRegistry r).testedResources.filter p) := by
  rw [CoverageReport.testedResources, List.filter_filter]
  refine reportedBy_eq_wanted ha fun entry => ?_
  rw [hreports, EntityReview.isResource]
  simp only [review]
  grind

theorem analyzer_ofEntries {f : Finding} (hf : f ∈ ofEntries r s pattern) :
    f.analyzer ≠ .sweeper ∧ f.entity.isSome := by
  obtain ⟨entry, -, hf⟩ := List.mem_flatMap.mp hf
  obtain ⟨hreports, hentity⟩ := EntityReview.reports_of_mem_findings hf
  refine ⟨fun hsweeper => ?_, by rw [hentity]; rfl⟩
  rw [hsweeper] at hreports
  cases hreports

/-- The entries that are looked at come in key order. -/
theorem pairwise_entries (h : KeySorted r.entities) :
    ((CoverageReport.ofRegistry r).entries.filter (admits pattern ·.entity.key.name)).Pairwise
      fun a b => a.entity.key.before b.entity.key = true := by
  refine List.Pairwise.filter _ ?_
  rw [CoverageReport.ofRegistry, List.pairwise_map]
  exact h

theorem nodup_ofEntries (h : KeySorted r.entities) :
    ((ofEntries r s pattern).map fun f => (f.analyzer, f.entity)).Nodup := by
  rw [ofEntries, List.map_flatMap]
  refine List.nodup_flatMap.mpr ⟨fun entry _ => ?_, (pairwise_entries h).imp fun {a b} hab => ?_⟩
  · rw [EntityReview.map_findings]
    have hanalyzers : Analyzer.ofEntities.Nodup := by decide
    exact (hanalyzers.filter _).map fun a b hab => (Prod.mk.inj hab).1
  · rintro ⟨analyzer, entity⟩ ha hb
    obtain ⟨f, hf, hfpair⟩ := List.mem_map.mp ha
    obtain ⟨g, hg, hgpair⟩ := List.mem_map.mp hb
    have hentity : f.entity = g.entity := by
      rw [(Prod.mk.inj hfpair).2, (Prod.mk.inj hgpair).2]
    rw [(EntityReview.reports_of_mem_findings hf).2,
      (EntityReview.reports_of_mem_findings hg).2] at hentity
    exact EntityKey.ne_of_before hab (Option.some.inj hentity)

theorem ordered_ofEntries (h : KeySorted r.entities) :
    ((ofEntries r s pattern).filterMap (·.entity)).Pairwise fun a b => b.before a = false := by
  have hkey : ∀ entry : CoverageEntry, ∀ key ∈ ((review r entry).findings s).filterMap (·.entity),
      key = entry.entity.key := by
    intro entry key hkey
    obtain ⟨f, hf, hentity⟩ := List.mem_filterMap.mp hkey
    rw [(EntityReview.reports_of_mem_findings hf).2] at hentity
    exact (Option.some.inj hentity).symm
  rw [ofEntries, List.filterMap_flatMap]
  refine List.pairwise_flatMap.mpr ⟨fun entry _ => ?_, (pairwise_entries h).imp fun {a b} hab => ?_⟩
  · refine List.pairwise_of_forall_mem_list fun x hx y hy => ?_
    rw [hkey entry x hx, hkey entry y hy]
    exact EntityKey.not_before_self _
  · intro x hx y hy
    rw [hkey a x hx, hkey b y hy, Bool.eq_false_iff]
    exact fun hba => EntityKey.ne_of_before (EntityKey.before_trans hab hba) rfl

theorem untested_alone_ofEntries (h : KeySorted r.entities) {f g : Finding}
    (hf : f ∈ ofEntries r s pattern) (hbasic : f.analyzer = .basic)
    (hg : g ∈ ofEntries r s pattern) (hentity : g.entity = f.entity) : g = f := by
  obtain ⟨x, hx, hf⟩ := List.mem_flatMap.mp hf
  obtain ⟨y, hy, hg⟩ := List.mem_flatMap.mp hg
  obtain ⟨e, he, rfl⟩ := List.mem_map.mp (List.mem_filter.mp hx).1
  obtain ⟨e', he', rfl⟩ := List.mem_map.mp (List.mem_filter.mp hy).1
  rw [(EntityReview.reports_of_mem_findings hf).2,
    (EntityReview.reports_of_mem_findings hg).2] at hentity
  obtain rfl : e' = e := h.eq_of_key_eq he' he (Option.some.inj hentity)
  -- Without tests the review has one finding.
  have hfalse := (EntityReview.analyzer_eq_basic_iff hf).mp hbasic
  rw [EntityReview.eq_untested_of_mem_findings hf hbasic,
    EntityReview.eq_untested_of_mem_findings hg
      ((EntityReview.analyzer_eq_basic_iff hg).mpr hfalse)]

theorem nodup_findings (h : KeySorted r.entities) :
    ((ofEntries r s pattern ++ ofPackage r s).map fun f => (f.analyzer, f.entity)).Nodup := by
  rw [List.map_append]
  refine List.nodup_append.mpr ⟨nodup_ofEntries h, ?_, fun x hx y hy heq => ?_⟩
  · rw [ofPackage]
    split
    · exact List.nodup_singleton _
    · exact List.nodup_nil
  · obtain ⟨f, hf, rfl⟩ := List.mem_map.mp hx
    obtain ⟨g, hg, rfl⟩ := List.mem_map.mp hy
    exact (analyzer_ofEntries hf).1 ((Prod.mk.inj heq).1.trans (mem_ofPackage hg).1)

theorem agreesWithReport (h : KeySorted r.entities) (s : Settings)
    (pattern : Option (String → Bool)) :
    AgreesWithReport r s pattern (ofEntries r s pattern ++ ofPackage r s) where
  entries := rfl
  untested := by
    rw [CoverageReport.untested, CoverageReport.ofRegistry, Registry.keys, List.filter_map,
      List.filter_map, List.map_map]
    simp [Function.comp_def, Coverage.ofTests]
  basic := reportedBy_eq_wanted (by decide) fun entry => Bool.and_comm ..
  stateCheck := reportedBy_eq_wanted (by decide) fun entry => by
    simp only [EntityReview.reports, review, Coverage.missingStateChecks]
    grind
  checkDestroy := reportedBy_eq_wanted (by decide) fun entry => by
    simp only [EntityReview.reports, review, EntityReview.entry, CoverageEntry.missingCheckDestroy]
    grind
  update := reportedBy_eq_wanted_resources (by decide) fun entry => by
    simp only [EntityReview.reports, review, EntityReview.missingUpdate, Attribute.needsUpdateTest]
    grind
  importing := reportedBy_eq_wanted_resources (by decide) fun entry => by
    simp only [EntityReview.reports, review, EntityReview.missingImport]
    grind
  error := reportedBy_eq_wanted_resources (by decide) fun entry => by
    simp only [EntityReview.reports, review, EntityReview.missingError,
      Attribute.needsValidationTest]
    grind
  nodup := nodup_findings h
  untested_alone := by
    intro f hf hbasic g hg hentity
    rcases List.mem_append.mp hf with hf | hf
    · rcases List.mem_append.mp hg with hg | hg
      · exact untested_alone_ofEntries h hf hbasic hg hentity
      · have hsome := (analyzer_ofEntries hf).2
        rw [← hentity, (mem_ofPackage hg).2] at hsome
        cases hsome
    · rw [(mem_ofPackage hf).1] at hbasic
      cases hbasic
  ordered := by
    have hpackage : (ofPackage r s).filterMap (·.entity) = [] :=
      List.filterMap_eq_nil_iff.mpr fun f hf => (mem_ofPackage hf).2
    rw [List.filterMap_append, hpackage, List.append_nil]
    exact ordered_ofEntries h
  sweeper := ⟨ofEntries r s pattern, fun f hf => analyzer_ofEntries hf, by simp [ofPackage]⟩

/-- Whatever operations have led to a registry, its findings agree with its coverage report. There
are none only if the naming pattern cannot be read. -/
theorem evaluate_agreesWithReport (ops : List Registry.Operation) (s : Settings)
    (patterns : PatternReader) :
    match s.namingPattern patterns with
    | .error e => evaluate (Registry.empty.run ops) s patterns = .error e
    | .ok pattern => ∃ fs, evaluate (Registry.empty.run ops) s patterns = .ok fs ∧
        AgreesWithReport (Registry.empty.run ops) s pattern fs := by
  rw [evaluate]
  cases s.namingPattern patterns with
  | error e => rfl
  | ok pattern => exact ⟨_, rfl, agreesWithReport (Registry.keySorted_run ops) s pattern⟩

/-- Two entities of one name, of which one has a test, and one of another name. -/
def partlyTested : List Registry.Operation :=
  [.registerEntity ⟨⟨.resource, "widget"⟩, .unknown, [], true⟩,
   .registerEntity ⟨⟨.dataSource, "widget"⟩, .unknown, [], false⟩,
   .registerEntity ⟨⟨.resource, "zone"⟩, .unknown, [], false⟩,
   .registerTest ⟨"TestAccWidget_basic", .unknown, [], .entity, false, false, false, false, [],
    "resource.Test", .unmatched, 0, none⟩,
   .link 0 ⟨.resource, "widget"⟩ .functionName 1]

/-- Findings about the first name only. -/
def widgetsOnly : Settings :=
  { Settings.default with resourceNamingPattern := "^wid" }

theorem evaluate_agreesWithReport_widgets : ∃ pattern fs,
    widgetsOnly.namingPattern Pattern.finder? = .ok pattern ∧
    evaluate (Registry.empty.run partlyTested) widgetsOnly Pattern.finder? = .ok fs ∧
    AgreesWithReport (Registry.empty.run partlyTested) widgetsOnly pattern fs ∧
    (CoverageReport.ofRegistry (Registry.empty.run partlyTested)).untested.map (·.entity.key) =
      [⟨.resource, "zone"⟩, ⟨.dataSource, "widget"⟩] ∧
    fs.map (fun f => (f.analyzer, f.entity)) =
      [(.importing, some ⟨.resource, "widget"⟩), (.stateCheck, some ⟨.resource, "widget"⟩),
       (.checkDestroy, some ⟨.resource, "widget"⟩), (.basic, some ⟨.dataSource, "widget"⟩),
       (.sweeper, none)] := by
  have hrun : (evaluate (Registry.empty.run partlyTested) widgetsOnly
      Pattern.finder?).toOption.map (·.map fun f => (f.analyzer, f.entity)) =
        some [(.importing, some ⟨.resource, "widget"⟩), (.stateCheck, some ⟨.resource, "widget"⟩),
          (.checkDestroy, some ⟨.resource, "widget"⟩), (.basic, some ⟨.dataSource, "widget"⟩),
          (.sweeper, none)] := by
    decide +kernel
  have hagrees := evaluate_agreesWithReport partlyTested widgetsOnly Pattern.finder?
  cases hpattern : widgetsOnly.namingPattern Pattern.finder? with
  | error e =>
    rw [evaluate, hpattern] at hrun
    cases hrun
  | ok pattern =>
    rw [hpattern] at hagrees
    obtain ⟨fs, hfs, hagrees⟩ := hagrees
    rw [hfs] at hrun
    exact ⟨pattern, fs, rfl, hfs, hagrees, by decide +kernel, Option.some.inj hrun⟩

end Findings
end ProviderCoverage

import ProviderCoverage.Findings

/-! What the review of one entity reports. Which analyzers speak is decided by one test each
(`EntityReview.reports`), and every finding is about the entity and has a fixed place among the
findings about it (`EntityReview.map_findings`). All findings about a registry are those of the
reviews and the one about the package (`Findings.mem_evaluate`). -/

namespace ProviderCoverage

/-- The analyzers that look at entities, in the order of their findings. -/
def Analyzer.ofEntities : List Analyzer :=
  [.basic, .update, .importing, .error, .stateCheck, .checkDestroy]

namespace EntityReview

variable {s : Settings} {r : EntityReview} {f : Finding}

/-- Whether an analyzer has a finding about the entity. -/
def reports (s : Settings) (r : EntityReview) : Analyzer → Bool
  | .basic => !r.coverage.hasBasicTest && s.enableBasicTest
  | .update => r.coverage.hasBasicTest && (s.enableUpdateTest && r.missingUpdate)
  | .importing => r.coverage.hasBasicTest && (s.enableImportTest && r.missingImport)
  | .error => r.coverage.hasBasicTest && (s.enableErrorTest && r.missingError)
  | .stateCheck =>
    r.coverage.hasBasicTest && (s.enableStateCheck && r.coverage.missingStateChecks)
  | .checkDestroy => r.coverage.hasBasicTest && (s.anyAnalyzer && r.entry.missingCheckDestroy)
  | .sweeper => false

theorem findings_of_untested (h : r.coverage.hasBasicTest = false) :
    r.findings s = when s.enableBasicTest r.untested := by
  rw [findings, h]
  rfl

theorem findings_of_tested (h : r.coverage.hasBasicTest = true) : r.findings s =
    when (s.enableUpdateTest && r.missingUpdate) r.update
      ++ when (s.enableImportTest && r.missingImport) r.importing
      ++ when (s.enableErrorTest && r.missingError) r.error
      ++ when (s.enableStateCheck && r.coverage.missingStateChecks) r.stateCheck
      ++ when (s.anyAnalyzer && r.entry.missingCheckDestroy) r.checkDestroy := by
  rw [findings, h]
  rfl

theorem eq_of_mem_when {condition : Bool} {g : Finding} (h : f ∈ when condition g) : f = g := by
  cases condition with
  | false => cases h
  | true => exact List.mem_singleton.mp h

theorem map_when {α : Type} (g : Finding → α) (condition : Bool) (f : Finding) :
    (when condition f).map g = if condition then [g f] else [] := by
  cases condition <;> rfl

theorem map_filter_cons {α β : Type} (g : α → β) (p : α → Bool) (a : α) (l : List α) :
    ((a :: l).filter p).map g = (if p a then [g a] else []) ++ (l.filter p).map g := by
  rw [List.filter_cons]
  split <;> rfl

/-- The analyzers that report an entity, each once and all with its key. -/
theorem map_findings (s : Settings) (r : EntityReview) :
    (r.findings s).map (fun f => (f.analyzer, f.entity)) =
      (Analyzer.ofEntities.filter (r.reports s)).map (·, some r.entity.key) := by
  cases h : r.coverage.hasBasicTest with
  | false =>
    simp only [findings_of_untested h, map_when, Analyzer.ofEntities, map_filter_cons, reports, h]
    cases s.enableBasicTest <;> rfl
  | true =>
    simp only [findings_of_tested h, List.map_append, map_when, List.append_assoc,
      Analyzer.ofEntities, map_filter_cons, reports, h, Bool.true_and, List.filter_nil,
      List.map_nil, List.append_nil]
    rfl

theorem reports_of_mem_findings (hf : f ∈ r.findings s) :
    r.reports s f.analyzer = true ∧ f.entity = some r.entity.key := by
  have hmem := List.mem_map_of_mem (f := fun f => (f.analyzer, f.entity)) hf
  rw [map_findings] at hmem
  obtain ⟨a, ha, heq⟩ := List.mem_map.mp hmem
  obtain ⟨hanalyzer, hentity⟩ := Prod.mk.inj heq
  exact ⟨hanalyzer ▸ (List.mem_filter.mp ha).2, hentity.symm⟩

/-- The basic analyzer speaks of entities without tests, and the others of those with tests. -/
theorem analyzer_eq_basic_iff (hf : f ∈ r.findings s) :
    f.analyzer = .basic ↔ r.coverage.hasBasicTest = false := by
  have hreports := (reports_of_mem_findings hf).1
  cases ha : f.analyzer <;> simp_all [reports]

/-- An entity without tests has no finding but that. -/
theorem eq_untested_of_mem_findings (hf : f ∈ r.findings s) (hbasic : f.analyzer = .basic) :
    f = r.untested := by
  rw [findings_of_untested ((analyzer_eq_basic_iff hf).mp hbasic)] at hf
  exact eq_of_mem_when hf

/-- Findings about an entity with tests are as serious as the links of these are sure. -/
theorem severity_of_mem_findings (hf : f ∈ r.findings s) (hbasic : f.analyzer ≠ .basic) :
    f.severity = r.severity := by
  have htested : r.coverage.hasBasicTest = true := by
    rw [← Bool.not_eq_false]
    exact mt (analyzer_eq_basic_iff hf).mpr hbasic
  simp only [findings_of_tested htested, List.mem_append] at hf
  rcases hf with (((hf | hf) | hf) | hf) | hf <;> rw [eq_of_mem_when hf] <;> rfl

end EntityReview

namespace Findings

variable {r : Registry} {s : Settings} {patterns : PatternReader} {f : Finding}
  {fs : List Finding}

/-- The entry of an entity in the coverage report. -/
def entry (r : Registry) (e : Entity) : CoverageEntry :=
  ⟨e, Coverage.ofTests (r.testsFor e.key)⟩

theorem eq_noSweepers_of_mem (hf : f ∈ ofPackage r s) : f = noSweepers r := by
  rw [ofPackage] at hf
  split at hf
  · exact List.mem_singleton.mp hf
  · cases hf

/-- A finding comes from the review of an entity, or is the one about the package. -/
theorem mem_evaluate (hfs : evaluate r s patterns = .ok fs) (hf : f ∈ fs) :
    (∃ e ∈ r.entities, f ∈ (review r (entry r e)).findings s) ∨ f = noSweepers r := by
  rw [evaluate] at hfs
  cases hpattern : s.namingPattern patterns with
  | error e =>
    rw [hpattern] at hfs
    cases hfs
  | ok pattern =>
    rw [hpattern] at hfs
    cases hfs
    rcases List.mem_append.mp hf with hf | hf
    · obtain ⟨x, hx, hf⟩ := List.mem_flatMap.mp hf
      obtain ⟨e, he, rfl⟩ := List.mem_map.mp (List.mem_filter.mp hx).1
      exact .inl ⟨e, he, hf⟩
    · exact .inr (eq_noSweepers_of_mem hf)

end Findings
end ProviderCoverage

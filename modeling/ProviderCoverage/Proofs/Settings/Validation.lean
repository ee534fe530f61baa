import ProviderCoverage.Analysis.Run
import ProviderCoverage.Pattern.Syntax
import ProviderCoverage.Proofs.Registry.Built

/-! What validation promises. Settings that pass are fit for every later stage
(`Settings.stages_of_validate`): each stage reads again some of what validation has read, and
linking, which could refuse a link, never does. So building fails exactly as validation does
(`Registry.build_eq_error_iff`). -/

namespace ProviderCoverage

theorem bind_eq_ok_iff {ε α β : Type} {x : Except ε α} {f : α → Except ε β} {b : β} :
    x >>= f = .ok b ↔ ∃ a, x = .ok a ∧ f a = .ok b := by
  cases x with
  | error e => exact ⟨nofun, nofun⟩
  | ok a => exact ⟨fun h => ⟨a, rfl, h⟩, fun ⟨_, ha, h⟩ => Except.ok.inj ha ▸ h⟩

theorem discard_eq_ok_iff {ε α : Type} {x : Except ε α} {u : PUnit} :
    discard x = .ok u ↔ ∃ a, x = .ok a := by
  cases x with
  | error e => exact ⟨nofun, nofun⟩
  | ok a => exact ⟨fun _ => ⟨a, rfl⟩, fun _ => rfl⟩

namespace Settings

variable {s : Settings} {patterns : PatternReader}

/-- Settings that can be read where they have to be read, with a fit threshold, an analyzer to run
and helpers that are named in full. -/
structure Valid (s : Settings) (patterns : PatternReader) : Prop where
  threshold : s.checkThreshold = .ok ()
  analyzer : s.anyAnalyzer = true
  cacheLifetime : ∃ lifetime, s.cacheLifetime = .ok lifetime
  namingPattern : ∃ pattern, s.namingPattern patterns = .ok pattern
  fileFilter : ∃ filter, FileFilter.ofSettings s = .ok filter
  prefixConventions : ∃ conventions, s.prefixConventions = .ok conventions
  suffixConventions : ∃ conventions, s.suffixConventions = .ok conventions
  nestedSchemaGlobs : ∃ globs, s.nestedSchemaGlobs = .ok globs
  helpers : checkHelpers s.customTestHelpers = .ok ()

theorem validate_eq_ok_iff : s.validate patterns = .ok () ↔ s.Valid patterns := by
  rw [validate, bind_eq_ok_iff]
  cases hanalyzer : s.anyAnalyzer with
  | false =>
    constructor
    · rintro ⟨_, -, h⟩
      cases h
    · intro h
      rw [h.analyzer] at hanalyzer
      cases hanalyzer
  | true =>
    simp only [Bool.not_true, Bool.false_eq_true, if_false, bind_eq_ok_iff, discard_eq_ok_iff]
    constructor
    · rintro ⟨_, hthreshold, _, hlifetime, _, hpattern, _, hfilter, _, hprefixes, _, hsuffixes, _,
        hglobs, hhelpers⟩
      exact ⟨hthreshold, hanalyzer, hlifetime, hpattern, hfilter, hprefixes, hsuffixes, hglobs,
        hhelpers⟩
    · intro h
      exact ⟨(), h.threshold, (), h.cacheLifetime, (), h.namingPattern, (), h.fileFilter, (),
        h.prefixConventions, (), h.suffixConventions, (), h.nestedSchemaGlobs, h.helpers⟩

namespace Valid

theorem exists_extractor (h : s.Valid patterns) : ∃ x, Extractor.ofSettings s = .ok x := by
  obtain ⟨globs, hglobs⟩ := h.nestedSchemaGlobs
  rw [Extractor.ofSettings, hglobs]
  exact ⟨_, rfl⟩

theorem exists_linker (h : s.Valid patterns) (r : Registry) (rounding : Rounding) :
    ∃ l, Linker.ofRegistry r s rounding = .ok l := by
  obtain ⟨filter, hfilter⟩ := h.fileFilter
  obtain ⟨prefixes, hprefixes⟩ := h.prefixConventions
  obtain ⟨suffixes, hsuffixes⟩ := h.suffixConventions
  rw [Linker.ofRegistry, hfilter, hprefixes, hsuffixes]
  exact ⟨_, rfl⟩

theorem exists_findings (h : s.Valid patterns) (r : Registry) :
    ∃ fs, Findings.evaluate r s patterns = .ok fs := by
  obtain ⟨pattern, hpattern⟩ := h.namingPattern
  rw [Findings.evaluate, hpattern]
  exact ⟨_, rfl⟩

theorem exists_cache (h : s.Valid patterns) {α : Type} :
    ∃ cache : SessionCache α, SessionCache.ofSettings s = .ok cache := by
  obtain ⟨lifetime, hlifetime⟩ := h.cacheLifetime
  rw [SessionCache.ofSettings, hlifetime]
  exact ⟨_, rfl⟩

theorem exists_build (h : s.Valid patterns) (rounding : Rounding) (files : List Go.SourceFile) :
    ∃ r, Registry.build s patterns rounding files = .ok r := by
  obtain ⟨x, hx⟩ := h.exists_extractor
  obtain ⟨l, hl⟩ := h.exists_linker (Registry.unlinked x s files) rounding
  obtain ⟨r, n, hok, -⟩ := Linker.linkAll_ok (r := Registry.unlinked x s files) fun key hkey =>
    (Linker.isSnapshot_of_ofRegistry hl).keys ▸ hkey
  refine ⟨r, ?_⟩
  rw [Registry.build, Registry.liftSettings_eq_ok_iff.mpr ⟨validate_eq_ok_iff.mpr h, hx⟩]
  simp only [hl, hok]

end Valid
end Settings

/-- Building adds no failure of its own to those of validation. -/
theorem Registry.build_eq_error_iff {s : Settings} {patterns : PatternReader} {rounding : Rounding}
    {files : List Go.SourceFile} {e : AnalysisError} :
    build s patterns rounding files = .error e ↔
      ∃ e', s.validate patterns = .error e' ∧ e = .settings e' := by
  cases hs : s.validate patterns with
  | ok u =>
    obtain ⟨r, hr⟩ := (Settings.validate_eq_ok_iff.mp hs).exists_build rounding files
    simp [hr]
  | error e' =>
    have hbuild : build s patterns rounding files = .error (.settings e') := by
      rw [build, hs]
      rfl
    simp [hbuild, eq_comm]

namespace Settings

/-- No later stage has an error with the settings. -/
structure FitsStages (s : Settings) (patterns : PatternReader) (rounding : Rounding) : Prop where
  fileFilter : ∃ filter, FileFilter.ofSettings s = .ok filter
  extractor : ∃ x, Extractor.ofSettings s = .ok x
  linker : ∀ r, ∃ l, Linker.ofRegistry r s rounding = .ok l
  /-- Nor is a link refused, whatever the files. -/
  registry : ∀ files, ∃ r fs, Registry.build s patterns rounding files = .ok r ∧
    Findings.evaluate r s patterns = .ok fs
  cache : ∀ α, ∃ cache : SessionCache α, SessionCache.ofSettings s = .ok cache

theorem stages_of_validate {s : Settings} {patterns : PatternReader}
    (h : s.validate patterns = .ok ()) (rounding : Rounding) : s.FitsStages patterns rounding := by
  have hvalid : s.Valid patterns := validate_eq_ok_iff.mp h
  refine ⟨hvalid.fileFilter, hvalid.exists_extractor, fun r => hvalid.exists_linker r rounding,
    fun files => ?_, fun α => hvalid.exists_cache⟩
  obtain ⟨r, hr⟩ := hvalid.exists_build rounding files
  obtain ⟨fs, hfs⟩ := hvalid.exists_findings r
  exact ⟨r, fs, hr, hfs⟩

/-- Settings with something to read in every place. -/
def elaborate : Settings :=
  { Settings.default with
    testFilePattern := "*_test?.go"
    excludePatterns := ["zz_*", "*.gen.go"]
    enableFuzzyMatching := true
    fuzzyMatchThreshold := .finite (mkRat 1 2)
    customTestHelpers := ["acctest.VcrTest"]
    resourceNamingPattern := "^[a-z]+(_[a-z]+)*$"
    cacheTtl := "1h30m" }

theorem elaborate_fitsStages : elaborate.validate Pattern.finder? = .ok () ∧
    elaborate.FitsStages Pattern.finder? Binary64.nearest := by
  have h : elaborate.validate Pattern.finder? = .ok () := by decide +kernel
  exact ⟨h, stages_of_validate h Binary64.nearest⟩

end Settings
end ProviderCoverage

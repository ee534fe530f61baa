import ProviderCoverage.Pattern.Syntax
import ProviderCoverage.Proofs.Registry.Built
import ProviderCoverage.Proofs.Settings.Validation

/-! The registry of files in memory does not depend on the order in which they are given
(`Registry.ofTexts_perm_holds`). Loading puts the files in the order of their paths, and there is
one such order if no two paths are equal. All that follows goes by that order: which of several
declarations of an entity counts, the ids of the tests, and the local helpers by which tests are
recognised. -/

namespace ProviderCoverage

open Go

namespace Sources

variable {filter : FileFilter} {texts texts' : List (String × String)}
  {files files' : List SourceFile} {path source : String} {f : SourceFile}

theorem admit?_eq_some_iff : admit? filter path source = some f ↔
    (filter.isTestFile path ∨ ¬ filter.isExcluded path) ∧
      f = .read path source (filter.isTestFile path) := by
  rw [admit?]
  cases filter.isTestFile path <;> cases filter.isExcluded path <;> simp [eq_comm]

/-- The files loaded from some texts: the test files and those that are not left out, each once, in
the order of their paths. -/
structure Loads (filter : FileFilter) (texts : List (String × String)) (files : List SourceFile) :
    Prop where
  mem_iff : ∀ f, f ∈ files ↔ ∃ source, (f.path, source) ∈ texts ∧
    (filter.isTestFile f.path ∨ ¬ filter.isExcluded f.path) ∧
      f = .read f.path source (filter.isTestFile f.path)
  ordered : files.Pairwise fun f g => f.path < g.path

theorem mem_ofTexts : f ∈ (ofTexts filter texts).files ↔ ∃ source, (f.path, source) ∈ texts ∧
    (filter.isTestFile f.path ∨ ¬ filter.isExcluded f.path) ∧
      f = .read f.path source (filter.isTestFile f.path) := by
  rw [ofTexts, sorted, (List.mergeSort_perm _ _).mem_iff, List.mem_filterMap]
  constructor
  · rintro ⟨⟨path, source⟩, hmem, hf⟩
    obtain ⟨hadmitted, rfl⟩ := admit?_eq_some_iff.mp hf
    exact ⟨source, hmem, hadmitted, rfl⟩
  · rintro ⟨source, hmem, hadmitted, hf⟩
    exact ⟨(f.path, source), hmem, admit?_eq_some_iff.mpr ⟨hadmitted, hf⟩⟩

theorem ordered_ofTexts (hpaths : (texts.map (·.1)).Nodup) :
    (ofTexts filter texts).files.Pairwise fun f g => f.path < g.path := by
  have hle : (ofTexts filter texts).files.Pairwise fun f g => decide (f.path ≤ g.path) = true :=
    List.pairwise_mergeSort (fun _ _ _ => by simpa using String.le_trans)
      (fun f g => by simpa using String.le_total f.path g.path) _
  have hne : (ofTexts filter texts).files.Pairwise fun f g => f.path ≠ g.path := by
    refine ((List.mergeSort_perm _ _).pairwise_iff Ne.symm).mpr (List.pairwise_filterMap.mpr ?_)
    refine (List.pairwise_map.mp hpaths).imp fun hne f hf g hg => ?_
    rw [(admit?_eq_some_iff.mp hf).2, (admit?_eq_some_iff.mp hg).2]
    exact hne
  exact hle.imp₂ (fun f g hle hne => Std.lt_of_le_of_ne (of_decide_eq_true hle) hne) hne

theorem loads_ofTexts (hpaths : (texts.map (·.1)).Nodup) :
    Loads filter texts (ofTexts filter texts).files :=
  ⟨fun _ => mem_ofTexts, ordered_ofTexts hpaths⟩

theorem Loads.nodup (h : Loads filter texts files) : files.Nodup := by
  refine h.ordered.imp ?_
  rintro f g hlt rfl
  exact String.lt_irrefl _ hlt

/-- There is one way to load texts. -/
theorem Loads.eq (h : Loads filter texts files) (h' : Loads filter texts files') :
    files = files' := by
  have hperm : files.Perm files' :=
    (List.perm_ext_iff_of_nodup h.nodup h'.nodup).mpr fun f => by rw [h.mem_iff, h'.mem_iff]
  -- paths are compared strictly, so no two files come before each other
  refine hperm.eq_of_pairwise (fun f g _ _ hfg hgf => ?_) h.ordered h'.ordered
  exact absurd (String.lt_trans hfg hgf) (String.lt_irrefl _)

theorem Loads.of_perm (h : Loads filter texts files) (hperm : texts'.Perm texts) :
    Loads filter texts' files :=
  ⟨fun f => by simp only [h.mem_iff, hperm.mem_iff], h.ordered⟩

theorem ofTexts_of_perm (filter : FileFilter) (hpaths : (texts.map (·.1)).Nodup)
    (hperm : texts'.Perm texts) : ofTexts filter texts' = ofTexts filter texts := by
  have hpaths' : (texts'.map (·.1)).Nodup := (hperm.map _).nodup_iff.mpr hpaths
  have hfiles : (ofTexts filter texts').files = (ofTexts filter texts).files :=
    (loads_ofTexts hpaths').eq ((loads_ofTexts hpaths).of_perm hperm)
  exact congrArg (Sources.mk · []) hfiles

end Sources

namespace Registry

variable {r : Registry} {s : Settings} {patterns : PatternReader} {rounding : Rounding}
  {files : List SourceFile} {e : Entity}

/-! ### What files register -/

/-- The first of several entities of a key is registered, unless the key is known before. -/
theorem mem_withEntities {es : List Entity} : e ∈ (r.withEntities es).entities ↔
    e ∈ r.entities ∨ e.key ∉ r.keys ∧ es.find? (·.key = e.key) = some e := by
  induction es generalizing r with
  | nil => simp [withEntities]
  | cons d es ih =>
    have hcons : r.withEntities (d :: es) = (r.registerEntity d).1.withEntities es := rfl
    rw [hcons, ih, registerEntity]
    by_cases hd : d.key ∈ r.keys
    · rw [if_pos (contains_iff.mpr hd)]
      refine or_congr_right (and_congr_right fun he => ?_)
      have hne : d.key ≠ e.key := fun heq => he (heq ▸ hd)
      rw [List.find?_cons_of_neg (by simpa using hne)]
    · rw [if_neg (mt contains_iff.mp hd)]
      have hkeys : e.key ∈ (r.addEntity d).keys ↔ e.key = d.key ∨ e.key ∈ r.keys :=
        (r.keys_addEntity_perm d).mem_iff.trans List.mem_cons
      change e ∈ d.insertSorted r.entities ∨ e.key ∉ (r.addEntity d).keys ∧ _ ↔ _
      rw [Entity.mem_insertSorted, hkeys]
      by_cases hkey : e.key = d.key
      · rw [List.find?_cons_of_pos (by simpa using hkey.symm)]
        simp [hkey, hd, eq_comm, or_comm]
      · rw [List.find?_cons_of_neg (by simpa using Ne.symm hkey)]
        have hne : e ≠ d := fun heq => hkey (heq ▸ rfl)
        simp [hkey, hne]

/-- Registering entities changes the entities only. -/
theorem exists_withEntities_eq (r : Registry) (es : List Entity) :
    ∃ entities, r.withEntities es = { r with entities } := by
  induction es generalizing r with
  | nil => exact ⟨r.entities, rfl⟩
  | cons e es ih =>
    have hfirst : ∃ entities, (r.registerEntity e).1 = { r with entities } := by
      by_cases he : r.contains e.key
      · exact ⟨r.entities, by simp [registerEntity, he]⟩
      · exact ⟨e.insertSorted r.entities, by simp [registerEntity, he]⟩
    obtain ⟨entities, hentities⟩ := ih (r.registerEntity e).1
    obtain ⟨_, hfirst⟩ := hfirst
    exact ⟨entities, hentities.trans (by rw [hfirst])⟩

theorem withTests_eq (r : Registry) (ts : List AcceptanceTest) :
    r.withTests ts = { r with tests := r.tests ++ ts } := by
  induction ts generalizing r with
  | nil => simp [withTests]
  | cons t ts ih =>
    refine (ih _).trans ?_
    simp [registerTest]

theorem withSweepers_eq (r : Registry) (files : List SourceFile) :
    r.withSweepers files = { r with
      sweeperFiles := ((files.filter Harness.registersSweepers).map (·.path)).foldl
        (fun set file => NameSet.insert file set) r.sweeperFiles } := by
  rw [withSweepers]
  induction files.filter Harness.registersSweepers generalizing r with
  | nil => rfl
  | cons f files ih => exact ih _

/-- The registry before linking, part by part. -/
theorem unlinked_eq (x : Extractor) (s : Settings) (files : List SourceFile) :
    unlinked x s files =
      { entities := (empty.withEntities ((files.filter (!·.isTest)).flatMap x.extract)).entities
        tests := (files.filter (·.isTest)).flatMap
          (TestReader.tests ⟨s, Harness.localHelpers (files.filter (·.isTest))⟩)
        associations := []
        sweeperFiles :=
          NameSet.ofList ((files.filter Harness.registersSweepers).map (·.path)) } := by
  obtain ⟨entities, hentities⟩ :=
    exists_withEntities_eq empty ((files.filter (!·.isTest)).flatMap x.extract)
  rw [unlinked, withSweepers_eq, withTests_eq, hentities]
  simp [empty, NameSet.ofList]

theorem sweeperFiles_unlinked (x : Extractor) (s : Settings)
    (hfiles : files.Pairwise fun f g => f.path < g.path) :
    (unlinked x s files).sweeperFiles = (files.filter Harness.registersSweepers).map (·.path) := by
  rw [unlinked_eq]
  exact (NameSet.pairwise_ofList _).eq_of_mem_iff
    (List.pairwise_map.mpr (hfiles.filter _)) fun x => NameSet.mem_ofList

/-- The first file of some is that with the smallest path. -/
theorem findSome?_eq_some_iff_of_ordered {α : Type} {g : SourceFile → Option α} {a : α}
    (hfiles : files.Pairwise fun f g => f.path < g.path) : files.findSome? g = some a ↔
      ∃ f ∈ files, g f = some a ∧ ∀ f' ∈ files, (g f').isSome → f.path ≤ f'.path := by
  rw [List.findSome?_eq_some_iff]
  constructor
  · rintro ⟨before, f, after, rfl, hf, hbefore⟩
    refine ⟨f, by simp, hf, fun f' hf' hsome => ?_⟩
    rcases List.mem_append.mp hf' with hmem | hmem
    · simp [hbefore f' hmem] at hsome
    · rcases List.mem_cons.mp hmem with rfl | hmem
      · exact String.le_refl _
      · have hlt := (List.pairwise_cons.mp (List.pairwise_append.mp hfiles).2.1).1 f' hmem
        exact Std.le_of_lt hlt
  · rintro ⟨f, hmem, hf, hleast⟩
    -- no file before that one can be a match, as it would have a smaller path
    obtain ⟨before, after, rfl⟩ := List.append_of_mem hmem
    refine ⟨before, f, after, rfl, hf, fun f' hf' => ?_⟩
    have hlt := (List.pairwise_append.mp hfiles).2.2 f' hf' f (List.mem_cons_self ..)
    rw [← Option.not_isSome_iff_eq_none]
    intro hsome
    exact String.not_lt.mpr (hleast f' (List.mem_append_left _ hf') hsome) hlt

theorem mem_entities_unlinked (x : Extractor) (s : Settings)
    (hfiles : files.Pairwise fun f g => f.path < g.path) :
    e ∈ (unlinked x s files).entities ↔ ∃ f ∈ files.filter (!·.isTest),
      (x.extract f).find? (·.key = e.key) = some e ∧
        ∀ g ∈ files.filter (!·.isTest), e.key ∈ (x.extract g).map (·.key) → f.path ≤ g.path := by
  have hdeclares : ∀ g, ((x.extract g).find? (·.key = e.key)).isSome ↔
      e.key ∈ (x.extract g).map (·.key) := by
    intro g
    simp [List.find?_isSome]
  rw [unlinked_eq, mem_withEntities, List.find?_flatMap,
    findSome?_eq_some_iff_of_ordered (hfiles.filter _)]
  simp [empty, keys, hdeclares]

/-! ### What texts make -/

/-- What a registry holds of files in the order of their paths. -/
structure Holds (r : Registry) (s : Settings) (rounding : Rounding) (x : Extractor)
    (sources : Sources) : Prop where
  /-- The entity of a key is the first in the file with the smallest path that declares it. -/
  mem_entities : ∀ e, e ∈ r.entities ↔ ∃ f ∈ sources.sourceFiles,
    (x.extract f).find? (·.key = e.key) = some e ∧
      ∀ g ∈ sources.sourceFiles, e.key ∈ (x.extract g).map (·.key) → f.path ≤ g.path
  /-- The tests are in the order of their files, each with the link that a linker of this very
  registry gives it. -/
  tests : ∃ l, Linker.ofRegistry r s rounding = .ok l ∧
    r.tests = (sources.testFiles.flatMap
      (TestReader.tests ⟨s, Harness.localHelpers sources.testFiles⟩)).map l.linked
  sweeperFiles : r.sweeperFiles = (sources.files.filter Harness.registersSweepers).map (·.path)

theorem exists_holds_of_build {sources : Sources}
    (hfiles : sources.files.Pairwise fun f g => f.path < g.path)
    (h : build s patterns rounding sources.files = .ok r) :
    ∃ x, Extractor.ofSettings s = .ok x ∧ r.Holds s rounding x sources := by
  obtain ⟨x, l, hx, hl, hentities, htests, hsweepers⟩ := linked_of_build h
  refine ⟨x, hx, fun e => ?_, ⟨l, ?_, ?_⟩, ?_⟩
  · rw [hentities]
    exact mem_entities_unlinked x s hfiles
  · exact (Linker.ofRegistry_of_entities hentities).trans hl
  · rw [htests, unlinked_eq]
    rfl
  · rw [hsweepers, sweeperFiles_unlinked x s hfiles]

theorem exists_of_ofTexts {texts : List (String × String)}
    (h : ofTexts s patterns rounding texts = .ok r) :
    ∃ filter, FileFilter.ofSettings s = .ok filter ∧
      build s patterns rounding (Sources.ofTexts filter texts).files = .ok r := by
  rw [ofTexts] at h
  split at h
  · cases h
  · next filter hfilter => exact ⟨filter, hfilter, h⟩

/-- If some texts can be analysed with the settings, then all texts with different paths can, and in
every order they make one registry. -/
theorem ofTexts_perm_holds {texts₀ texts : List (String × String)} {r₀ : Registry}
    (h : ofTexts s patterns rounding texts₀ = .ok r₀) (hpaths : (texts.map (·.1)).Nodup) :
    ∃ filter x r, FileFilter.ofSettings s = .ok filter ∧ Extractor.ofSettings s = .ok x ∧
      Sources.Loads filter texts (Sources.ofTexts filter texts).files ∧
      r.Holds s rounding x (Sources.ofTexts filter texts) ∧
      ∀ texts' : List (String × String), texts'.Perm texts →
        Sources.ofTexts filter texts' = Sources.ofTexts filter texts ∧
        ofTexts s patterns rounding texts' = .ok r := by
  obtain ⟨filter, hfilter, hbuild₀⟩ := exists_of_ofTexts h
  have hvalid : s.Valid patterns := Settings.validate_eq_ok_iff.mp (validate_of_build hbuild₀)
  obtain ⟨r, hbuild⟩ := hvalid.exists_build rounding (Sources.ofTexts filter texts).files
  have hloads : Sources.Loads filter texts (Sources.ofTexts filter texts).files :=
    Sources.loads_ofTexts hpaths
  obtain ⟨x, hx, hholds⟩ := exists_holds_of_build hloads.ordered hbuild
  refine ⟨filter, x, r, hfilter, hx, hloads, hholds, fun texts' hperm => ?_⟩
  have hsources := Sources.ofTexts_of_perm filter hpaths hperm
  refine ⟨hsources, ?_⟩
  simp only [ofTexts, hfilter, hsources, hbuild]

def widgetText : String :=
  "package p\nfunc (r *WidgetResource) Schema() {}\n"

/-- Two files that declare the same resource, the later path first. -/
def widgetTwice : List (String × String) :=
  [("b.go", widgetText), ("a.go", widgetText)]

/-- In either order, the resource is that of the file with the smaller path. -/
theorem widgetTwice_registered : ∃ r,
    ofTexts .default Pattern.finder? Binary64.nearest widgetTwice = .ok r ∧
    ofTexts .default Pattern.finder? Binary64.nearest widgetTwice.reverse = .ok r ∧
    ∃ e ∈ r.entities, e.key = ⟨.resource, "widget"⟩ ∧ e.location.file = "a.go" := by
  have hsettings :
      (ofTexts .default Pattern.finder? Binary64.nearest []).toOption.isSome = true := by
    decide +kernel
  have hkept : (FileFilter.ofSettings .default).toOption.all fun filter =>
      !filter.isTestFile "a.go" && !filter.isExcluded "a.go" := by
    decide +kernel
  have hextracted : (Extractor.ofSettings .default).toOption.all fun x =>
      ((x.extract (.read "a.go" widgetText false)).find? (·.key = ⟨.resource, "widget"⟩)).any
        (·.location.file = "a.go") := by
    decide +kernel
  cases h₀ : ofTexts .default Pattern.finder? Binary64.nearest [] with
  | error e => simp [h₀, Except.toOption] at hsettings
  | ok r₀ =>
    have hpaths : (widgetTwice.map (·.1)).Nodup := by decide
    obtain ⟨filter, x, r, hfilter, hx, hloads, hholds, hperm⟩ := ofTexts_perm_holds h₀ hpaths
    simp only [hfilter, hx, Except.toOption, Option.all_some, Bool.and_eq_true,
      Bool.not_eq_true', Option.any_eq_true, decide_eq_true_eq] at hkept hextracted
    obtain ⟨e, hfind, hfile⟩ := hextracted
    have hkey : e.key = ⟨.resource, "widget"⟩ := by simpa using List.find?_some hfind
    refine ⟨r, (hperm _ (.refl _)).2, (hperm _ (List.reverse_perm _)).2, e, ?_, hkey, hfile⟩
    refine (hholds.mem_entities e).mpr ⟨_, ?_, hkey ▸ hfind, fun g hg _ => ?_⟩
    · refine List.mem_filter.mpr ⟨(hloads.mem_iff _).mpr ⟨widgetText, ?_, .inr ?_, ?_⟩, rfl⟩
      · exact List.mem_cons_of_mem _ (List.mem_cons_self ..)
      · exact ne_true_of_eq_false hkept.2
      · exact congrArg (SourceFile.read _ _) hkept.1.symm
    · obtain ⟨source, hmem, -⟩ := (hloads.mem_iff g).mp (List.mem_filter.mp hg).1
      have hpath : g.path ∈ widgetTwice.map (·.1) := List.mem_map.mpr ⟨_, hmem, rfl⟩
      have hleast : ∀ path ∈ widgetTwice.map (·.1), "a.go" ≤ path := by decide
      exact hleast _ hpath

end Registry
end ProviderCoverage

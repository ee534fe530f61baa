import ProviderCoverage.Proofs.Linker.Snapshot
import ProviderCoverage.Proofs.Settings.TestFileStems

/-! Test files that are named after an entity: the kind, the name and `_test.go`. With the settings
that no one has changed, the linker finds the entity by such a name, whatever else is registered and
whatever markers of conventions the name contains itself. The one exception are names with an ending
that the settings drop from all test files (`conventional_file_matched_iff`). -/

namespace ProviderCoverage

namespace FileFilter

/-- The stem of a test file whose name fits the usual pattern. -/
theorem testFileStem?_of_default {f : FileFilter} (hf : ofSettings .default = .ok f)
    {path stem : String} (hname : fileName path = stem ++ "_test.go") (hne : stem ≠ "") :
    f.testFileStem? path = some stem.toList := by
  have hends : HasEnds Settings.default.testFilePattern.toList [] "_test.go".toList :=
    ⟨⟨"_test.go".toList, by decide⟩, by decide, ⟨[], by decide⟩, by decide⟩
  obtain ⟨globs, rfl⟩ : ∃ globs, f = ofPlainPattern .default globs := by
    rw [ofSettings_plain (List.all_eq_true.mp (by decide)) (by decide)] at hf
    cases hglobs : readGlobs "exclude-patterns" Settings.default.excludePatterns with
    | error e =>
      rw [hglobs] at hf
      cases hf
    | ok globs =>
      rw [hglobs] at hf
      exact ⟨globs, (Except.ok.inj hf).symm⟩
  rw [testFileStem?_eq_some_iff hends, isTestFile_ofPlainPattern_iff, hname, String.toList_append]
  exact ⟨.wildcard stem.toList (.self (by decide)), fun hnil =>
    hne (String.toList_eq_nil_iff.mp hnil), rfl⟩

end FileFilter

namespace Linker

variable {l : Linker} {r : Registry} {rounding : Rounding} {key : EntityKey} {path : String}
  {name stem : List Char} {hint : Option EntityKind}

/-- What the name of a test file begins with if it is about an entity of this kind. -/
def fileOpening : EntityKind → String
  | .resource => "resource_"
  | .dataSource => "data_source_"
  | .action => "action_"

def conventionalStem (key : EntityKey) : String :=
  fileOpening key.kind ++ key.name

theorem conventionalStem_ne_empty : conventionalStem key ≠ "" := by
  rw [conventionalStem]
  cases key.kind <;> simp [fileOpening]

/-- The test file that is named after an entity. -/
def conventionalFile (key : EntityKey) : String :=
  conventionalStem key ++ "_test.go"

theorem fileName_conventionalFile (hslash : '/' ∉ key.name.toList)
    (hbackslash : '\\' ∉ key.name.toList) :
    fileName (conventionalFile key) = conventionalFile key := by
  have hfree : ∀ c, c ∉ key.name.toList → c ∉ (fileOpening key.kind).toList →
      c ∉ "_test.go".toList → c ∉ (conventionalFile key).toList := by
    intro c hname hopening hending
    simp only [conventionalFile, conventionalStem, String.toList_append, List.mem_append, not_or]
    exact ⟨⟨hopening, hname⟩, hending⟩
  refine fileName_eq_self (hfree _ hslash ?_ (by decide)) (hfree _ hbackslash ?_ (by decide))
  all_goals cases key.kind <;> decide

/-- Something at the end of the name, or all of it, is dropped from the names of test files. -/
def HasDroppedEnding (name : String) : Prop :=
  ∃ ending ∈ Settings.default.testFileSuffixStrip, ending.toList <:+ '_' :: name.toList

/-! ### The stem -/

/-- Openings end in an underscore, so the endings that begin with one are endings of the name. -/
theorem suffix_conventional_iff {ending : String}
    (hending : ending ∈ Settings.default.testFileSuffixStrip) (key : EntityKey) :
    ending.toList <:+ (conventionalStem key).toList ↔
      ending.toList <:+ '_' :: key.name.toList := by
  have hopening : ∃ word, (fileOpening key.kind).toList = word ++ ['_'] := by
    cases key.kind with
    | resource => exact ⟨"resource".toList, by decide⟩
    | dataSource => exact ⟨"data_source".toList, by decide⟩
    | action => exact ⟨"action".toList, by decide⟩
  have hword : ∀ ending ∈ Settings.default.testFileSuffixStrip,
      ∃ word, ending.toList = '_' :: word ∧ '_' ∉ word := by
    intro ending h
    rw [show Settings.default.testFileSuffixStrip = ["_generated", "_gen"] from rfl] at h
    simp only [List.mem_cons, List.not_mem_nil, or_false] at h
    rcases h with rfl | rfl
    · exact ⟨"generated".toList, by decide⟩
    · exact ⟨"gen".toList, by decide⟩
  obtain ⟨opening, hopening⟩ := hopening
  obtain ⟨word, hword, hsep⟩ := hword ending hending
  rw [conventionalStem, String.toList_append, hopening, hword, List.append_assoc,
    List.singleton_append]
  constructor
  · exact Text.suffix_of_suffix_append_cons hsep
  · exact fun h => h.trans (List.suffix_append ..)

theorem stem?_conventionalFile (hl : ofRegistry r .default rounding = .ok l)
    (hpath : fileName path = conventionalFile key) :
    l.stem? path =
      some ((Settings.default.testFileSuffixStrip.findSome? fun ending =>
        ending.toList.isSuffixOf? (conventionalStem key).toList).getD
          (conventionalStem key).toList) := by
  have hconfigured := isConfigured_of_ofRegistry hl
  rw [stem?, FileFilter.testFileStem?_of_default hconfigured.files hpath conventionalStem_ne_empty,
    hconfigured.fileSuffixStrip, Option.map_some]

/-! ### The conventions -/

theorem filePrefixes_of_default (hl : ofRegistry r .default rounding = .ok l) :
    l.filePrefixes = [⟨"resource_", false⟩, ⟨"data_source_", true⟩, ⟨"ephemeral_", false⟩,
      ⟨"action_", false⟩, ⟨"iam_", false⟩] :=
  Except.ok.inj ((isConfigured_of_ofRegistry hl).filePrefixes.symm.trans rfl)

theorem fileSuffixes_of_default (hl : ofRegistry r .default rounding = .ok l) :
    l.fileSuffixes = [⟨"_resource", false⟩, ⟨"_data_source", true⟩, ⟨"_datasource", true⟩,
      ⟨"_action", false⟩] :=
  Except.ok.inj ((isConfigured_of_ofRegistry hl).fileSuffixes.symm.trans rfl)

/-- No two openings are the beginning of the same text. -/
theorem stemNames_conventional (hl : ofRegistry r .default rounding = .ok l) (key : EntityKey) :
    ∃ more, l.stemNames (conventionalStem key).toList =
      (key.name.toList, some key.kind) :: more := by
  rw [stemNames, filePrefixes_of_default hl, conventionalStem, String.toList_append]
  obtain ⟨kind, name⟩ := key
  have hown : ∀ opening : String,
      opening.toList.isPrefixOf? (opening.toList ++ name.toList) = some name.toList :=
    fun _ => List.isPrefixOf?_eq_some_iff_append_eq.mpr rfl
  cases kind with
  | resource =>
    dsimp only [fileOpening]
    rw [List.filterMap_cons_some (by rw [hown]; rfl)]
    exact ⟨_, rfl⟩
  | dataSource =>
    dsimp only [fileOpening]
    rw [List.filterMap_cons_none rfl, List.filterMap_cons_some (by rw [hown]; rfl)]
    exact ⟨_, rfl⟩
  | action =>
    dsimp only [fileOpening]
    rw [List.filterMap_cons_none rfl, List.filterMap_cons_none rfl, List.filterMap_cons_none rfl,
      List.filterMap_cons_some (by rw [hown]; rfl)]
    exact ⟨_, rfl⟩

/-- Every name that a stem can stand for is the stem without a marker. -/
theorem exists_marker_of_mem_stemNames (h : (name, hint) ∈ l.stemNames stem) :
    ∃ marker ∈ "" :: (l.filePrefixes ++ l.fileSuffixes).map (·.marker),
      stem.length = name.length + marker.toList.length := by
  rw [stemNames, List.mem_append, List.mem_append, List.mem_filterMap, List.mem_filterMap] at h
  rcases h with (⟨c, hc, hname⟩ | ⟨c, hc, hname⟩) | h
  · obtain ⟨rest, hrest, heq⟩ := Option.map_eq_some_iff.mp hname
    cases heq
    rw [← List.isPrefixOf?_eq_some_iff_append_eq.mp hrest]
    refine ⟨c.marker, ?_, by rw [List.length_append, Nat.add_comm]⟩
    exact List.mem_cons_of_mem _ (List.mem_map_of_mem (List.mem_append_left _ hc))
  · obtain ⟨rest, hrest, heq⟩ := Option.map_eq_some_iff.mp hname
    cases heq
    rw [← List.isSuffixOf?_eq_some_iff_append_eq.mp hrest]
    refine ⟨c.marker, ?_, List.length_append⟩
    exact List.mem_cons_of_mem _ (List.mem_map_of_mem (List.mem_append_right _ hc))
  · cases List.mem_singleton.mp h
    exact ⟨"", List.mem_cons_self .., rfl⟩

/-- Without an ending, the name itself is not among the names that are left to look up: no marker
makes up for the difference in length. -/
theorem length_ne_of_mem_stemNames (hl : ofRegistry r .default rounding = .ok l) {ending : String}
    (hending : ending ∈ Settings.default.testFileSuffixStrip)
    (hstem : stem ++ ending.toList = (conventionalStem key).toList)
    (h : (name, hint) ∈ l.stemNames stem) : name.length ≠ key.name.toList.length := by
  obtain ⟨marker, hmarker, hlength⟩ := exists_marker_of_mem_stemNames h
  rw [filePrefixes_of_default hl, fileSuffixes_of_default hl] at hmarker
  have hlengths : ∀ kind ∈ EntityKind.all, ∀ ending ∈ Settings.default.testFileSuffixStrip,
      ∀ marker ∈ ["", "resource_", "data_source_", "ephemeral_", "action_", "iam_", "_resource",
        "_data_source", "_datasource", "_action"],
      (fileOpening kind).toList.length ≠ marker.toList.length + ending.toList.length := by
    decide
  have hne := hlengths key.kind (EntityKind.mem_all _) ending hending marker hmarker
  have htotal := congrArg List.length hstem
  rw [List.length_append, conventionalStem, String.toList_append, List.length_append] at htotal
  omega

/-- Whatever folder it stands in, a file that is named after an entity leads to it, unless the name
has an ending that is dropped. -/
theorem matchByFile_conventional_iff (hl : ofRegistry r .default rounding = .ok l)
    (hmem : key ∈ r.keys) (hne : key.name ≠ "") (hpath : fileName path = conventionalFile key) :
    l.matchByFile path = some key ↔ ¬ HasDroppedEnding key.name := by
  rw [matchByFile, stem?_conventionalFile hl hpath, Option.bind_some]
  cases hdropped : Settings.default.testFileSuffixStrip.findSome? fun ending =>
      ending.toList.isSuffixOf? (conventionalStem key).toList with
  | none =>
    have hkept : ¬ HasDroppedEnding key.name := by
      rintro ⟨ending, hending, h⟩
      obtain ⟨stem, hstem⟩ := (suffix_conventional_iff hending key).mpr h
      have hnone := List.findSome?_eq_none_iff.mp hdropped ending hending
      rw [List.isSuffixOf?_eq_some_iff_append_eq.mpr hstem] at hnone
      cases hnone
    refine iff_of_true ?_ hkept
    -- The opening says the kind, so the entity itself is the first that is looked up.
    obtain ⟨more, hnames⟩ := stemNames_conventional hl key
    have hresolve : l.resolve key.name.toList (some key.kind) = some key := by
      have hkey : (⟨key.kind, String.ofList key.name.toList⟩ : EntityKey) = key := by
        rw [String.ofList_toList]
      rw [resolve_of_mem (by rwa [hkey, (isSnapshot_of_ofRegistry hl).keys]), hkey]
    rw [Option.getD_none, hnames, List.filter_cons_of_pos (by simpa using hne)]
    simp only [List.findSome?_cons, hresolve]
  | some stem =>
    obtain ⟨ending, hending, hstem⟩ := List.exists_of_findSome?_eq_some hdropped
    have hstem := List.isSuffixOf?_eq_some_iff_append_eq.mp hstem
    have hlost : HasDroppedEnding key.name :=
      ⟨ending, hending, (suffix_conventional_iff hending key).mp ⟨stem, hstem⟩⟩
    refine iff_of_false ?_ (not_not_intro hlost)
    rw [Option.getD_some]
    -- Something else may be found, as what is left of the name may be that of another entity.
    intro hfound
    obtain ⟨⟨name, hint⟩, hname, hresolve⟩ := List.exists_of_findSome?_eq_some hfound
    refine length_ne_of_mem_stemNames hl hending hstem (List.mem_filter.mp hname).1 ?_
    rw [name_of_resolve hresolve, String.toList_ofList]

/-- An entity is found by the test file that is named after it, unless its name has an ending that
is dropped. -/
theorem conventional_file_matched_iff (hl : ofRegistry r .default rounding = .ok l)
    (hmem : key ∈ r.keys) (hne : key.name ≠ "") (hslash : '/' ∉ key.name.toList)
    (hbackslash : '\\' ∉ key.name.toList) :
    l.matchByFile (conventionalFile key) = some key ↔ ¬ HasDroppedEnding key.name :=
  matchByFile_conventional_iff hl hmem hne (fileName_conventionalFile hslash hbackslash)

/-- The data source is found although its name has markers of a resource at both ends, and there are
resources of that name and of the name without them. -/
theorem conventional_file_matched_widget : ∃ r l,
    r = Registry.ofKeys [⟨.resource, "widget"⟩, ⟨.resource, "resource_widget_resource"⟩,
      ⟨.dataSource, "resource_widget_resource"⟩] ∧
    ofRegistry r .default Binary64.nearest = .ok l ∧
    (⟨.dataSource, "resource_widget_resource"⟩ : EntityKey) ∈ r.keys ∧
    l.matchByFile "data_source_resource_widget_resource_test.go" =
      some ⟨.dataSource, "resource_widget_resource"⟩ := by
  obtain ⟨r, hr⟩ : ∃ r, r = Registry.ofKeys [⟨.resource, "widget"⟩,
    ⟨.resource, "resource_widget_resource"⟩, ⟨.dataSource, "resource_widget_resource"⟩] := ⟨_, rfl⟩
  obtain ⟨l, hl, -⟩ := ofRegistry_default r Binary64.nearest
  have hmem : (⟨.dataSource, "resource_widget_resource"⟩ : EntityKey) ∈ r.keys := by
    rw [hr]
    decide
  have hkept : ¬ HasDroppedEnding "resource_widget_resource" := by
    rw [HasDroppedEnding]
    decide
  exact ⟨r, l, hr, hl, hmem,
    (conventional_file_matched_iff hl hmem (by decide) (by decide) (by decide)).mpr hkept⟩

/-- The ending is dropped, and no entity has the rest of the name. -/
theorem conventional_file_not_matched : ∃ r l,
    r = Registry.ofKeys [⟨.resource, "widget_generated"⟩] ∧
    ofRegistry r .default Binary64.nearest = .ok l ∧
    (⟨.resource, "widget_generated"⟩ : EntityKey) ∈ r.keys ∧
    '/' ∉ "widget_generated".toList ∧ '\\' ∉ "widget_generated".toList ∧
    l.matchByFile "resource_widget_generated_test.go" = none := by
  obtain ⟨r, hr⟩ : ∃ r, r = Registry.ofKeys [⟨.resource, "widget_generated"⟩] := ⟨_, rfl⟩
  obtain ⟨l, hl, -⟩ := ofRegistry_default r Binary64.nearest
  have hmatch : (ofRegistry (Registry.ofKeys [⟨.resource, "widget_generated"⟩]) .default
      Binary64.nearest).toOption.map (·.matchByFile "resource_widget_generated_test.go") =
        some none := by decide +kernel
  rw [← hr, hl] at hmatch
  refine ⟨r, l, hr, hl, ?_, by decide, by decide, Option.some.inj hmatch⟩
  rw [hr]
  decide

end Linker
end ProviderCoverage

import ProviderCoverage.Proofs.Glob.Wildcards
import ProviderCoverage.Settings.FileFilter

/-! Test files and their stems. Whether a file holds tests is decided by a glob, and the stem of its
name by what stands around the wildcards of the same pattern. For patterns of ordinary characters
and `*` the two agree: the name of a test file is its stem between the two ends of the pattern, and
there is no stem only where nothing is left between these (`testFileStem?_follows_pattern`). -/

namespace ProviderCoverage

/-- The name of a file is what follows the last separator of either kind. -/
theorem fileName_eq (path : String) : fileName path =
    String.ofList (path.toList.rtakeWhile fun c => !(c == '/' || c == '\\')) := by
  rw [fileName, Text.getLast?_splitWhere, Option.getD_some]

theorem fileName_suffix (path : String) : (fileName path).toList <:+ path.toList := by
  rw [fileName_eq, String.toList_ofList]
  exact List.rtakeWhile_suffix _ _

theorem fileName_append (path : String) {ending : String} (hslash : '/' ∉ ending.toList)
    (hbackslash : '\\' ∉ ending.toList) : fileName (path ++ ending) = fileName path ++ ending := by
  have hkept : ∀ c ∈ ending.toList.reverse, (!(c == '/' || c == '\\')) = true := by
    intro c hc
    have hmem := List.mem_reverse.mp hc
    have hne : c ≠ '/' ∧ c ≠ '\\' := ⟨fun h => hslash (h ▸ hmem), fun h => hbackslash (h ▸ hmem)⟩
    simpa using hne
  rw [fileName_eq, fileName_eq, String.toList_append, List.rtakeWhile, List.reverse_append,
    List.takeWhile_append_of_pos hkept, List.reverse_append, List.reverse_reverse,
    String.ofList_append, String.ofList_toList, List.rtakeWhile]

/-- A path without separators is the name of a file. -/
theorem fileName_eq_self {path : String} (hslash : '/' ∉ path.toList)
    (hbackslash : '\\' ∉ path.toList) : fileName path = path := by
  simpa [fileName_eq] using fileName_append "" hslash hbackslash

namespace FileFilter

open GlobToken

variable {s : Settings} {globs : List Glob} {head tail stem text : List Char} {path : String}

theorem between?_eq_some_iff :
    between? head tail text = some stem ↔ stem ≠ [] ∧ text = head ++ stem ++ tail := by
  rw [between?, Option.filter_eq_some_iff, Option.bind_eq_some_iff]
  simp only [List.isPrefixOf?_eq_some_iff_append_eq, List.isSuffixOf?_eq_some_iff_append_eq]
  constructor
  · rintro ⟨⟨rest, rfl, rfl⟩, hne⟩
    exact ⟨by simpa using hne, (List.append_assoc ..).symm⟩
  · rintro ⟨hne, rfl⟩
    exact ⟨⟨stem ++ tail, (List.append_assoc ..).symm, rfl⟩, by simpa using hne⟩

/-- The filter of settings whose pattern for test files has ordinary characters and wildcards. -/
def ofPlainPattern (s : Settings) (excludeGlobs : List Glob) : FileFilter :=
  ⟨⟨ofPlain s.testFilePattern.toList, true⟩, s.testFilePattern, excludeGlobs, s.excludePaths,
    s.excludeBaseClasses, s.excludeSweeperFiles, s.excludeMigrationFiles⟩

/-- Such a pattern is never refused, but other settings of the filter may be. -/
theorem ofSettings_plain (hplain : ∀ c ∈ s.testFilePattern.toList, isPlain c = true)
    (hne : s.testFilePattern ≠ "") :
    ofSettings s = (readGlobs "exclude-patterns" s.excludePatterns).map (ofPlainPattern s) := by
  have hempty : s.testFilePattern.isEmpty = false := by simpa using hne
  rw [ofSettings]
  simp only [hempty, Bool.false_eq_true, if_false, readGlob, Glob.read_plain hplain]
  cases readGlobs "exclude-patterns" s.excludePatterns <;> rfl

theorem isTestFile_ofPlainPattern_iff : (ofPlainPattern s globs).isTestFile path = true ↔
    Fits s.testFilePattern.toList (fileName path).toList :=
  Glob.accepts_plain_iff

theorem testFileStem?_ofPlainPattern (hends : HasEnds s.testFilePattern.toList head tail) :
    (ofPlainPattern s globs).testFileStem? path =
      if (ofPlainPattern s globs).isTestFile path then between? head tail (fileName path).toList
      else none := by
  obtain ⟨after, hfirst⟩ := hends.exists_after
  obtain ⟨before, hlast⟩ := hends.exists_before
  have hhead : Text.splitFirst? '*' s.testFilePattern.toList = some (head, after) :=
    Text.splitFirst?_eq_some_iff.mpr ⟨hfirst, hends.notMem_head⟩
  have htail : Text.splitLast? '*' s.testFilePattern.toList = some (before, tail) := by
    rw [hlast]
    exact Text.splitLast?_append_cons before hends.notMem_tail
  have hpattern : (ofPlainPattern s globs).testPattern = s.testFilePattern := rfl
  rw [testFileStem?, hpattern, hhead, htail]

theorem testFileStem?_eq_some_iff (hends : HasEnds s.testFilePattern.toList head tail) :
    (ofPlainPattern s globs).testFileStem? path = some stem ↔
      (ofPlainPattern s globs).isTestFile path = true ∧ stem ≠ [] ∧
        (fileName path).toList = head ++ stem ++ tail := by
  rw [testFileStem?_ofPlainPattern hends, Option.ite_none_right_eq_some, between?_eq_some_iff]

/-- The name of a test file is something between the two ends, so there is a stem unless that is
nothing. -/
theorem testFileStem?_eq_none_iff (hends : HasEnds s.testFilePattern.toList head tail)
    (htest : (ofPlainPattern s globs).isTestFile path = true) :
    (ofPlainPattern s globs).testFileStem? path = none ↔
      (fileName path).toList = head ++ tail := by
  obtain ⟨middle, hname⟩ := (isTestFile_ofPlainPattern_iff.mp htest).exists_of_hasEnds hends
  rw [testFileStem?_ofPlainPattern hends, if_pos htest, hname]
  by_cases hmiddle : middle = []
  · have hnone : between? head tail (head ++ middle ++ tail) = none := by
      refine Option.eq_none_iff_forall_ne_some.mpr fun stem hstem => ?_
      obtain ⟨hne, heq⟩ := between?_eq_some_iff.mp hstem
      simp [hmiddle, hne] at heq
    exact iff_of_true hnone (by simp [hmiddle])
  · rw [between?_eq_some_iff.mpr ⟨hmiddle, rfl⟩]
    simp [hmiddle]

/-- With a pattern of ordinary characters and wildcards, the stem of a test file is what its name
has between the two ends of the pattern. A test file is without a stem only if there is nothing
between them. -/
theorem testFileStem?_follows_pattern
    (hplain : ∀ c ∈ s.testFilePattern.toList, isPlain c = true)
    (hends : HasEnds s.testFilePattern.toList head tail) :
    match readGlobs "exclude-patterns" s.excludePatterns with
    | .error e => ofSettings s = .error e
    | .ok _ => ∃ f, ofSettings s = .ok f ∧ ∀ path,
      (f.isTestFile path = true ↔ Fits s.testFilePattern.toList (fileName path).toList) ∧
      (∀ stem, f.testFileStem? path = some stem ↔ f.isTestFile path = true ∧ stem ≠ [] ∧
        (fileName path).toList = head ++ stem ++ tail) ∧
      (f.isTestFile path = true →
        (f.testFileStem? path = none ↔ (fileName path).toList = head ++ tail)) := by
  have hne : s.testFilePattern ≠ "" := by
    intro heq
    obtain ⟨after, hafter⟩ := hends.exists_after
    rw [heq] at hafter
    exact List.append_ne_nil_of_right_ne_nil head (List.cons_ne_nil _ _) hafter.symm
  rw [ofSettings_plain hplain hne]
  cases readGlobs "exclude-patterns" s.excludePatterns with
  | error e => rfl
  | ok globs =>
    exact ⟨_, rfl, fun path => ⟨isTestFile_ofPlainPattern_iff,
      fun stem => testFileStem?_eq_some_iff hends, testFileStem?_eq_none_iff hends⟩⟩

def overlappingEnds : Settings :=
  { Settings.default with testFilePattern := "acc*_*cc" }

/-- The ends of a pattern may overlap, but not in the name of a test file. -/
theorem testFileStem?_of_overlappingEnds : ∃ f, ofSettings overlappingEnds = .ok f ∧
    f.isTestFile "pkg/accc" = false ∧
    f.testFileStem? "pkg/acc_cc" = some ['_'] ∧
    f.testFileStem? "pkg/accé_ücc" = some ['é', '_', 'ü'] := by
  have hends : HasEnds overlappingEnds.testFilePattern.toList "acc".toList "cc".toList :=
    ⟨⟨"_*cc".toList, by decide⟩, by decide, ⟨"acc*_".toList, by decide⟩, by decide⟩
  have hfilter := testFileStem?_follows_pattern (List.all_eq_true.mp (by decide)) hends
  obtain ⟨globs, hglobs⟩ : ∃ globs,
      readGlobs "exclude-patterns" overlappingEnds.excludePatterns = .ok globs := ⟨_, rfl⟩
  rw [hglobs] at hfilter
  obtain ⟨f, hf, hpath⟩ := hfilter
  refine ⟨f, hf, ?_, ?_, ?_⟩
  · rw [Bool.eq_false_iff]
    intro htest
    obtain ⟨middle, hname⟩ := ((hpath "pkg/accc").1.mp htest).exists_of_hasEnds hends
    have hlength := congrArg List.length hname
    have hlengths : (fileName "pkg/accc").toList.length = 4 ∧ "acc".toList.length = 3 ∧
        "cc".toList.length = 2 := by decide
    rw [List.length_append, List.length_append] at hlength
    omega
  · refine ((hpath _).2.1 _).mpr ⟨(hpath _).1.mpr ?_, by decide, by decide⟩
    exact .char (by decide) (.char (by decide) (.char (by decide) (.wildcard []
      (.char (by decide) (.wildcard [] (.self (by decide)))))))
  · refine ((hpath _).2.1 _).mpr ⟨(hpath _).1.mpr ?_, by decide, by decide⟩
    exact .char (by decide) (.char (by decide) (.char (by decide) (.wildcard ['é']
      (.char (by decide) (.wildcard ['ü'] (.self (by decide)))))))

end FileFilter
end ProviderCoverage

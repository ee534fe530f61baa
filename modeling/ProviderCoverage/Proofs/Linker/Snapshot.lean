import Mathlib.Data.List.Sort
import ProviderCoverage.Proofs.Linker.Candidates
import ProviderCoverage.Proofs.Registry.Changes

/-! What a linker takes from a registry. Its matches depend on which keys are registered, and on
nothing else in the registry, so registries that hold the same keys have linkers with the same
matches (`matchTest_of_keys`). -/

namespace ProviderCoverage

theorem NameSet.ofList_congr {names names' : List String} (h : ∀ x, x ∈ names ↔ x ∈ names') :
    ofList names = ofList names' :=
  (pairwise_ofList names).eq_of_mem_iff (pairwise_ofList names') fun x => by simp [h x]

theorem Registry.mem_names_iff {r : Registry} {name : String} :
    name ∈ r.names ↔ ∃ kind, (⟨kind, name⟩ : EntityKey) ∈ r.keys := by
  rw [names, NameSet.mem_ofList, List.mem_map]
  constructor
  · rintro ⟨key, hkey, rfl⟩
    exact ⟨key.kind, hkey⟩
  · rintro ⟨kind, hkey⟩
    exact ⟨_, hkey, rfl⟩

/-- A registry of entities that are known by their keys alone. -/
def Registry.ofKeys (keys : List EntityKey) : Registry :=
  empty.run (keys.map fun key => .registerEntity ⟨key, .unknown, [], false⟩)

theorem Registry.names_congr {r r' : Registry} (h : ∀ key, key ∈ r.keys ↔ key ∈ r'.keys) :
    r.names = r'.names :=
  NameSet.ofList_congr fun x => by simp only [List.mem_map, h]

namespace Linker

variable {l : Linker} {r r' : Registry} {s : Settings} {rounding : Rounding}

/-- A name leads to an entity if there is one of that name, whatever the hint. -/
theorem resolve_eq_none_iff_notMem_names (hkeys : l.keys = r.keys) {name : List Char}
    {hint : Option EntityKind} : l.resolve name hint = none ↔ String.ofList name ∉ r.names := by
  rw [resolve_eq_none_iff, Registry.mem_names_iff, hkeys, not_exists]

theorem name_mem_of_resolve (hkeys : l.keys = r.keys) {name : List Char} {hint : Option EntityKind}
    {key : EntityKey} (h : l.resolve name hint = some key) : String.ofList name ∈ r.names := by
  by_contra hfree
  rw [(resolve_eq_none_iff_notMem_names hkeys).mpr hfree] at h
  cases h

/-- The linker for other keys of the same names. -/
def withKeys (l : Linker) (keys : List EntityKey) : Linker :=
  { l with keys }

section
variable {keys : List EntityKey} (h : ∀ key, key ∈ keys ↔ key ∈ l.keys)
include h

theorem registered_withKeys : (l.withKeys keys).registered = l.registered := by
  funext key
  rw [Bool.eq_iff_iff, registered_iff, registered_iff]
  exact h key

theorem matchByFunctionName_withKeys (function : String) :
    (l.withKeys keys).matchByFunctionName function = l.matchByFunctionName function := by
  rw [matchByFunctionName_eq, matchByFunctionName_eq, registered_withKeys h]
  rfl

theorem matchByFile_withKeys (path : String) :
    (l.withKeys keys).matchByFile path = l.matchByFile path := by
  rw [matchByFile_eq, matchByFile_eq, registered_withKeys h]
  rfl

theorem matchByBlocks_withKeys (blocks : List Block) :
    (l.withKeys keys).matchByBlocks blocks = l.matchByBlocks blocks := by
  rw [matchByBlocks_eq, matchByBlocks_eq, registered_withKeys h]
  rfl

theorem matchBySimilarity_withKeys (function : String) :
    (l.withKeys keys).matchBySimilarity function = l.matchBySimilarity function := by
  have hresolve : ∀ name hint, (l.withKeys keys).resolve name hint = l.resolve name hint := by
    intro name hint
    rw [resolve_eq, resolve_eq, registered_withKeys h]
  simp only [matchBySimilarity, hresolve]
  rfl

/-- Keys only count as registered or not. -/
theorem matchTest_withKeys (t : AcceptanceTest) :
    (l.withKeys keys).matchTest t = l.matchTest t := by
  rw [matchTest, matchTest, matchByFunctionName_withKeys h, matchByFile_withKeys h,
    matchByBlocks_withKeys h, matchBySimilarity_withKeys h]

end

theorem ofRegistry_of_entities (h : r'.entities = r.entities) :
    ofRegistry r' s rounding = ofRegistry r s rounding := by
  simp only [ofRegistry, Registry.names, Registry.keys, h]

/-- Whether there is a linker depends on the settings alone. -/
theorem ofRegistry_of_ok (hl : ofRegistry r s rounding = .ok l) (r' : Registry) :
    ofRegistry r' s rounding = .ok { l with keys := r'.keys, names := r'.names } := by
  rw [ofRegistry] at hl ⊢
  cases hfiles : FileFilter.ofSettings s with
  | error e => simp [hfiles] at hl
  | ok files =>
    cases hprefixes : s.prefixConventions with
    | error e => simp [hfiles, hprefixes] at hl
    | ok prefixes =>
      cases hsuffixes : s.suffixConventions with
      | error e => simp [hfiles, hprefixes, hsuffixes] at hl
      | ok suffixes =>
        simp only [hfiles, hprefixes, hsuffixes, Except.ok.injEq] at hl ⊢
        rw [← hl]

/-- What a linker has from a registry, settings and a way of rounding. -/
structure IsSnapshot (l : Linker) (r : Registry) (s : Settings) (rounding : Rounding) : Prop where
  keys : l.keys = r.keys
  names : l.names = r.names
  threshold : l.threshold = if s.enableFuzzyMatching then some s.fuzzyThreshold else none
  rounding : l.rounding = rounding

theorem isSnapshot_of_ofRegistry (hl : ofRegistry r s rounding = .ok l) :
    l.IsSnapshot r s rounding := by
  rw [ofRegistry] at hl
  split at hl
  · cases hl
  · split at hl
    · cases hl
    · split at hl <;> cases hl
      exact ⟨rfl, rfl, rfl, rfl⟩

/-- What a linker has from the settings alone. -/
structure IsConfigured (l : Linker) (s : Settings) : Prop where
  files : FileFilter.ofSettings s = .ok l.files
  filePrefixes : s.prefixConventions = .ok l.filePrefixes
  fileSuffixes : s.suffixConventions = .ok l.fileSuffixes
  fileSuffixStrip : l.fileSuffixStrip = s.testFileSuffixStrip
  functionSuffixes : l.functionSuffixes = s.suffixes
  keywords : l.keywords = s.functionNameKeywordsToStrip
  providerPrefix : l.providerPrefix = s.providerPrefix

theorem isConfigured_of_ofRegistry (hl : ofRegistry r s rounding = .ok l) : l.IsConfigured s := by
  rw [ofRegistry] at hl
  split at hl
  · cases hl
  · next files hfiles =>
    split at hl
    · cases hl
    · next prefixes hprefixes =>
      split at hl <;> cases hl
      next suffixes hsuffixes => exact ⟨hfiles, hprefixes, hsuffixes, rfl, rfl, rfl, rfl⟩

/-- The settings that no one has changed yield a linker. -/
theorem ofRegistry_default (r : Registry) (rounding : Rounding) :
    ∃ l, ofRegistry r .default rounding = .ok l ∧ l.keys = r.keys ∧
      l.functionSuffixes = Settings.usualSuffixes ∧ l.threshold = none := by
  obtain ⟨files, hfiles⟩ : ∃ files, FileFilter.ofSettings .default = .ok files := ⟨_, rfl⟩
  obtain ⟨prefixes, hprefixes⟩ : ∃ c, Settings.prefixConventions .default = .ok c := ⟨_, rfl⟩
  obtain ⟨suffixes, hsuffixes⟩ : ∃ c, Settings.suffixConventions .default = .ok c := ⟨_, rfl⟩
  simp only [ofRegistry, hfiles, hprefixes, hsuffixes]
  exact ⟨_, rfl, rfl, rfl, rfl⟩

/-- Registries with the same keys have linkers with the same matches. -/
theorem matchTest_of_keys (hl : ofRegistry r s rounding = .ok l)
    (hkeys : ∀ key, key ∈ r'.keys ↔ key ∈ r.keys) :
    ∃ l', ofRegistry r' s rounding = .ok l' ∧ ∀ t, l'.matchTest t = l.matchTest t := by
  refine ⟨_, ofRegistry_of_ok hl r', fun t => ?_⟩
  have hnames : r'.names = l.names := by
    rw [(isSnapshot_of_ofRegistry hl).names, Registry.names_congr hkeys]
  have hmem : ∀ key, key ∈ r'.keys ↔ key ∈ l.keys := fun key => by
    rw [(isSnapshot_of_ofRegistry hl).keys, hkeys]
  rw [hnames]
  exact matchTest_withKeys hmem t

end Linker
end ProviderCoverage

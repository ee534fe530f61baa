import ProviderCoverage.Proofs.Linker.Snapshot
import ProviderCoverage.Proofs.Similarity.Best

/-! More entities never cost a test its link (`matchTest_of_more`). The first three ways search a
list of keys that depends on the test and the settings alone for one that is registered, so a way
that finds an entity finds one, if perhaps another one, when more keys are registered. The best of
more names is at least as similar. Since the ways are tried in the same order, the way of the link
does not come later. -/

namespace ProviderCoverage

theorem Registry.names_subset {r r' : Registry} (h : ∀ key ∈ r.keys, key ∈ r'.keys) :
    r.names ⊆ r'.names := by
  intro name hname
  obtain ⟨kind, hkey⟩ := mem_names_iff.mp hname
  exact mem_names_iff.mpr ⟨kind, h _ hkey⟩

namespace Linker

variable {l : Linker} {r r' : Registry} {s : Settings} {rounding : Rounding} {t : AcceptanceTest}
  {m : Link} {keys : List EntityKey} {key : EntityKey}

/-- A search that finds a registered key still finds one among more of them. -/
theorem isSome_find?_of_more {l' : Linker} (h : ∀ key ∈ l.keys, key ∈ l'.keys)
    (hfound : (keys.find? l.registered).isSome) : (keys.find? l'.registered).isSome := by
  rw [List.find?_isSome] at hfound ⊢
  obtain ⟨key, hkey, hregistered⟩ := hfound
  exact ⟨key, hkey, registered_iff.mpr (h key (registered_iff.mp hregistered))⟩

/-- A name that is in the registry leads to an entity, whatever the hint. -/
theorem exists_resolve {name : String} (hint : Option EntityKind) (hkeys : l.keys = r.keys)
    (hname : name ∈ r.names) : ∃ key, l.resolve name.toList hint = some key := by
  rw [← Option.isSome_iff_exists, Option.isSome_iff_ne_none, ne_eq,
    resolve_eq_none_iff_notMem_names hkeys, String.ofList_toList]
  exact not_not_intro hname

section
variable (hsnapshot : l.IsSnapshot r s rounding) (h : ∀ key ∈ r.keys, key ∈ r'.keys)
include hsnapshot h

/-- The most similar of more names is at least as similar. -/
theorem matchBySimilarity_of_more {function : String} {score : Rat}
    (hfound : l.matchBySimilarity function = some (key, score)) :
    ∃ key' score', matchBySimilarity { l with keys := r'.keys, names := r'.names } function =
      some (key', score') ∧ score ≤ score' := by
  obtain ⟨threshold, p, best, hthreshold, hp, hbest, -, rfl⟩ :=
    matchBySimilarity_eq_some_iff.mp hfound
  rw [hsnapshot.names] at hbest
  obtain ⟨best', hbest', hle⟩ := bestMatch_of_subset (Registry.names_subset h) hbest
  obtain ⟨key', hkey'⟩ := exists_resolve (l := { l with keys := r'.keys, names := r'.names })
    p.hint rfl (name_mem_of_bestMatch hbest')
  exact ⟨key', best'.score, matchBySimilarity_eq_some_iff.mpr
    ⟨threshold, p, best', hthreshold, hp, hbest', hkey', rfl⟩, hle⟩

/-- A way that finds an entity finds one among more of them. -/
theorem isSome_findBy_of_more {w : MatchType} (hfound : (l.findBy t w).isSome) :
    (findBy { l with keys := r'.keys, names := r'.names } t w).isSome := by
  have hmore : ∀ key ∈ l.keys, key ∈ r'.keys := hsnapshot.keys ▸ h
  cases w with
  | unmatched => cases hfound
  | functionName =>
    rw [findBy, Option.isSome_map, matchByFunctionName_eq] at hfound ⊢
    exact isSome_find?_of_more hmore hfound
  | fileProximity =>
    rw [findBy, Option.isSome_map, matchByFile_eq] at hfound ⊢
    exact isSome_find?_of_more hmore hfound
  | inferredFromConfig =>
    rw [findBy, Option.isSome_map, matchByBlocks_eq] at hfound ⊢
    exact isSome_find?_of_more hmore hfound
  | fuzzy =>
    obtain ⟨⟨key, score⟩, hfound⟩ := Option.isSome_iff_exists.mp hfound
    obtain ⟨key', score', hfound', -⟩ := matchBySimilarity_of_more hsnapshot h hfound
    exact Option.isSome_of_eq_some hfound'

end

theorem exists_match_of_findBy {w : MatchType} (h : (l.findBy t w).isSome) :
    ∃ m, l.matchTest t = some m := by
  rw [← Option.isSome_iff_exists, matchTest_eq, List.findSome?_isSome_iff]
  exact ⟨w, mem_ways_of_findBy h, by simpa using h⟩

/-- A test that matches an entity of a registry matches one of every registry with the same keys and
more, in the same way or an earlier one; and if both are by similarity, then with no smaller score.
-/
theorem matchTest_of_more (hl : ofRegistry r s rounding = .ok l)
    (h : ∀ key ∈ r.keys, key ∈ r'.keys) (hm : l.matchTest t = some m) :
    ∃ l' m', ofRegistry r' s rounding = .ok l' ∧ l'.matchTest t = some m' ∧
      ways.idxOf m'.matchType ≤ ways.idxOf m.matchType ∧
      (m.matchType = .fuzzy → m'.matchType = .fuzzy → m.confidence ≤ m'.confidence) := by
  have hsnapshot := isSnapshot_of_ofRegistry hl
  obtain ⟨-, -, -, hfound, -⟩ := matchTest_eq_some_iff.mp hm
  have hsome := isSome_findBy_of_more hsnapshot h (Option.isSome_of_eq_some hfound)
  obtain ⟨m', hm'⟩ := exists_match_of_findBy hsome
  refine ⟨_, m', ofRegistry_of_ok hl r', hm', idxOf_le_of_findBy hm' hsome, fun hfuzzy hfuzzy' => ?_⟩
  obtain ⟨-, -, -, hfound', -⟩ := matchTest_eq_some_iff.mp hm'
  rw [hfuzzy] at hfound
  rw [hfuzzy'] at hfound'
  obtain ⟨key', score', hbest, hle⟩ := matchBySimilarity_of_more hsnapshot h hfound
  cases hfound'.symm.trans hbest
  exact hle

section
open Registry

/-- A resource with a name like that of a test. -/
def sublet : List Operation :=
  [.registerEntity ⟨⟨.resource, "sublet"⟩, .unknown, [], false⟩]

/-- One with a name more like it. -/
def subnet : List Operation :=
  [.registerEntity ⟨⟨.resource, "subnet"⟩, .unknown, [], false⟩]

def subnetsTest : AcceptanceTest :=
  ⟨"TestAccSubnets_basic", ⟨"misc_test.go", 1, 1⟩, [], .integration, false, false, false,
    false, [], "resource.Test", .unmatched, 0, none⟩

def similarNames : Settings :=
  { Settings.default with enableFuzzyMatching := true }

end

theorem subnetsTest_matches : ∃ l l' m m',
    ofRegistry (Registry.empty.run sublet) similarNames Binary64.nearest = .ok l ∧
    ofRegistry ((Registry.empty.run sublet).run subnet) similarNames Binary64.nearest =
      .ok l' ∧
    (∀ key ∈ (Registry.empty.run sublet).keys,
      key ∈ ((Registry.empty.run sublet).run subnet).keys) ∧
    l.matchTest subnetsTest = some m ∧ l'.matchTest subnetsTest = some m' ∧
    m.target = ⟨.resource, "sublet"⟩ ∧ m'.target = ⟨.resource, "subnet"⟩ ∧
    m.matchType = .fuzzy ∧ m'.matchType = .fuzzy ∧ m.confidence ≤ m'.confidence := by
  have hkeys : ∀ key ∈ (Registry.empty.run sublet).keys,
      key ∈ ((Registry.empty.run sublet).run subnet).keys :=
    fun key => Registry.mem_keys_run_of_mem
  have hfirst : (ofRegistry (Registry.empty.run sublet) similarNames
      Binary64.nearest).toOption.any fun l => (l.matchTest subnetsTest).any fun m =>
        m.target = ⟨.resource, "sublet"⟩ ∧ m.matchType = .fuzzy := by
    decide +kernel
  have hsecond : (ofRegistry ((Registry.empty.run sublet).run subnet) similarNames
      Binary64.nearest).toOption.any fun l => (l.matchTest subnetsTest).any fun m =>
        m.target = ⟨.resource, "subnet"⟩ ∧ m.matchType = .fuzzy := by
    decide +kernel
  cases hl : ofRegistry (Registry.empty.run sublet) similarNames Binary64.nearest with
  | error e => simp [hl, Except.toOption] at hfirst
  | ok l =>
    simp only [hl, Except.toOption, Option.any_some, Option.any_eq_true, decide_eq_true_eq]
      at hfirst
    obtain ⟨m, hm, htarget, htype⟩ := hfirst
    obtain ⟨l', m', hl', hm', -, hle⟩ := matchTest_of_more hl hkeys hm
    simp only [hl', hm', Except.toOption, Option.any_some, decide_eq_true_eq] at hsecond
    exact ⟨l, l', m, m', rfl, hl', hkeys, hm, hm', htarget, hsecond.1, htype, hsecond.2,
      hle htype hsecond.2⟩

end Linker
end ProviderCoverage

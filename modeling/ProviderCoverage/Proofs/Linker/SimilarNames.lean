import ProviderCoverage.Proofs.Linker.ExactNames
import ProviderCoverage.Proofs.Linker.MoreEntities
import ProviderCoverage.Proofs.Linker.Settled

/-! How sure links by similarity are, if scores are exact. The score is the highest that any name of
an entity reaches, and no less than half. It is below one, because only equal names score one, and
an entity of the same name is found by the name of the function before similarity counts. So the
linker is wholly sure of the links by the name of the function alone (`similar_match_score`). -/

namespace ProviderCoverage.Linker

open Naming

variable {l : Linker} {r : Registry} {s : Settings} {t : AcceptanceTest} {m : Link}
  {function : String} {p : NamePortion}

/-- What a link by similarity says about the longer portion of a test's name, and about the names of
entities. -/
structure IsMostSimilar (r : Registry) (s : Settings) (p : NamePortion) (m : Link) : Prop where
  wanted : s.enableFuzzyMatching = true
  threshold : s.fuzzyMatchThreshold.exceeds m.confidence = false
  half_le : mkRat 1 2 ≤ m.confidence
  lt_one : m.confidence < 1
  registered : m.target ∈ r.keys
  score : m.confidence = similarity id (snakeCase p.raw) m.target.name.toList
  greatest : ∀ name ∈ r.names, similarity id (snakeCase p.raw) name.toList ≤ m.confidence

/-- The longer portion is not the name of an entity if the name of the function leads to none. -/
theorem exactName_notMem_names (hkeys : l.keys = r.keys) (hp : l.namePortion? function = some p)
    (hnone : l.matchByFunctionName function = none) : exactName p.raw ∉ r.names := by
  have hmem : exactName p.raw ∈ (l.namesOfPart p.trimmed ++
      if p.raw = p.trimmed then [] else l.namesOfPart p.raw).map String.ofList := by
    refine List.mem_map_of_mem ?_
    split
    · next heq =>
      rw [← heq, namesOfPart_eq]
      exact List.mem_append_left _ (List.mem_cons_self ..)
    · rw [namesOfPart_eq l p.raw]
      exact List.mem_append_right _ (List.mem_cons_self ..)
  have hname := map_name_matchByFunctionName hkeys hp
  rw [hnone, Option.map_none, eq_comm, List.find?_eq_none] at hname
  simpa using hname _ hmem

/-- Similarity counts only if the name of the function leads to no entity. -/
theorem matchByFunctionName_of_fuzzy (h : l.matchTest t = some m) (hfuzzy : m.matchType = .fuzzy) :
    l.matchByFunctionName t.name = none := by
  rw [← Option.not_isSome_iff_eq_none]
  intro hsome
  have hle := idxOf_le_of_findBy (w := .functionName) h (by rwa [findBy, Option.isSome_map])
  rw [hfuzzy] at hle
  revert hle
  decide

theorem isMostSimilar_of_fuzzy (hl : ofRegistry r s id = .ok l) (h : l.matchTest t = some m)
    (hfuzzy : m.matchType = .fuzzy) :
    ∃ p, l.namePortion? t.name = some p ∧ IsMostSimilar r s p m := by
  have hsnapshot := isSnapshot_of_ofRegistry hl
  obtain ⟨-, -, -, hfound, -⟩ := matchTest_eq_some_iff.mp h
  rw [hfuzzy] at hfound
  obtain ⟨threshold, p, best, hthreshold, hp, hbest, hkey, hscore⟩ :=
    matchBySimilarity_eq_some_iff.mp hfound
  rw [hsnapshot.rounding, hsnapshot.names] at hbest
  rw [hsnapshot.threshold] at hthreshold
  have hname : m.target.name = best.name := by rw [name_of_resolve hkey, String.ofList_toList]
  have hsimilarity : m.confidence = similarity id (snakeCase p.raw) m.target.name.toList := by
    rw [hname, ← hscore, score_bestMatch hbest, String.toList_ofList]
  have hdifferent : snakeCase p.raw ≠ m.target.name.toList := by
    intro heq
    have hfree := exactName_notMem_names hsnapshot.keys hp (matchByFunctionName_of_fuzzy h hfuzzy)
    rw [exactName, heq, String.ofList_toList, hname] at hfree
    exact hfree (name_mem_of_bestMatch hbest)
  split at hthreshold
  · next hwanted =>
    have hexceeds := not_exceeds_bestMatch hbest
    rw [hscore, ← Option.some.inj hthreshold, Settings.fuzzyThreshold,
      Binary64.exceeds_atLeast (by decide), Bool.or_eq_false_iff, decide_eq_false_iff_not,
      not_lt] at hexceeds
    refine ⟨p, hp, ⟨hwanted, hexceeds.1, hexceeds.2, ?_, ?_, hsimilarity, fun name hmem => ?_⟩⟩
    · rw [hsimilarity]
      exact similarity_lt_one hdifferent
    · exact hsnapshot.keys ▸ target_mem_keys h
    · have hle := score_le_bestMatch hbest hmem
      rwa [String.toList_ofList, hscore] at hle
  · cases hthreshold

/-- A match is wholly sure exactly if it is by the name of the function. -/
theorem confidence_eq_one_iff (hl : ofRegistry r s id = .ok l) (h : l.matchTest t = some m) :
    m.confidence = 1 ↔ m.matchType = .functionName := by
  have hfile : Binary64.nearest (mkRat 9 10) ≠ 1 := by decide +kernel
  have hblocks : Binary64.nearest (mkRat 8 10) ≠ 1 := by decide +kernel
  obtain ⟨key, -, rfl⟩ | ⟨key, -, rfl⟩ | ⟨key, -, rfl⟩ | ⟨key, score, -, rfl⟩ := matchTest_cases h
  · exact iff_of_true rfl rfl
  · exact iff_of_false hfile nofun
  · exact iff_of_false hblocks nofun
  · obtain ⟨_, -, hsimilar⟩ := isMostSimilar_of_fuzzy hl h rfl
    exact iff_of_false hsimilar.lt_one.ne nofun

/-- A match by similarity is wanted, is the best that there is and neither below the threshold nor
below half, and is not wholly sure. After linking all tests of a registry, those wholly sure have
been linked by the name of the function, or were so before and have not been linked now. -/
theorem similar_match_score (hl : ofRegistry r s id = .ok l) :
    (∀ t m, l.matchTest t = some m → m.matchType = .fuzzy →
      ∃ p, l.namePortion? t.name = some p ∧ IsMostSimilar r s p m) ∧
    ∀ base : Registry, (∀ key ∈ r.keys, key ∈ base.keys) →
      ∃ r' n, l.linkAll base = (r', .ok n) ∧
        ∀ i t, r'.test? i = some t → t.confidence = 1 → t.matchType = .functionName ∨
          base.test? i = some t ∧ (t.linkedKey?.isSome ∨ l.matchTest t = none) := by
  refine ⟨fun t m h => isMostSimilar_of_fuzzy hl h, fun base hkeys => ?_⟩
  have hround : l.rounding.KeepsUnit := by
    rw [(isSnapshot_of_ofRegistry hl).rounding]
    exact fun q hnonneg hle => ⟨hnonneg, hle⟩
  obtain ⟨r', n, hok, -, htests⟩ := linkAll_settles_of_keys (l := l) (r := base)
    (by rwa [(isSnapshot_of_ofRegistry hl).keys]) hround
  refine ⟨r', n, hok, fun i t ht hsure => ?_⟩
  rw [Registry.test?, htests, List.getElem?_map, Option.map_eq_some_iff] at ht
  obtain ⟨before, hbefore, rfl⟩ := ht
  cases hlink : before.linkedKey? with
  | some key =>
    have hsome : before.linkedKey?.isSome := Option.isSome_of_eq_some hlink
    have hsame : l.linked before = before := if_pos hsome
    rw [hsame]
    exact .inr ⟨hbefore, .inl hsome⟩
  | none =>
    rw [linked_of_unlinked hround hlink] at hsure ⊢
    cases hmatch : l.matchTest before with
    | none => exact .inr ⟨hbefore, .inr hmatch⟩
    | some m =>
      rw [hmatch] at hsure
      exact .inl ((confidence_eq_one_iff hl hmatch).mp hsure)

/-- Of two tests one has only a similar name, and the other one that of an entity. -/
theorem similar_match_score_subnets : ∃ r l m p r' n t,
    r = Registry.ofKeys [⟨.resource, "sublet"⟩, ⟨.resource, "widget"⟩] ∧
    ofRegistry r similarNames id = .ok l ∧
    l.matchTest subnetsTest = some m ∧ m.matchType = .fuzzy ∧ m.confidence = mkRat 5 7 ∧
    l.namePortion? subnetsTest.name = some p ∧ IsMostSimilar r similarNames p m ∧
    (∀ key ∈ r.keys,
      key ∈ (r.run [.registerTest subnetsTest, .registerTest widgetTest]).keys) ∧
    l.linkAll (r.run [.registerTest subnetsTest, .registerTest widgetTest]) = (r', .ok n) ∧
    r'.test? 1 = some t ∧ t.confidence = 1 ∧ t.matchType = .functionName := by
  obtain ⟨r, hr⟩ : ∃ r, r = Registry.ofKeys [⟨.resource, "sublet"⟩, ⟨.resource, "widget"⟩] :=
    ⟨_, rfl⟩
  have hmatch : (ofRegistry (Registry.ofKeys [⟨.resource, "sublet"⟩, ⟨.resource, "widget"⟩])
      similarNames id).toOption.bind (·.matchTest subnetsTest) =
        some ⟨⟨.resource, "sublet"⟩, .fuzzy, mkRat 5 7⟩ := by decide +kernel
  have hlinked : (ofRegistry (Registry.ofKeys [⟨.resource, "sublet"⟩, ⟨.resource, "widget"⟩])
      similarNames id).toOption.any fun l =>
        ((l.linkAll ((Registry.ofKeys [⟨.resource, "sublet"⟩, ⟨.resource, "widget"⟩]).run
          [.registerTest subnetsTest, .registerTest widgetTest])).1.test? 1).any
            (·.confidence = 1) := by decide +kernel
  rw [← hr] at hmatch hlinked
  cases hl : ofRegistry r similarNames id with
  | error e =>
    rw [hl] at hmatch
    cases hmatch
  | ok l =>
    rw [hl] at hmatch hlinked
    have hkeys : ∀ key ∈ r.keys,
        key ∈ (r.run [.registerTest subnetsTest, .registerTest widgetTest]).keys :=
      fun key => Registry.mem_keys_run_of_mem
    obtain ⟨hsimilar, hlink⟩ := similar_match_score hl
    obtain ⟨p, hp, hmost⟩ := hsimilar subnetsTest _ hmatch rfl
    obtain ⟨r', n, hok, hsure⟩ := hlink _ hkeys
    simp only [Except.toOption, Option.any_some, hok, Option.any_eq_true, decide_eq_true_eq]
      at hlinked
    obtain ⟨t, ht, hone⟩ := hlinked
    refine ⟨r, l, _, p, r', n, t, hr, hl, hmatch, rfl, rfl, hp, hmost, hkeys, hok, ht, hone, ?_⟩
    rcases hsure 1 t ht hone with hname | ⟨hbefore, -⟩
    · exact hname
    · -- The test was not sure before.
      rw [hr] at hbefore
      cases hbefore
      cases hone

end ProviderCoverage.Linker

import ProviderCoverage.Proofs.Linker.Settled
import ProviderCoverage.Proofs.Registry.Unmatched
import ProviderCoverage.Registry.Build

/-! The registries that an analysis builds. Building is a run of operations, so that what holds of
every reachable registry holds of a built one (`reachable_of_build`). Linking comes last, when no
test has a link yet, and hence every test of a built registry has the link of its own match
(`link_of_build`). -/

namespace ProviderCoverage

theorem exists_of_any_toOption {ε α : Type} {x : Except ε α} {p : α → Bool}
    (h : x.toOption.any p = true) : ∃ a, x = .ok a ∧ p a = true := by
  cases x with
  | error e => cases h
  | ok a => exact ⟨a, rfl, h⟩

theorem TestReader.isNew_of_mem_tests {reader : TestReader} {f : Go.SourceFile}
    {t : AcceptanceTest} (ht : t ∈ reader.tests f) : t.IsNew := by
  obtain ⟨g, -, hg⟩ := List.mem_filterMap.mp ht
  obtain ⟨body, helper, -, rfl⟩ := ofFunction?_eq_some hg
  exact ⟨rfl, rfl, rfl⟩

namespace Registry

variable {r r' : Registry} {s : Settings} {patterns : PatternReader} {rounding : Rounding}
  {files : List Go.SourceFile}

theorem Reachable.run (h : r.Reachable) {ops : List Operation} (hops : ∀ op ∈ ops, op.Admissible) :
    (r.run ops).Reachable := by
  obtain ⟨before, hbefore, rfl⟩ := h
  refine ⟨before ++ ops, fun op hop => ?_, List.foldl_append⟩
  exact (List.mem_append.mp hop).elim (hbefore op) (hops op)

theorem Reachable.link (h : r.Reachable) (id : TestId) (key : EntityKey) (matchType : MatchType)
    (confidence : Rat) : (r.link id key matchType confidence).1.Reachable := by
  have hrun : (r.run [.link id key matchType confidence]).Reachable :=
    h.run fun op hop => List.mem_singleton.mp hop ▸ trivial
  exact hrun

/-! ### Before linking -/

/-- The operations that register what some files hold. -/
def registrations (x : Extractor) (s : Settings) (files : List Go.SourceFile) : List Operation :=
  let sources := files.filter (!·.isTest)
  let testFiles := files.filter (·.isTest)
  let reader : TestReader := ⟨s, Harness.localHelpers testFiles⟩
  (sources.flatMap x.extract).map .registerEntity
    ++ (testFiles.flatMap reader.tests).map .registerTest
    ++ (files.filter Harness.registersSweepers).map (.registerSweeperFile ·.path)

theorem run_registrations (x : Extractor) (s : Settings) (files : List Go.SourceFile) :
    empty.run (registrations x s files) = unlinked x s files := by
  simp only [Registry.run, registrations, List.foldl_append, List.foldl_map]
  rfl

/-- Files are registered with new tests, and no test is linked on the way. -/
theorem of_mem_registrations {x : Extractor} {op : Operation}
    (hop : op ∈ registrations x s files) : (op.Admissible ∧ op.matchType? = none) ∧
      ∀ t, op = .registerTest t → t.IsNew := by
  simp only [registrations, List.mem_append, List.mem_map, List.mem_flatMap] at hop
  obtain (⟨e, -, rfl⟩ | ⟨t, ⟨f, -, ht⟩, rfl⟩) | ⟨f, -, rfl⟩ := hop
  · exact ⟨⟨trivial, rfl⟩, fun _ heq => by cases heq⟩
  · have hnew := TestReader.isNew_of_mem_tests ht
    refine ⟨⟨hnew.linkedKey?, rfl⟩, fun t' heq => ?_⟩
    cases heq
    exact hnew
  · exact ⟨⟨trivial, rfl⟩, fun _ heq => by cases heq⟩

theorem reachable_unlinked (x : Extractor) (s : Settings) (files : List Go.SourceFile) :
    (unlinked x s files).Reachable :=
  ⟨registrations x s files, fun _ hop => (of_mem_registrations hop).1.1,
    run_registrations x s files⟩

/-- Before linking every test is as it has been read. -/
theorem isNew_of_mem_unlinked {x : Extractor} {t : AcceptanceTest}
    (ht : t ∈ (unlinked x s files).tests) : t.IsNew := by
  rw [← run_registrations] at ht
  cases origin_run ht with
  | registered hmem => exact (of_mem_registrations hmem).2 t rfl
  | linked _ _ _ _ op hop hrecords =>
    rw [(of_mem_registrations hop).1.2] at hrecords
    cases hrecords

/-! ### Linking -/

/-- What every link preserves, made or refused, is preserved by linking. -/
theorem preserved_linkIds {motive : Registry → Prop}
    (link : ∀ (r : Registry) (id : TestId) (key : EntityKey) (matchType : MatchType)
      (confidence : Rat), motive r → motive (r.link id key matchType confidence).1)
    (l : Linker) (ids : List TestId) (n : Nat) (h : motive r) : motive (l.linkIds ids r n).1 := by
  induction ids generalizing r n with
  | nil => exact h
  | cons id ids ih =>
    rw [Linker.linkIds]
    split
    · exact ih n h
    · split
      · exact ih n h
      · split
        · exact ih n h
        · next m _ =>
          have hlinked := link r id m.target m.matchType m.confidence h
          split
          · next hok =>
            rw [hok] at hlinked
            exact ih (n + 1) hlinked
          · next herror =>
            rw [herror] at hlinked
            exact hlinked

theorem Reachable.linkAll (h : r.Reachable) (l : Linker) : (l.linkAll r).1.Reachable :=
  preserved_linkIds (fun _ id key matchType confidence h => h.link id key matchType confidence)
    l r.testIds 0 h

theorem sweeperFiles_linkAll (l : Linker) (r : Registry) :
    (l.linkAll r).1.sweeperFiles = r.sweeperFiles := by
  refine preserved_linkIds (motive := (·.sweeperFiles = r.sweeperFiles)) ?_ l r.testIds 0 rfl
  intro r' id key matchType confidence h
  obtain ⟨e, -, he⟩ | ⟨t, -, -, -, hok⟩ := r'.link_cases id key matchType confidence
  · rwa [he]
  · rwa [hok]

theorem liftSettings_eq_ok_iff {x : Extractor} :
    liftSettings (do s.validate patterns; Extractor.ofSettings s) = .ok x ↔
      s.validate patterns = .ok () ∧ Extractor.ofSettings s = .ok x := by
  cases hs : s.validate patterns with
  | error e => simp [liftSettings, Except.mapError, bind, Except.bind]
  | ok =>
    cases hx : Extractor.ofSettings s <;> simp [liftSettings, Except.mapError, bind, Except.bind]

/-- What there is when a registry has been built. -/
theorem exists_of_build (h : build s patterns rounding files = .ok r) :
    ∃ x l n, (s.validate patterns = .ok () ∧ Extractor.ofSettings s = .ok x) ∧
      Linker.ofRegistry (unlinked x s files) s rounding = .ok l ∧
      l.linkAll (unlinked x s files) = (r, .ok n) := by
  rw [build] at h
  split at h
  · cases h
  · next x hx =>
    dsimp only at h
    split at h
    · cases h
    · next l hl =>
      split at h
      · cases h
      · next r' n hok =>
        cases h
        exact ⟨x, l, n, liftSettings_eq_ok_iff.mp hx, hl, hok⟩

theorem validate_of_build (h : build s patterns rounding files = .ok r) :
    s.validate patterns = .ok () := by
  obtain ⟨x, l, n, ⟨hs, -⟩, -⟩ := exists_of_build h
  exact hs

theorem reachable_of_build (h : build s patterns rounding files = .ok r) : r.Reachable := by
  obtain ⟨x, l, n, -, -, hok⟩ := exists_of_build h
  have hreachable := (reachable_unlinked x s files).linkAll l
  rwa [hok] at hreachable

/-- A built registry is that of the files, with each test linked on its own. -/
theorem linked_of_build (h : build s patterns rounding files = .ok r) :
    ∃ x l, Extractor.ofSettings s = .ok x ∧
      Linker.ofRegistry (unlinked x s files) s rounding = .ok l ∧
      r.entities = (unlinked x s files).entities ∧
      r.tests = (unlinked x s files).tests.map l.linked ∧
      r.sweeperFiles = (unlinked x s files).sweeperFiles := by
  obtain ⟨x, l, n, ⟨-, hx⟩, hl, hok⟩ := exists_of_build h
  obtain ⟨r', n', hok', hentities, htests, -⟩ :=
    Linker.linkAll_ok (r := unlinked x s files) fun key hkey =>
      (Linker.isSnapshot_of_ofRegistry hl).keys ▸ hkey
  have hsweepers := sweeperFiles_linkAll l (unlinked x s files)
  rw [hok] at hok' hsweepers
  cases hok'
  exact ⟨x, l, hx, hl, hentities, htests, hsweepers⟩

/-- The tests of a built registry are linked as a linker of that very registry matches them. -/
theorem link_of_build (h : build s patterns Binary64.nearest files = .ok r) :
    ∃ l, Linker.ofRegistry r s Binary64.nearest = .ok l ∧
      ∀ t ∈ r.tests, ∃ t₀ : AcceptanceTest, t₀.IsNew ∧ t = (l.matchTest t).elim t₀ t₀.linkedBy := by
  obtain ⟨x, l, -, hl, hentities, htests, -⟩ := linked_of_build h
  have hround : l.rounding.KeepsUnit := by
    rw [(Linker.isSnapshot_of_ofRegistry hl).rounding]
    exact Binary64.nearest_keepsUnit
  refine ⟨l, (Linker.ofRegistry_of_entities hentities).trans hl, fun t ht => ?_⟩
  rw [htests] at ht
  obtain ⟨t₀, ht₀, rfl⟩ := List.mem_map.mp ht
  have hnew : t₀.IsNew := isNew_of_mem_unlinked ht₀
  refine ⟨t₀, hnew, ?_⟩
  rw [Linker.linked_of_unlinked hround hnew.linkedKey?]
  cases hm : l.matchTest t₀ with
  | none => rw [Option.elim_none, hm, Option.elim_none]
  | some m =>
    -- What a test matches does not depend on its link.
    have hsame : l.matchTest (t₀.linkedBy m) = some m := hm
    rw [Option.elim_some, hsame, Option.elim_some]

/-- The tests of a built registry have the match type of none exactly if they have no link. -/
theorem matchType_of_build (h : build s patterns rounding files = .ok r) {t : AcceptanceTest}
    (ht : t ∈ r.tests) : t.matchType = .unmatched ↔ t.linkedKey? = none := by
  obtain ⟨x, l, -, -, -, htests, -⟩ := linked_of_build h
  rw [htests] at ht
  obtain ⟨t₀, ht₀, rfl⟩ := List.mem_map.mp ht
  exact Linker.matchType_linked_iff (isNew_of_mem_unlinked ht₀)

end Registry
end ProviderCoverage

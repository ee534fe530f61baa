import ProviderCoverage.Proofs.Analysis.Conservation
import ProviderCoverage.Proofs.Session.Refinement

/-! An analysis in a session that nobody uses. However it ends, every session has afterwards what it
had before, and how it ends depends on the settings and the sources alone, not on what the cache
holds for others (`run_leaves_no_trace`). A build that fails is taken out of the cache by the call
that has run it, any other by the release. The release comes before the registry is evaluated, so a
failure there would leave nothing either; but building has validated the settings, and evaluation
does not fail any more. -/

namespace ProviderCoverage

namespace SessionCache

variable {α : Type} {c : SessionCache α} {s : SessionId}

/-- The sessions and what each of them has are the same in both caches. The second one may have made
more entries. -/
structure SameSessions (c c' : SessionCache α) : Prop where
  lifetime : c'.lifetime = c.lifetime
  current : c'.current = c.current
  entries : ∀ id < c.entries.length, c'.entryAt? id = c.entryAt? id

theorem SameSessions.refl (c : SessionCache α) : c.SameSessions c :=
  ⟨rfl, rfl, fun _ _ => rfl⟩

theorem live?_of_idOf?_eq_none (h : c.idOf? s = none) (now : Nat) : c.live? s now = none := by
  rw [live?, h, Option.filter_none]

theorem without_eq_self (h : c.idOf? s = none) : without s c.current = c.current := by
  rw [idOf?, Lookup.eq_none_iff_notMem] at h
  refine List.filter_eq_self.mpr fun p hp => bne_iff_ne.mpr ?_
  rintro rfl
  exact h (List.mem_map_of_mem hp)

theorem entryAt?_record_of_lt {id : EntryId} (hid : id < c.entries.length) (now : Nat)
    (outcome : Outcome α) : entryAt? (c.record s now outcome) id = c.entryAt? id :=
  List.getElem?_append_left hid

theorem sameSessions_record_error (h : c.idOf? s = none) (now : Nat) (e : BuildError) :
    c.SameSessions (c.record s now (.error e)) where
  lifetime := rfl
  current := without_eq_self h
  entries := fun _ hid => entryAt?_record_of_lt hid now _

theorem sameSessions_release_record (h : c.idOf? s = none) (now : Nat) (x : α) :
    c.SameSessions ((c.record s now (.ok x)).release s).1 where
  lifetime := rfl
  current := by
    have hrecord : (c.record s now (.ok x)).current = (s, c.entries.length) :: c.current :=
      congrArg ((s, c.entries.length) :: ·) (without_eq_self h)
    calc without s (c.record s now (.ok x)).current
        = without s c.current := by
          rw [hrecord, without, List.filter_cons_of_neg (by simp), without]
      _ = c.current := without_eq_self h
  entries := fun _ hid => entryAt?_record_of_lt hid now _

end SessionCache

namespace Analysis

variable {cache : SessionCache Loaded} {session : SessionId} {s : Settings}

/-- How an analysis ends that builds its registry itself. -/
inductive Ends (root : String) (s : Settings) (patterns : PatternReader) (rounding : Rounding)
    (load : FileFilter → Outcome Sources) : Except RunError Analysis → Prop
  | filterRejected (e : SettingsError) (hfilter : FileFilter.ofSettings s = .error e) :
    Ends root s patterns rounding load (.error (.settings e))
  /-- Loading has failed, or it has panicked. -/
  | notLoaded (filter : FileFilter) (e : BuildError)
      (hfilter : FileFilter.ofSettings s = .ok filter) (hload : load filter = .error e) :
    Ends root s patterns rounding load (.error (.build e))
  | notBuilt (filter : FileFilter) (sources : Sources) (e : AnalysisError)
      (hfilter : FileFilter.ofSettings s = .ok filter) (hload : load filter = .ok sources)
      (hbuild : Registry.build s patterns rounding sources.files = .error e) :
    Ends root s patterns rounding load (.error (.build (.failed e.message)))
  | done (filter : FileFilter) (sources : Sources) (r : Registry) (a : Analysis)
      (hfilter : FileFilter.ofSettings s = .ok filter) (hload : load filter = .ok sources)
      (hbuild : Registry.build s patterns rounding sources.files = .ok r)
      (hreport : ofRegistry root r s patterns = .ok a) :
    Ends root s patterns rounding load (.ok { a with warnings := sources.warnings })

/-- What is told of a build. -/
def ofBuild (root : String) (s : Settings) (patterns : PatternReader) :
    Outcome Loaded → Except RunError Analysis
  | .error e => .error (.build e)
  | .ok loaded => ofLoaded root s patterns loaded

theorem ends_ofBuild {filter : FileFilter} (hfilter : FileFilter.ofSettings s = .ok filter)
    (root : String) (patterns : PatternReader) (rounding : Rounding)
    (load : FileFilter → Outcome Sources) :
    Ends root s patterns rounding load
      (ofBuild root s patterns (Loaded.build s patterns rounding fun _ => load filter)) := by
  rw [Loaded.build]
  cases hload : load filter with
  | error e => exact .notLoaded filter e hfilter hload
  | ok sources =>
    cases hbuild : Registry.build s patterns rounding sources.files with
    | error e =>
      simp only [hbuild]
      exact .notBuilt filter sources e hfilter hload hbuild
    | ok r =>
      -- The settings have been validated, so the evaluation does not fail.
      obtain ⟨a, ha⟩ := exists_of_validate (Registry.validate_of_build hbuild) root r
      simp only [hbuild, ofBuild, ofLoaded, ha]
      exact .done filter sources r a hfilter hload hbuild ha

/-- Whatever becomes of a run, nothing of it is left in the sessions. If it succeeds, its report is
on the registry that it has built. -/
theorem run_leaves_no_trace (hsession : cache.idOf? session = none) (now : Nat) (root : String)
    (s : Settings) (patterns : PatternReader) (rounding : Rounding)
    (load : FileFilter → Outcome Sources) :
    cache.SameSessions (run cache session now root s patterns rounding load).1 ∧
      Ends root s patterns rounding load
        (run cache session now root s patterns rounding load).2 := by
  rw [run]
  cases hfilter : FileFilter.ofSettings s with
  | error e => exact ⟨.refl cache, .filterRejected e hfilter⟩
  | ok filter =>
    have hends := ends_ofBuild hfilter root patterns rounding load
    simp only [SessionCache.get_of_not_live (SessionCache.live?_of_idOf?_eq_none hsession now)]
    cases hbuild : Loaded.build s patterns rounding fun _ => load filter with
    | error e =>
      rw [hbuild] at hends
      exact ⟨SessionCache.sameSessions_record_error hsession now e, hends⟩
    | ok loaded =>
      rw [hbuild] at hends
      exact ⟨SessionCache.sameSessions_release_record hsession now loaded, hends⟩

/-- A session with an old registry, and another one whose build is on its way. -/
def shared : SessionCache Loaded where
  lifetime := some 5
  entries := [⟨1, 0, .landed (.ok ⟨.empty, []⟩)⟩, ⟨2, 8, .building⟩]
  current := [(2, 1), (1, 0)]

/-- A root with one entity and a file that cannot be read. -/
def loadWidget (_ : FileFilter) : Outcome Sources :=
  .ok ⟨threePlaces.take 1, ["skipped"]⟩

theorem run_beside_others : ∃ a, a.entityCount = 1 ∧ a.warnings = ["skipped"] ∧
    (run shared 3 9 "." .default Pattern.finder? Binary64.nearest loadWidget).2 = .ok a ∧
    shared.SameSessions
      (run shared 3 9 "." .default Pattern.finder? Binary64.nearest loadWidget).1 := by
  have hrun : (run shared 3 9 "." .default Pattern.finder? Binary64.nearest
      loadWidget).2.toOption.any fun a => a.entityCount = 1 ∧ a.warnings = ["skipped"] := by
    decide +kernel
  have hsame := (@run_leaves_no_trace shared 3 rfl 9 "." .default Pattern.finder? Binary64.nearest
    loadWidget).1
  obtain ⟨a, ha, hreport⟩ := exists_of_any_toOption hrun
  obtain ⟨hcount, hwarnings⟩ := of_decide_eq_true hreport
  exact ⟨a, hcount, hwarnings, ha, hsame⟩

end Analysis
end ProviderCoverage

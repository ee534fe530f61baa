import ProviderCoverage.Pattern.Syntax
import ProviderCoverage.Proofs.Findings.Reviews
import ProviderCoverage.Proofs.Linker.FileConventions
import ProviderCoverage.Proofs.Linker.LinkAll
import ProviderCoverage.Proofs.Linker.NamePortion
import ProviderCoverage.Proofs.Naming.Titles

/-! The advice of the basic finding. It names a file and a function for the test that an entity
lacks, and a linker that knows the entity can read it off that name, provided that the name survives
being made a title and back and does not look like a name about another kind
(`EntityKey.Recognizable`). Otherwise the file counts, unless the name leads to another entity: the
advised file is named after the entity if the one that declares it is
(`Findings.advised_test_linked_iff`). -/

namespace ProviderCoverage

namespace EntityKey

def title (key : EntityKey) : List Char :=
  Naming.titleCase key.name.toList

/-- The part of the advised name before `_basic` that is about the entity. -/
def advisedWord (key : EntityKey) : List Char :=
  match key.kind with
  | .action => key.title ++ "Action".toList
  | .resource | .dataSource => key.title

/-- The hint that the linker takes from the advised name. -/
def advisedHint (key : EntityKey) : Option EntityKind :=
  match key.kind with
  | .resource => none
  | .dataSource => some .dataSource
  | .action => some .action

/-- A linker can read the key off the name of the advised test. -/
structure Recognizable (key : EntityKey) : Prop where
  named : key.name ≠ ""
  /-- The words of the name can be told apart in its title. -/
  round_trip : Naming.snakeCase key.title = key.name.toList
  /-- The title is not taken for that of another kind. -/
  opening : key.kind ≠ .dataSource →
    ¬ "DataSource".toList <+: key.advisedWord ∧ ¬ "Resource".toList <+: key.advisedWord
  /-- The title does not end in a word that the linker drops. -/
  ending : key.kind ≠ .action →
    ∀ suffix ∈ Linker.lifecycleSuffixes ++ Linker.kindSuffixes.map (·.1), ∀ stem,
      key.title = stem ++ suffix.toList → stem = []

variable {key : EntityKey}

theorem underscore_notMem_title : '_' ∉ key.title :=
  Naming.underscore_notMem_titleCase _

theorem underscore_notMem_advisedWord : '_' ∉ key.advisedWord := by
  have htitle : '_' ∉ key.title := underscore_notMem_title
  rw [advisedWord]
  cases key.kind with
  | action =>
    rw [List.mem_append, not_or]
    exact ⟨htitle, by decide⟩
  | resource | dataSource => exact htitle

namespace Recognizable

theorem title_ne_nil (h : key.Recognizable) : key.title ≠ [] := by
  intro htitle
  have hname := h.round_trip
  rw [htitle] at hname
  exact h.named (String.toList_inj.mp hname.symm)

theorem advisedWord_ne_nil (h : key.Recognizable) : key.advisedWord ≠ [] := by
  rw [advisedWord]
  cases key.kind <;> simp [h.title_ne_nil]

theorem withoutKind_withoutLifecycle (h : key.Recognizable) (hkind : key.kind ≠ .action)
    (hint : Option EntityKind) :
    Linker.withoutKind (Linker.withoutLifecycle key.title) hint = (key.title, hint) := by
  have hending := h.ending hkind
  rw [Linker.withoutLifecycle_of_forall fun suffix hsuffix =>
      hending suffix (List.mem_append_left _ hsuffix),
    Linker.withoutKind_of_forall fun suffix hsuffix =>
      hending suffix.1 (List.mem_append_right _ (List.mem_map_of_mem hsuffix))]

end Recognizable
end EntityKey

/-- The advised file is named like the one that declares the entity. -/
theorem Entity.fileName_expectedTestFile (e : Entity) {stem : String} (hne : stem ≠ "")
    (h : fileName e.location.file = stem ++ ".go") :
    fileName e.expectedTestFile = stem ++ "_test.go" := by
  obtain ⟨folder, hfolder⟩ := fileName_suffix e.location.file
  have hpath : e.location.file = String.ofList folder ++ stem ++ ".go" := by
    rw [← String.toList_inj, ← hfolder, h]
    simp
  have hstem : fileName (String.ofList folder ++ stem) = stem := by
    rw [hpath, fileName_append _ (by decide) (by decide)] at h
    exact String.append_left_inj _ |>.mp h
  have hfile : (String.ofList folder ++ stem).isEmpty = false := by simpa using fun _ => hne
  rw [expectedTestFile, hpath, Text.beforeSuffix?_append]
  simp only [hfile, Bool.false_eq_true, if_false]
  rw [fileName_append _ (by decide) (by decide), hstem]

namespace Linker

variable {l : Linker} {e : Entity}

theorem afterOpening_expectedTestFunction (h : e.key.Recognizable) :
    ∃ hint, afterOpening e.expectedTestFunction.toList =
      (e.key.advisedWord ++ "_basic".toList, hint) ∧
      withoutKind (withoutLifecycle e.key.advisedWord) hint = (e.key.title, e.key.advisedHint) := by
  have hopening : e.key.kind ≠ .dataSource →
      afterOpening ("TestAcc".toList ++ (e.key.advisedWord ++ "_basic".toList)) =
        (e.key.advisedWord ++ "_basic".toList, none) := by
    intro hkind
    have hdataFree : '_' ∉ "DataSource".toList := by decide
    have hresourceFree : '_' ∉ "Resource".toList := by decide
    obtain ⟨hdata, hresource⟩ := h.opening hkind
    refine afterOpening_plain (fun hp => hdata ?_) fun hp => hresource ?_
    · exact Text.prefix_of_prefix_append_cons hdataFree hp
    · exact Text.prefix_of_prefix_append_cons hresourceFree hp
  cases hkind : e.key.kind with
  | resource =>
    have hword : e.key.advisedWord = e.key.title := by simp [EntityKey.advisedWord, hkind]
    refine ⟨none, ?_, ?_⟩
    · rw [← hopening (by simp [hkind]), hword]
      simp [Entity.expectedTestFunction, hkind, EntityKey.title]
    · rw [hword, h.withoutKind_withoutLifecycle (by simp [hkind])]
      simp [EntityKey.advisedHint, hkind]
  | dataSource =>
    have hword : e.key.advisedWord = e.key.title := by simp [EntityKey.advisedWord, hkind]
    refine ⟨some .dataSource, ?_, ?_⟩
    · rw [← afterOpening_dataSource, hword]
      simp [Entity.expectedTestFunction, hkind, EntityKey.title]
    · rw [hword, h.withoutKind_withoutLifecycle (by simp [hkind])]
      simp [EntityKey.advisedHint, hkind]
  | action =>
    have hword : e.key.advisedWord = e.key.title ++ "Action".toList := by
      simp [EntityKey.advisedWord, hkind]
    refine ⟨none, ?_, ?_⟩
    · rw [← hopening (by simp [hkind]), hword]
      simp [Entity.expectedTestFunction, hkind, EntityKey.title]
    · rw [hword, withoutLifecycle_action, withoutKind_action h.title_ne_nil]
      simp [EntityKey.advisedHint, hkind]

/-- The key of a recognizable entity is the first that its advised name stands for. -/
theorem functionKeys_expectedTestFunction (h : e.key.Recognizable)
    (hl : l.functionSuffixes = Settings.usualSuffixes) :
    ∃ others, l.functionKeys e.expectedTestFunction = e.key :: others := by
  obtain ⟨hint, hopening, htrimmed⟩ := afterOpening_expectedTestFunction h
  have hportion : l.namePortion? e.expectedTestFunction =
      some ⟨e.key.advisedWord, e.key.title, e.key.advisedHint⟩ := by
    rw [namePortion?_of_afterOpening hl hopening h.advisedWord_ne_nil
      EntityKey.underscore_notMem_advisedWord, htrimmed]
  have hkeys : ∃ others, keysOf (Naming.snakeCase e.key.title) e.key.advisedHint =
      e.key :: others := by
    rw [h.round_trip, keysOf, String.ofList_toList, EntityKey.advisedHint]
    obtain ⟨kind, name⟩ := e.key
    cases kind <;> exact ⟨_, rfl⟩
  obtain ⟨others, hkeys⟩ := hkeys
  rw [functionKeys, hportion]
  simp only [namesOfPart, withUnprefixed, keysOfAll, List.cons_append, List.flatMap_cons, hkeys]
  exact ⟨_, rfl⟩

theorem matchByFunctionName_expectedTestFunction (h : e.key.Recognizable)
    (hl : l.functionSuffixes = Settings.usualSuffixes) (hmem : e.key ∈ l.keys) :
    l.matchByFunctionName e.expectedTestFunction = some e.key := by
  obtain ⟨others, hfirst⟩ := functionKeys_expectedTestFunction h hl
  rw [matchByFunctionName_eq, hfirst, List.find?_cons_of_pos (registered_iff.mpr hmem)]

/-- A test that is registered without a link is linked to what it matches. -/
theorem linkAll_registerTest (r : Registry) {t : AcceptanceTest} (hkeys : l.keys = r.keys)
    (ht : t.linkedKey? = none) :
    ∃ r' n, l.linkAll (r.registerTest t).1 = (r', .ok n) ∧
      (r'.test? (r.registerTest t).2).bind (·.linkedKey?) = (l.matchTest t).map (·.target) := by
  have hregistered : ∀ key ∈ l.keys, key ∈ (r.registerTest t).1.keys := fun key hkey => hkeys ▸ hkey
  obtain ⟨r', n, hok, -, htests, -⟩ := linkAll_ok hregistered
  refine ⟨r', n, hok, ?_⟩
  have htest : (r.registerTest t).1.tests[(r.registerTest t).2]? = some t :=
    List.getElem?_concat_length
  rw [Registry.test?, htests, List.getElem?_map, htest, Option.map_some, Option.bind_some,
    linkedKey?_linked ht]

end Linker

namespace Findings

variable {r : Registry} {s : Settings} {patterns : PatternReader} {fs : List Finding} {f : Finding}

/-- Who lacks a basic test is registered, and is told which file and function to create. -/
theorem advice_of_mem_evaluate (hfs : evaluate r s patterns = .ok fs) (hf : f ∈ fs)
    (hbasic : f.analyzer = .basic) : ∃ e ∈ r.entities, f.entity = some e.key ∧
      f.suggestions =
        ["Create " ++ e.expectedTestFile ++ " with function " ++ e.expectedTestFunction] := by
  rcases mem_evaluate hfs hf with ⟨e, he, hf⟩ | rfl
  · rw [EntityReview.eq_untested_of_mem_findings hf hbasic]
    exact ⟨e, he, rfl, rfl⟩
  · cases hbasic

/-- The test that a basic finding asks for is linked to the entity if that is recognizable. In
general, it is linked to what the advised name leads to, or else the advised file, or else its
blocks. If the file that declares the entity is named after it, so is the advised one, and then only
a name that leads to another entity can be in the way. -/
theorem advised_test_linked_iff (hfs : evaluate r .default patterns = .ok fs) (hf : f ∈ fs)
    (hbasic : f.analyzer = .basic) (rounding : Rounding) :
    ∃ e ∈ r.entities, f.entity = some e.key ∧
      f.suggestions =
        ["Create " ++ e.expectedTestFile ++ " with function " ++ e.expectedTestFunction] ∧
      ∀ t : AcceptanceTest, t.name = e.expectedTestFunction →
        t.location.file = e.expectedTestFile → t.linkedKey? = none →
        ∃ l r' n, Linker.ofRegistry (r.registerTest t).1 .default rounding = .ok l ∧
          l.linkAll (r.registerTest t).1 = (r', .ok n) ∧
          ((r'.test? (r.registerTest t).2).bind (·.linkedKey?) = some e.key ↔
            l.matchByFunctionName e.expectedTestFunction = some e.key ∨
              l.matchByFunctionName e.expectedTestFunction = none ∧
                (l.matchByFile e.expectedTestFile = some e.key ∨
                  l.matchByFile e.expectedTestFile = none ∧
                    l.matchByBlocks t.blocks = some e.key)) ∧
          (e.key.Recognizable →
            (r'.test? (r.registerTest t).2).bind (·.linkedKey?) = some e.key) ∧
          (fileName e.location.file = Linker.conventionalStem e.key ++ ".go" → e.key.name ≠ "" →
            ¬ Linker.HasDroppedEnding e.key.name →
            ((r'.test? (r.registerTest t).2).bind (·.linkedKey?) = some e.key ↔
              ∀ key, l.matchByFunctionName e.expectedTestFunction = some key → key = e.key)) := by
  obtain ⟨e, he, hentity, hadvice⟩ := advice_of_mem_evaluate hfs hf hbasic
  refine ⟨e, he, hentity, hadvice, fun t hname hfile ht => ?_⟩
  obtain ⟨l, hl, hkeys, hsuffixes, hthreshold⟩ :=
    Linker.ofRegistry_default (r.registerTest t).1 rounding
  obtain ⟨r', n, hok, hlinked⟩ := Linker.linkAll_registerTest r hkeys ht
  have hmem : e.key ∈ (r.registerTest t).1.keys := List.mem_map_of_mem he
  have hways : (l.matchTest t).map (·.target) = some e.key ↔ _ :=
    Linker.matchTest_target_eq_some_iff hthreshold t
  rw [hname, hfile] at hways
  refine ⟨l, r', n, hl, hok, by rw [hlinked, hways], fun hrec => ?_, fun hdeclared hne hkept => ?_⟩
  · rw [hlinked, hways]
    exact .inl (Linker.matchByFunctionName_expectedTestFunction hrec hsuffixes (hkeys ▸ hmem))
  · have hpath : fileName e.expectedTestFile = Linker.conventionalFile e.key :=
      e.fileName_expectedTestFile Linker.conventionalStem_ne_empty hdeclared
    have hfound := (Linker.matchByFile_conventional_iff hl hmem hne hpath).mpr hkept
    rw [hlinked, hways, hfound]
    cases l.matchByFunctionName e.expectedTestFunction <;> simp [eq_comm]

def resourceIn (file name : String) : Entity :=
  ⟨⟨.resource, name⟩, ⟨file, 1, 1⟩, [], false⟩

/-- A registry without tests. -/
def untestedResource (file name : String) : Registry :=
  Registry.empty.run [.registerEntity (resourceIn file name)]

def advisedTest (e : Entity) : AcceptanceTest :=
  ⟨e.expectedTestFunction, ⟨e.expectedTestFile, 1, 1⟩, [], .entity, false, false, false, false, [],
    "resource.Test", .unmatched, 0, none⟩

theorem evaluate_untestedResource (file name : String) :
    evaluate (untestedResource file name) .default Pattern.finder? =
      .ok [(review (untestedResource file name)
        ⟨resourceIn file name, Coverage.ofTests []⟩).untested,
        noSweepers (untestedResource file name)] :=
  rfl

theorem recognizable_widget : (⟨.resource, "widget"⟩ : EntityKey).Recognizable where
  named := by decide
  round_trip := by decide
  opening := fun _ => by decide
  ending := by
    intro _ suffix hsuffix stem heq
    have hnone : ∀ suffix ∈ Linker.lifecycleSuffixes ++ Linker.kindSuffixes.map (·.1),
        suffix.toList.isSuffixOf? (⟨.resource, "widget"⟩ : EntityKey).title = none := by decide
    have hstem := List.isSuffixOf?_eq_some_iff_append_eq.mpr heq.symm
    rw [hnone suffix hsuffix] at hstem
    cases hstem

/-- What becomes of a test when it is registered and all tests are linked. -/
def afterLinking? (r : Registry) (t : AcceptanceTest) : Option AcceptanceTest :=
  (Linker.ofRegistry (r.registerTest t).1 .default Binary64.nearest).toOption.bind fun l =>
    (l.linkAll (r.registerTest t).1).1.test? (r.registerTest t).2

theorem afterLinking?_eq {r r' : Registry} {t : AcceptanceTest} {l : Linker} {n : Nat}
    (hl : Linker.ofRegistry (r.registerTest t).1 .default Binary64.nearest = .ok l)
    (hok : l.linkAll (r.registerTest t).1 = (r', .ok n)) :
    afterLinking? r t = r'.test? (r.registerTest t).2 := by
  rw [afterLinking?, hl, Except.toOption, Option.bind_some, hok]

/-- The title of `widget` is read back as `widget`, wherever the resource is declared. That of
`widget_2` is not, but the resource is declared in a file of that name. -/
theorem advised_widget_tests_linked :
    (∃ fs f, evaluate (untestedResource "provider.go" "widget") .default Pattern.finder? = .ok fs ∧
      f ∈ fs ∧ f.analyzer = .basic) ∧
    (afterLinking? (untestedResource "provider.go" "widget")
      (advisedTest (resourceIn "provider.go" "widget"))).bind (·.linkedKey?) =
        some ⟨.resource, "widget"⟩ ∧
    (∃ fs f, evaluate (untestedResource "internal/resource_widget_2.go" "widget_2") .default
      Pattern.finder? = .ok fs ∧ f ∈ fs ∧ f.analyzer = .basic) ∧
    (afterLinking? (untestedResource "internal/resource_widget_2.go" "widget_2")
      (advisedTest (resourceIn "internal/resource_widget_2.go" "widget_2"))).bind (·.linkedKey?) =
        some ⟨.resource, "widget_2"⟩ := by
  have hfs := evaluate_untestedResource
  refine ⟨⟨_, _, hfs _ _, List.mem_cons_self .., rfl⟩, ?_,
    ⟨_, _, hfs _ _, List.mem_cons_self .., rfl⟩, ?_⟩
  · obtain ⟨e, he, -, -, h⟩ :=
      advised_test_linked_iff (hfs "provider.go" "widget") (List.mem_cons_self ..) rfl
        Binary64.nearest
    cases List.mem_singleton.mp he
    obtain ⟨l, r', n, hl, hok, -, hlinked, -⟩ :=
      h (advisedTest (resourceIn "provider.go" "widget")) rfl rfl rfl
    rw [afterLinking?_eq hl hok]
    exact hlinked recognizable_widget
  · obtain ⟨e, he, -, -, h⟩ :=
      advised_test_linked_iff (hfs "internal/resource_widget_2.go" "widget_2")
        (List.mem_cons_self ..) rfl Binary64.nearest
    cases List.mem_singleton.mp he
    obtain ⟨l, r', n, hl, hok, -, -, hiff⟩ :=
      h (advisedTest (resourceIn "internal/resource_widget_2.go" "widget_2")) rfl rfl rfl
    have hkept : ¬ Linker.HasDroppedEnding "widget_2" := by
      rw [Linker.HasDroppedEnding]
      decide
    have hname : (Linker.ofRegistry ((untestedResource "internal/resource_widget_2.go"
        "widget_2").registerTest (advisedTest (resourceIn "internal/resource_widget_2.go"
          "widget_2"))).1 .default Binary64.nearest).toOption.bind
            (·.matchByFunctionName "TestAccWidget2_basic") = none := by decide +kernel
    rw [hl] at hname
    rw [afterLinking?_eq hl hok]
    refine (hiff (by decide) (by decide) hkept).mpr fun key hkey => ?_
    cases hkey.symm.trans hname

/-- In a file that is named after something else, the test for `widget_2` is not linked: its title
`Widget2` is read back as `widget2`. -/
theorem advised_test_not_linked : ¬ ∀ (r : Registry) (fs : List Finding) (f : Finding)
    (e : Entity) (t : AcceptanceTest), r.Reachable →
    evaluate r .default Pattern.finder? = .ok fs → f ∈ fs →
    f.analyzer = .basic → e ∈ r.entities → f.entity = some e.key →
    t.name = e.expectedTestFunction → t.location.file = e.expectedTestFile → t.linkedKey? = none →
    ∃ l r' n, Linker.ofRegistry (r.registerTest t).1 .default Binary64.nearest = .ok l ∧
      l.linkAll (r.registerTest t).1 = (r', .ok n) ∧
      (r'.test? (r.registerTest t).2).bind (·.linkedKey?) = some e.key := by
  intro h
  have hreachable : (untestedResource "provider.go" "widget_2").Reachable :=
    ⟨_, by simp [Registry.Operation.Admissible], rfl⟩
  have he : resourceIn "provider.go" "widget_2" ∈
      (untestedResource "provider.go" "widget_2").entities :=
    List.mem_singleton_self _
  obtain ⟨l, r', n, hl, hok, hlinked⟩ :=
    h (untestedResource "provider.go" "widget_2") _ _ (resourceIn "provider.go" "widget_2")
      (advisedTest (resourceIn "provider.go" "widget_2")) hreachable
      (evaluate_untestedResource "provider.go" "widget_2") (List.mem_cons_self ..) rfl he rfl rfl
      rfl rfl
  have hnone : (afterLinking? (untestedResource "provider.go" "widget_2")
      (advisedTest (resourceIn "provider.go" "widget_2"))).bind (·.linkedKey?) = none := by
    decide +kernel
  rw [afterLinking?_eq hl hok, hlinked] at hnone
  cases hnone

end Findings
end ProviderCoverage

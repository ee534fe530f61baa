import Mathlib.Data.List.Induction
import ProviderCoverage.Proofs.Registry.Associations

/-! The report of unmatched tests. It goes by the match type of a test, and not by whether the test
is linked. These are two fields, and the report is that of the unlinked tests exactly if both tell
the same (`unmatchedTests_eq_unlinkedTests_iff`).

A test has the match type that it was registered with, or that of the operation that has linked it
(`origin_run`). So there are two ways to be in the wrong place: a test that is linked with the match
type of none is reported although it belongs to an entity, and one that is registered with another
match type is not reported although it is linked to none. -/

namespace ProviderCoverage.Registry

/-- The tests that should belong to an entity and are linked to none. -/
def unlinkedTests (r : Registry) : List AcceptanceTest :=
  r.tests.filter fun t => t.linkedKey?.isNone && t.category.expectsEntity

variable {r r' : Registry} {key : EntityKey} {t : AcceptanceTest} {op : Operation}
  {ops : List Operation}

/-! ### Where tests come from -/

/-- A test is as it has been registered, or it is one that has been registered without a link, with
the link that one of the operations has recorded. -/
inductive Origin (ops : List Operation) (t : AcceptanceTest) : Prop
  | registered (hmem : .registerTest t ∈ ops)
  | linked (before : AcceptanceTest) (l : Link) (hmem : .registerTest before ∈ ops)
      (hfree : before.linkedKey? = none) (op : Operation) (hop : op ∈ ops)
      (hrecords : op.matchType? = some l.matchType) (ht : t = before.linkedBy l)

theorem Origin.append (h : Origin ops t) (more : List Operation) : Origin (ops ++ more) t := by
  cases h with
  | registered hmem => exact .registered (List.mem_append_left _ hmem)
  | linked before l hmem hfree op hop hrecords ht =>
    exact .linked before l (List.mem_append_left _ hmem) hfree op (List.mem_append_left _ hop)
      hrecords ht

/-- An operation registers a test, links one that has been there, or leaves the tests alone. -/
theorem mem_tests_of_effect (h : r.Effect op r') (ht : t ∈ r'.tests) :
    t ∈ r.tests ∨ op = .registerTest t ∨ ∃ before ∈ r.tests, ∃ l, before.linkedKey? = none ∧
      op.matchType? = some l.matchType ∧ t = before.linkedBy l := by
  cases h with
  | known | entity | refused | sweeperFile => exact .inl ht
  | test new =>
    rcases List.mem_append.mp ht with hmem | hnew
    · exact .inl hmem
    · exact .inr (.inl (congrArg _ (List.mem_singleton.mp hnew).symm))
  | link _ id before l hrecords _ hbefore hfree =>
    rcases List.mem_or_eq_of_mem_set ht with hmem | rfl
    · exact .inl hmem
    · exact .inr (.inr ⟨before, List.mem_of_getElem? hbefore, l, hfree, hrecords, rfl⟩)

theorem origin_run (ht : t ∈ (empty.run ops).tests) : Origin ops t := by
  induction ops using List.reverseRecOn generalizing t with
  | nil => cases ht
  | append_singleton ops op ih =>
    rw [run, List.foldl_append] at ht
    have hlast : op ∈ ops ++ [op] := List.mem_append_right _ (List.mem_singleton_self op)
    rcases mem_tests_of_effect (effect_apply _ op) ht with
      hmem | rfl | ⟨before, hmem, l, hfree, hrecords, rfl⟩
    · exact (ih hmem).append [op]
    · exact .registered hlast
    · -- The test has had no link, so it has been as it was registered.
      cases ih hmem with
      | registered hbefore =>
        exact .linked before l (List.mem_append_left _ hbefore) hfree op hlast hrecords rfl
      | linked _ _ _ _ _ _ _ heq =>
        rw [heq] at hfree
        cases hfree

/-- An unlinked test is as it has been registered. -/
theorem registerTest_mem_of_unlinked (ht : t ∈ (empty.run ops).tests)
    (hfree : t.linkedKey? = none) : .registerTest t ∈ ops := by
  cases origin_run ht with
  | registered hmem => exact hmem
  | linked _ _ _ _ _ _ _ heq =>
    rw [heq] at hfree
    cases hfree

/-- A linked test has the match type that an operation has recorded. -/
theorem exists_matchType?_of_linked (hops : ∀ op ∈ ops, op.Admissible)
    (ht : t ∈ (empty.run ops).tests) (hlink : t.linkedKey? = some key) :
    ∃ op ∈ ops, op.matchType? = some t.matchType := by
  cases origin_run ht with
  | registered hmem => cases (show t.linkedKey? = none from hops _ hmem).symm.trans hlink
  | linked _ l _ _ op hop hrecords heq => exact ⟨op, hop, heq ▸ hrecords⟩

/-! ### The report -/

theorem mem_tests_of_mem_testsFor (h : t ∈ r.testsFor key) : t ∈ r.tests := by
  obtain ⟨id, -, ht⟩ := List.mem_filterMap.mp h
  exact List.mem_of_getElem? ht

/-- The tests of an entity are those that are linked to it. -/
theorem Consistent.mem_testsFor_iff (h : r.Consistent) :
    t ∈ r.testsFor key ↔ t ∈ r.tests ∧ t.linkedKey? = some key := by
  rw [(h.testsFor_perm key).mem_iff, List.mem_filter, decide_eq_true_eq]

theorem mem_unmatchedTests_iff :
    t ∈ r.unmatchedTests ↔ t ∈ r.tests ∧ t.matchType = .unmatched ∧ t.category.expectsEntity := by
  simp [unmatchedTests, AcceptanceTest.isMatched]

theorem mem_unlinkedTests_iff :
    t ∈ r.unlinkedTests ↔ t ∈ r.tests ∧ t.linkedKey? = none ∧ t.category.expectsEntity := by
  simp [unlinkedTests]

/-- The report is that of the unlinked tests exactly if both fields tell the same of every test that
should belong to an entity. -/
theorem unmatchedTests_eq_iff (r : Registry) : r.unmatchedTests = r.unlinkedTests ↔
    ∀ t ∈ r.tests, t.category.expectsEntity →
      (t.matchType = .unmatched ↔ t.linkedKey? = none) := by
  constructor
  · intro h t ht hexpects
    have hmem : t ∈ r.unmatchedTests ↔ t ∈ r.unlinkedTests := by rw [h]
    simpa [mem_unmatchedTests_iff, mem_unlinkedTests_iff, ht, hexpects] using hmem
  · intro h
    refine List.filter_congr fun t ht => ?_
    cases hexpects : t.category.expectsEntity with
    | false => simp
    | true =>
      rw [Bool.eq_iff_iff]
      simpa [AcceptanceTest.isMatched] using h t ht hexpects

/-- What the report says of tests that have been registered with the match type of none. -/
structure ReportsUnmatched (ops : List Operation) (r : Registry) : Prop where
  /-- It holds the unlinked tests, and those that have been linked with the match type of none. -/
  report : r.unmatchedTests = r.tests.filter fun t =>
    (t.linkedKey? = none ∨ t.matchType = .unmatched) ∧ t.category.expectsEntity
  /-- It is that of the unlinked tests exactly if it holds no test of an entity. -/
  eq_iff : r.unmatchedTests = r.unlinkedTests ↔
    ∀ key, ∀ t ∈ r.testsFor key, t ∉ r.unmatchedTests
  /-- So it is if no operation asks for the match type of none. -/
  eq_of_matchTypes : (∀ op ∈ ops, op.matchType? ≠ some .unmatched) →
    r.unmatchedTests = r.unlinkedTests

theorem reportsUnmatched_run (hops : ∀ op ∈ ops, op.Admissible)
    (hnew : ∀ t, .registerTest t ∈ ops → t.matchType = .unmatched) :
    ReportsUnmatched ops (empty.run ops) := by
  have hconsistent : (empty.run ops).Consistent := Reachable.consistent ⟨ops, hops, rfl⟩
  have hfree : ∀ t ∈ (empty.run ops).tests, t.linkedKey? = none → t.matchType = .unmatched :=
    fun t ht hnone => hnew t (registerTest_mem_of_unlinked ht hnone)
  refine ⟨List.filter_congr fun t ht => ?_, ⟨fun h key t ht hreported => ?_, fun h => ?_⟩,
    fun h => (unmatchedTests_eq_iff _).mpr fun t ht _ => ⟨fun hunmatched => ?_, hfree t ht⟩⟩
  · rw [Bool.eq_iff_iff]
    simp [AcceptanceTest.isMatched, or_iff_right_of_imp (hfree t ht)]
  · rw [h, mem_unlinkedTests_iff, (hconsistent.mem_testsFor_iff.mp ht).2] at hreported
    exact absurd hreported.2.1 nofun
  · refine (unmatchedTests_eq_iff _).mpr fun t ht hexpects => ⟨fun hunmatched => ?_, hfree t ht⟩
    refine Option.eq_none_iff_forall_ne_some.mpr fun key hkey => ?_
    exact h key t (hconsistent.mem_testsFor_iff.mpr ⟨ht, hkey⟩)
      (mem_unmatchedTests_iff.mpr ⟨ht, hunmatched, hexpects⟩)
  · refine Option.eq_none_iff_forall_ne_some.mpr fun key hkey => ?_
    obtain ⟨op, hop, hrecords⟩ := exists_matchType?_of_linked hops ht hkey
    exact h op hop (hunmatched ▸ hrecords)

/-- The report is that of the unlinked tests exactly if both fields tell the same. An unlinked test
has the match type that it was registered with, and a test of an entity one that an operation has
asked for, by which alone it is reported or not. -/
theorem unmatchedTests_eq_unlinkedTests_iff (hr : empty.run ops = r)
    (hops : ∀ op ∈ ops, op.Admissible) :
    (r.unmatchedTests = r.unlinkedTests ↔ ∀ t ∈ r.tests, t.category.expectsEntity →
      (t.matchType = .unmatched ↔ t.linkedKey? = none)) ∧
    (∀ t ∈ r.tests, t.linkedKey? = none → .registerTest t ∈ ops) ∧
    (∀ key, ∀ t ∈ r.testsFor key, (∃ op ∈ ops, op.matchType? = some t.matchType) ∧
      (t ∈ r.unmatchedTests ↔ t.matchType = .unmatched ∧ t.category.expectsEntity)) ∧
    ((∀ t, .registerTest t ∈ ops → t.matchType = .unmatched) → ReportsUnmatched ops r) := by
  subst hr
  have hconsistent : (empty.run ops).Consistent := Reachable.consistent ⟨ops, hops, rfl⟩
  refine ⟨unmatchedTests_eq_iff _, fun t => registerTest_mem_of_unlinked, fun key t ht => ?_,
    reportsUnmatched_run hops⟩
  obtain ⟨hmem, hkey⟩ := hconsistent.mem_testsFor_iff.mp ht
  refine ⟨exists_matchType?_of_linked hops hmem hkey, ?_⟩
  rw [mem_unmatchedTests_iff, and_iff_right hmem]

/-- A test without a link, with this match type. -/
def unlinkedTest (name : String) (matchType : MatchType) : AcceptanceTest :=
  ⟨name, .unknown, [], .entity, false, false, false, false, [], "resource.Test", matchType, 1, none⟩

/-- One test is linked, and what is recorded says that it is matched with nothing. Another one says
that it is matched, and is not linked. -/
def matchTypesAmiss : List Operation :=
  [.registerEntity ⟨⟨.resource, "widget"⟩, .unknown, [], false⟩,
   .registerTest (unlinkedTest "TestAccWidget_basic" .unmatched),
   .registerTest (unlinkedTest "TestAccGadget_basic" .functionName),
   .link 0 ⟨.resource, "widget"⟩ .unmatched 1]

/-- The first is reported, and the second is not. -/
theorem linked_test_reported : (∀ op ∈ matchTypesAmiss, op.Admissible) ∧
    (∃ t ∈ (empty.run matchTypesAmiss).testsFor ⟨.resource, "widget"⟩,
      t ∈ (empty.run matchTypesAmiss).unmatchedTests) ∧
    unlinkedTest "TestAccGadget_basic" .functionName ∈ (empty.run matchTypesAmiss).unlinkedTests ∧
    unlinkedTest "TestAccGadget_basic" .functionName ∉
      (empty.run matchTypesAmiss).unmatchedTests ∧
    (empty.run matchTypesAmiss).unmatchedTests ≠ (empty.run matchTypesAmiss).unlinkedTests := by
  have hops : ∀ op ∈ matchTypesAmiss, op.Admissible := by
    simp [matchTypesAmiss, unlinkedTest, Operation.Admissible]
  obtain ⟨hiff, -, hreported, -⟩ := unmatchedTests_eq_unlinkedTests_iff rfl hops
  obtain ⟨t, ht, hunmatched, hexpects⟩ :
      ∃ t ∈ (empty.run matchTypesAmiss).testsFor ⟨.resource, "widget"⟩,
        t.matchType = .unmatched ∧ t.category.expectsEntity :=
    ⟨_, List.mem_cons_self .., rfl, rfl⟩
  have hmem : unlinkedTest "TestAccGadget_basic" .functionName ∈
      (empty.run matchTypesAmiss).tests := by decide
  refine ⟨hops, ⟨t, ht, (hreported _ t ht).2.mpr ⟨hunmatched, hexpects⟩⟩, by decide, by decide,
    fun heq => ?_⟩
  cases (hiff.mp heq _ hmem rfl).mpr rfl

end ProviderCoverage.Registry

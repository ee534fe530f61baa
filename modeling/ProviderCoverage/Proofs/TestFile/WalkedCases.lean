import ProviderCoverage.Proofs.Go.Lines
import ProviderCoverage.Proofs.Lists
import ProviderCoverage.TestFile.Tests

/-! The test cases of a test. A `TestCase` literal reaches a call as an argument, or through a
variable that was last given it before the call. The walk over the calls of a body meets every
literal at most once, but it takes a variable for the first test case that is assigned to it in the
body, wherever the call is. So a literal that reaches calls through variables only is missed if each
of them was given another test case first, as in two subtests that use one name. -/

namespace ProviderCoverage

open Go Node

/-! ### What a variable holds at a place of the source -/

namespace Go.Node

/-- The names on the left of a statement with `=` or `:=`, with their values. Of `x, ok = f()` only
the first name has one. -/
def given : Node → List (Node × Option Node)
  | branch .assignment [left, op, right] =>
    if op.text = "=" then left.parts.mapIdx fun i n => (n, right.parts[i]?) else []
  | branch .definition [left, _, right] => left.parts.mapIdx fun i n => (n, right.parts[i]?)
  | _ => []

/-- The nodes of `body` that end before `n` begins. The place of `n` is known by its tokens. -/
def endedBefore (body n : Node) : List Node :=
  (body.preorder.takeWhile (· ≠ n)).filter (n ∉ ·.preorder)

/-- What the last statement with `=` or `:=` before `n` gives to a name. -/
def latestValue? (body n : Node) (name : String) : Option Node :=
  ((((body.endedBefore n).flatMap given).filter (·.1.simpleName? == some name)).getLast?).bind (·.2)

variable {body n left right : Node} {name : String}

theorem mem_zip_of_mem_mapIdx {ls rs : List Node}
    (h : (left, some right) ∈ ls.mapIdx fun i n => (n, rs[i]?)) : (left, right) ∈ ls.zip rs := by
  obtain ⟨i, hi, heq⟩ := List.mem_mapIdx.mp h
  obtain ⟨hleft, hright⟩ := Prod.mk.inj heq
  refine List.mem_of_getElem? (i := i) (List.getElem?_zip_eq_some.mpr ⟨?_, hright⟩)
  rw [← hleft, List.getElem?_eq_getElem hi]

theorem mem_assignedPairs_of_given (h : (left, some right) ∈ n.given) :
    (left, right) ∈ n.assignedPairs := by
  unfold given at h
  split at h
  · split at h
    · exact mem_zip_of_mem_mapIdx h
    · cases h
  · exact mem_zip_of_mem_mapIdx h
  · cases h

theorem mem_assignments_of_latestValue? (h : body.latestValue? n name = some right) :
    ∃ left, left.simpleName? = some name ∧ (left, right) ∈ body.assignments := by
  obtain ⟨⟨left, value⟩, hlast, rfl⟩ := Option.bind_eq_some_iff.mp h
  obtain ⟨hmem, hname⟩ := List.mem_filter.mp (List.mem_of_getLast? hlast)
  obtain ⟨statement, hstatement, hgiven⟩ := List.mem_flatMap.mp hmem
  have hbody : statement ∈ body.preorder :=
    (List.takeWhile_sublist _).mem (List.mem_filter.mp hstatement).1
  exact ⟨left, beq_iff_eq.mp hname,
    List.mem_flatMap.mpr ⟨statement, hbody, mem_assignedPairs_of_given hgiven⟩⟩

end Go.Node

namespace TestScope

/-- The arguments of the calls of a body, in order. -/
def arguments (body : Node) : List Node :=
  body.calls.flatMap (·.callArguments)

/-- What the walk over a body meets, each test case once. -/
def walk (scope : TestScope) (body : Node) : List Handed :=
  distinctCases [] (scope.handed body)

def Handed.case? : Handed → Option Node
  | .testCase literal => some literal
  | .steps _ => none

def testCases (hs : List Handed) : List Node :=
  hs.filterMap Handed.case?

/-- The test case is handed to a call as it is, or by a variable that was last given it. -/
def Reaches (scope : TestScope) (body literal : Node) : Prop :=
  ∃ a ∈ arguments body,
    scope.testCase? a = some literal ∨
    ∃ name right, a.unparenthesized.simpleName? = some name ∧
      body.latestValue? a name = some right ∧ scope.testCase? right = some literal

/-- The test case is handed to a call as it is, or is the first one of the body that is assigned to
a name that is handed to a call. -/
def Foremost (scope : TestScope) (body literal : Node) : Prop :=
  ∃ a ∈ arguments body,
    scope.testCase? a = some literal ∨
    ∃ name before after, a.unparenthesized.simpleName? = some name ∧
      scope.bindings body = before ++ (name, literal) :: after ∧ ∀ b ∈ before, b.1 ≠ name

/-- No name is assigned two test cases. -/
def Unambiguous (scope : TestScope) (body : Node) : Prop :=
  ∀ name c d, (name, c) ∈ scope.bindings body → (name, d) ∈ scope.bindings body → c = d

/-- The test case is met exactly once, and all it holds shows in the test. -/
structure WalkedOnce (scope : TestScope) (body : Node) (test : AcceptanceTest) (literal : Node) :
    Prop where
  once : (testCases (scope.walk body)).count literal = 1
  steps : ∃ before after, scope.walk body = before ++ .testCase literal :: after ∧
    test.steps = before.flatMap scope.stepsOf ++ scope.stepsOf (.testCase literal)
      ++ after.flatMap scope.stepsOf
  checkDestroy : hasField "CheckDestroy" (.testCase literal) = true → test.hasCheckDestroy = true
  preCheck : hasField "PreCheck" (.testCase literal) = true → test.hasPreCheck = true

variable {scope : TestScope} {body literal n : Node} {name : String} {hs : List Handed}
  {seen : List Node}

/-! ### Every test case at most once -/

theorem mem_testCases : n ∈ testCases hs ↔ .testCase n ∈ hs := by
  rw [testCases, List.mem_filterMap]
  constructor
  · rintro ⟨_ | _, hmem, heq⟩
    · cases heq
      exact hmem
    · cases heq
  · exact fun hmem => ⟨_, hmem, rfl⟩

theorem mem_testCases_distinctCases :
    n ∈ testCases (distinctCases seen hs) ↔ n ∈ testCases hs ∧ n ∉ seen := by
  induction hs generalizing seen with
  | nil => simp [testCases, distinctCases]
  | cons h rest ih =>
    cases h with
    | steps m => exact ih
    | testCase m =>
      have hcons : n ∈ testCases (.testCase m :: rest) ↔ n = m ∨ n ∈ testCases rest :=
        List.mem_cons
      rw [hcons, distinctCases]
      split
      · next hm =>
        -- Who is dropped was seen before.
        rw [ih]
        constructor
        · exact fun ⟨hn, hseen⟩ => ⟨.inr hn, hseen⟩
        · rintro ⟨rfl | hn, hseen⟩
          · exact absurd hm hseen
          · exact ⟨hn, hseen⟩
      · next hm =>
        change n ∈ m :: testCases (distinctCases (m :: seen) rest) ↔ _
        rw [List.mem_cons, ih, List.mem_cons]
        by_cases hnm : n = m
        · subst hnm
          simp [hm]
        · simp [hnm]

theorem nodup_testCases_distinctCases : (testCases (distinctCases seen hs)).Nodup := by
  induction hs generalizing seen with
  | nil => exact List.nodup_nil
  | cons h rest ih =>
    cases h with
    | steps m => exact ih
    | testCase m =>
      rw [distinctCases]
      split
      · exact ih
      · have hfresh : m ∉ testCases (distinctCases (m :: seen) rest) := fun h =>
          (mem_testCases_distinctCases.mp h).2 List.mem_cons_self
        exact List.nodup_cons.mpr ⟨hfresh, ih⟩

/-! ### Which test cases the walk meets -/

/-- A name is no literal. -/
theorem testCase?_eq_none (h : n.unparenthesized.simpleName? = some name) :
    scope.testCase? n = none := by
  have hliteral : n.composite? = none := by
    rw [composite?]
    cases hn : n.unparenthesized with
    | leaf t => rfl
    | branch s ns => simp [hn, simpleName?] at h
  rw [testCase?, hliteral, Option.bind_none]

theorem argumentCase?_eq_some_iff {bindings : List (String × Node)} {a : Node} :
    scope.argumentCase? bindings a = some literal ↔
      scope.testCase? a = some literal ∨
      ∃ name, a.unparenthesized.simpleName? = some name ∧ bindings.lookup name = some literal := by
  rw [argumentCase?]
  cases hcase : scope.testCase? a with
  | none => simp [Option.bind_eq_some_iff]
  | some c =>
    refine ⟨.inl, fun h => ?_⟩
    rcases h with h | ⟨name, hname, -⟩
    · exact h
    · rw [testCase?_eq_none hname] at hcase
      cases hcase

/-- The walk meets the test cases that the arguments stand for. -/
theorem mem_walk : literal ∈ testCases (scope.walk body) ↔
    ∃ a ∈ arguments body, scope.argumentCase? (scope.bindings body) a = some literal := by
  rw [walk, mem_testCases_distinctCases, and_iff_left List.not_mem_nil, mem_testCases, handed,
    List.mem_filterMap]
  refine exists_congr fun a => and_congr_right fun _ => ?_
  rw [handed?]
  cases scope.argumentCase? (scope.bindings body) a <;> simp

/-- Of the test cases assigned to a name the walk takes the first. -/
theorem mem_walk_iff_foremost :
    literal ∈ testCases (scope.walk body) ↔ scope.Foremost body literal := by
  rw [mem_walk]
  refine exists_congr fun a => and_congr_right fun _ => argumentCase?_eq_some_iff.trans
    (or_congr_right (exists_congr fun name => ?_))
  rw [List.lookup_eq_some_iff]
  constructor
  · rintro ⟨hname, before, after, hsplit, hfirst⟩
    exact ⟨before, after, hname, hsplit, fun b hb => (bne_iff_ne.mp (hfirst b hb)).symm⟩
  · rintro ⟨before, after, hname, hsplit, hfirst⟩
    exact ⟨hname, before, after, hsplit, fun b hb => bne_iff_ne.mpr (hfirst b hb).symm⟩

theorem mem_bindings_of_latestValue? {a right : Node} (h : body.latestValue? a name = some right)
    (hcase : scope.testCase? right = some literal) : (name, literal) ∈ scope.bindings body := by
  obtain ⟨left, hleft, hmem⟩ := mem_assignments_of_latestValue? h
  refine List.mem_filterMap.mpr ⟨(left, right), hmem, ?_⟩
  simp only [hleft, hcase]

/-- An argument by which a test case reaches its call stands for that test case, or for another one
that is assigned to the same name. -/
theorem Reaches.exists_argumentCase (h : scope.Reaches body literal) :
    ∃ a ∈ arguments body, ∃ met, scope.argumentCase? (scope.bindings body) a = some met ∧
      (met = literal ∨
        ∃ name, (name, met) ∈ scope.bindings body ∧ (name, literal) ∈ scope.bindings body) := by
  obtain ⟨a, ha, hcase | ⟨name, right, hname, hlatest, hcase⟩⟩ := h
  · exact ⟨a, ha, literal, argumentCase?_eq_some_iff.mpr (.inl hcase), .inl rfl⟩
  · have hbound := mem_bindings_of_latestValue? hlatest hcase
    cases hlookup : (scope.bindings body).lookup name with
    | none => exact absurd (List.mem_map_of_mem hbound) (Lookup.eq_none_iff_notMem.mp hlookup)
    | some met =>
      exact ⟨a, ha, met, argumentCase?_eq_some_iff.mpr (.inr ⟨name, hname, hlookup⟩),
        .inr ⟨name, Lookup.mem_of_eq_some hlookup, hbound⟩⟩

/-- Where no name is assigned two test cases, the walk meets all that reach a call. -/
theorem Reaches.mem_walk (h : scope.Reaches body literal) (hone : scope.Unambiguous body) :
    literal ∈ testCases (scope.walk body) := by
  obtain ⟨a, ha, met, hmet, hsame⟩ := h.exists_argumentCase
  have heq : met = literal := by
    rcases hsame with heq | ⟨name, hbound, hbound'⟩
    · exact heq
    · exact hone name met literal hbound hbound'
  exact TestScope.mem_walk.mpr ⟨a, ha, heq ▸ hmet⟩

end TestScope

/-! ### What the test shows of them -/

namespace TestReader

open TestScope

variable {r : TestReader} {f : SourceFile} {g : Function} {scope : TestScope} {body literal : Node}

theorem walkedOnce_ofBody {name helper : String} {location : Location}
    (h : literal ∈ testCases (scope.walk body)) :
    scope.WalkedOnce body (ofBody scope name location helper body) literal := by
  have hmem : Handed.testCase literal ∈ scope.walk body := mem_testCases.mp h
  constructor
  · exact List.count_eq_one_of_mem nodup_testCases_distinctCases h
  · obtain ⟨before, after, hsplit⟩ := List.append_of_mem hmem
    refine ⟨before, after, hsplit, ?_⟩
    calc (scope.walk body).flatMap scope.stepsOf
      _ = (before ++ .testCase literal :: after).flatMap scope.stepsOf := by rw [hsplit]
      _ = _ := by rw [List.flatMap_append, List.flatMap_cons, List.append_assoc]
  · exact fun hfield => List.any_eq_true.mpr ⟨_, hmem, hfield⟩
  · exact fun hfield => List.any_eq_true.mpr ⟨_, hmem, hfield⟩

/-- A body that is handed a test case reaches the harness. -/
theorem exists_entryPoint? (h : scope.Reaches body literal) :
    ∃ helper, r.entryPoint? scope body = some helper := by
  obtain ⟨a, ha, met, hmet, -⟩ := h.exists_argumentCase
  obtain ⟨call, hcall, hargument⟩ := List.mem_flatMap.mp ha
  rw [← Option.isSome_iff_exists, entryPoint?, List.findSome?_isSome_iff]
  refine ⟨call, hcall, ?_⟩
  have hany : call.callArguments.any
      (fun a => (scope.argumentCase? (scope.bindings body) a).isSome) = true :=
    List.any_eq_true.mpr ⟨a, hargument, by rw [hmet]; rfl⟩
  simp only [hany, Bool.or_true, if_true, Option.isSome_some]

/-- A function with a body that a test case reaches gives a test, if its name is that of one. The
test case is walked exactly once and shows in the test if it is an argument itself or the first test
case that is assigned to the name of an argument; otherwise it is not walked at all. So none is
missed where no name is assigned two test cases. -/
theorem reaching_case_walked (hg : g ∈ f.functions) (hreceiver : g.receiver = none)
    (hname : Text.begins g.name "Test" = true)
    (hadmits : r.settings.admitsTestName g.name = true) (hbody : g.body = some body)
    (hreaches : (ofFile f).Reaches body literal) :
    ∃ test ∈ r.tests f, test.name = g.name ∧ test.location = f.location g.node ∧
      ((ofFile f).Foremost body literal → (ofFile f).WalkedOnce body test literal) ∧
      (¬ (ofFile f).Foremost body literal → literal ∉ testCases ((ofFile f).walk body)) ∧
      ((ofFile f).Unambiguous body → (ofFile f).WalkedOnce body test literal) := by
  obtain ⟨helper, hhelper⟩ := exists_entryPoint? (r := r) hreaches
  have htest : r.ofFunction? f (ofFile f) g =
      some (ofBody (ofFile f) g.name (f.location g.node) helper body) := by
    rw [ofFunction?, hreceiver, hname, hadmits, hbody]
    simp [hhelper]
  have hwalked (h : literal ∈ testCases ((ofFile f).walk body)) : (ofFile f).WalkedOnce body
      (ofBody (ofFile f) g.name (f.location g.node) helper body) literal := walkedOnce_ofBody h
  exact ⟨_, List.mem_filterMap.mpr ⟨g, hg, htest⟩, rfl, rfl,
    fun h => hwalked (mem_walk_iff_foremost.mpr h), mt mem_walk_iff_foremost.mp,
    fun hone => hwalked (hreaches.mem_walk hone)⟩

/-! ### A test case that is missed -/

/-- A variable is handed to two calls, and is given another test case in between. -/
def reassigningFile : SourceFile :=
  .ofLines "widget_test.go"
    ["package provider",
     "",
     "import (",
     "\t\"github.com/hashicorp/terraform-plugin-testing/helper/resource\"",
     ")",
     "",
     "func TestAccWidget_basic(t *testing.T) \x7b",
     "\ttc := resource.TestCase\x7b",
     "\t\tSteps: []resource.TestStep\x7b",
     "\t\t\t\x7bRefreshState: true\x7d,",
     "\t\t\x7d,",
     "\t\x7d",
     "\tresource.Test(t, tc)",
     "\ttc = resource.TestCase\x7b",
     "\t\tCheckDestroy: testAccCheckWidgetDestroy,",
     "\t\tSteps: []resource.TestStep\x7b",
     "\t\t\t\x7bImportState: true\x7d,",
     "\t\t\x7d,",
     "\t\x7d",
     "\tresource.Test(t, tc)",
     "\x7d"] true

theorem reassigned_case_not_walked : ∃ g ∈ reassigningFile.functions, ∃ body literal,
    g.body = some body ∧ (ofFile reassigningFile).Reaches body literal ∧
    hasField "CheckDestroy" (.testCase literal) = true ∧
    ∃ test ∈ tests ⟨.default, []⟩ reassigningFile, test.name = "TestAccWidget_basic" ∧
      literal ∉ testCases ((ofFile reassigningFile).walk body) ∧
      test.hasCheckDestroy = false ∧ test.steps.length = 1 := by
  have hfile : reassigningFile.functions.any (fun g =>
        g.name = "TestAccWidget_basic" ∧ g.receiver = none ∧ g.body.any fun body =>
          (arguments body).any fun a => a.unparenthesized.simpleName? = some "tc" ∧
            (body.latestValue? a "tc").any fun right =>
              ((ofFile reassigningFile).testCase? right).any fun literal =>
                hasField "CheckDestroy" (.testCase literal) = true ∧
                literal ∉ testCases ((ofFile reassigningFile).walk body)) = true ∧
      (tests ⟨.default, []⟩ reassigningFile).all (fun test =>
        test.hasCheckDestroy = false ∧ test.steps.length = 1) = true := by
    rw [reassigningFile, SourceFile.ofLines_eq]
    repeat rw [SourceFile.textOfLines_cons]
    decide +kernel
  obtain ⟨hreassigned, htests⟩ := hfile
  simp only [List.any_eq_true, Option.any_eq_true, decide_eq_true_eq, List.all_eq_true]
    at hreassigned htests
  obtain ⟨g, hg, hname, hreceiver, body, hbody, a, ha, htc, right, hlatest, literal, hcase, hfield,
    hunwalked⟩ := hreassigned
  have hreaches : (ofFile reassigningFile).Reaches body literal :=
    ⟨a, ha, .inr ⟨"tc", right, htc, hlatest, hcase⟩⟩
  obtain ⟨test, htest, htestName, -, -, hmissed, -⟩ :=
    reaching_case_walked (r := ⟨.default, []⟩) hg hreceiver (by rw [hname]; decide)
      (by rw [hname]; decide) hbody hreaches
  exact ⟨g, hg, body, literal, hbody, hreaches, hfield, test, htest, htestName.trans hname,
    hmissed (mt mem_walk_iff_foremost.mpr hunwalked), htests test htest⟩

end TestReader
end ProviderCoverage

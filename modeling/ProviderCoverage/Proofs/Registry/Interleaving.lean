import ProviderCoverage.Proofs.Registry.Growth

/-! Linking by a bare name is two steps, and other callers can come between. That makes no
difference (`linkByName_atomic`): every caller gets the answer, and the registry becomes what it
would have become, if the two steps had been one at some point between the operations of the others.
Only the order of the tests of an entity can differ. The point is at the start if the name is
unknown or the test gets its link, and at the end if the test has got another one meanwhile. -/

namespace ProviderCoverage.Registry

/-- The two registries differ in nothing but the order of the tests of each entity. -/
structure SameUpToOrder (r r' : Registry) : Prop where
  entities : r'.entities = r.entities
  tests : r'.tests = r.tests
  associated : ∀ key, key ∈ r'.associations.map (·.1) ↔ key ∈ r.associations.map (·.1)
  linkedIds : ∀ key, (r'.linkedIds key).Perm (r.linkedIds key)
  sweeperFiles : r'.sweeperFiles = r.sweeperFiles

variable {r r' : Registry} {id : TestId} {key : EntityKey} {t : AcceptanceTest} {l : Link}
  {op : Operation} {ops : List Operation} {matchType : MatchType} {confidence : Rat}

namespace SameUpToOrder

theorem refl (r : Registry) : r.SameUpToOrder r :=
  ⟨rfl, rfl, fun _ => .rfl, fun _ => .rfl, rfl⟩

theorem keys_eq (h : r.SameUpToOrder r') : r'.keys = r.keys :=
  congrArg (List.map Entity.key) h.entities

theorem contains_eq (h : r.SameUpToOrder r') (key : EntityKey) : r'.contains key = r.contains key :=
  congrArg (fun es => (es.find? fun e => e.key = key).isSome) h.entities

theorem resolve?_eq (h : r.SameUpToOrder r') (name : String) : r'.resolve? name = r.resolve? name :=
  congrArg (List.find? · _) (funext h.contains_eq)

theorem test?_eq (h : r.SameUpToOrder r') (id : TestId) : r'.test? id = r.test? id :=
  congrArg (·[id]?) h.tests

end SameUpToOrder

/-! ### A link that comes before some operations instead of after them -/

theorem SameUpToOrder.length_tests (h : (r.recordLink id t l).SameUpToOrder r') :
    r'.tests.length = r.tests.length :=
  (congrArg List.length h.tests).trans List.length_set

/-- Two tests can be linked in either order. -/
theorem SameUpToOrder.recordLink {i : TestId} {x : AcceptanceTest} {m : Link} (hi : i ≠ id)
    (h : (r.recordLink id t l).SameUpToOrder r') :
    ((r.recordLink i x m).recordLink id t l).SameUpToOrder (r'.recordLink i x m) where
  entities := h.entities
  tests := by
    change r'.tests.set i _ = (r.tests.set i _).set id _
    rw [h.tests, List.set_comm _ _ hi]
    rfl
  associated := fun key => by
    have hkey := h.associated key
    simp only [Registry.recordLink, mem_keys_associate] at hkey ⊢
    rw [hkey, or_left_comm]
  linkedIds := fun key => by
    have hkey := h.linkedIds key
    simp only [linkedIds_recordLink] at hkey ⊢
    refine (hkey.append_right _).trans ?_
    rw [List.append_assoc, List.append_assoc]
    exact List.perm_append_comm.append_left _
  sweeperFiles := h.sweeperFiles

section
variable (h : (r.recordLink id t l).SameUpToOrder r') (ht : r.test? id = some t)
  (hlink : t.linkedKey? = none)
include h ht hlink

/-- A link that leaves the test alone has the same outcome as without the link of the test. -/
theorem link_ahead (i : TestId) (key : EntityKey) (matchType : MatchType) (confidence : Rat)
    (hkept : (r.link i key matchType confidence).1.test? id = some t) :
    (r'.link i key matchType confidence).2 = (r.link i key matchType confidence).2 ∧
      ((r.link i key matchType confidence).1.recordLink id t l).SameUpToOrder
        (r'.link i key matchType confidence).1 := by
  have hkeys : r'.keys = r.keys := h.keys_eq
  have hother : i ≠ id → r'.test? i = r.test? i := by
    intro hi
    rw [h.test?_eq, test?_recordLink ht, if_neg hi]
  obtain ⟨e, hrefusal, he⟩ | ⟨x, hkey, hx, hfree, hok⟩ := r.link_cases i key matchType confidence
  · have hrefusal' : r'.Refusal i key e := by
      cases hrefusal with
      | unknownEntity hkey => exact .unknownEntity (hkeys ▸ hkey)
      | unknownTest hkey hid =>
        refine .unknownTest (hkeys ▸ hkey) ?_
        rw [h.length_tests]
        exact hid
      | alreadyLinked hkey x existing hx hexisting =>
        have hi : i ≠ id := by
          rintro rfl
          cases ht.symm.trans hx
          cases hlink.symm.trans hexisting
        exact .alreadyLinked (hkeys ▸ hkey) x existing ((hother hi).trans hx) hexisting
    rw [he, link_of_refusal hrefusal']
    exact ⟨rfl, h⟩
  · have hi : i ≠ id := by
      rintro rfl
      rw [hok, test?_recordLink hx, if_pos rfl] at hkept
      cases hkept
      cases hlink
    rw [hok, link_of_unlinked (hkeys ▸ hkey) ((hother hi).trans hx) hfree]
    exact ⟨rfl, h.recordLink hi⟩

/-- An operation that leaves the test alone does the same as without the link of the test. -/
theorem apply_ahead (hkept : (r.apply op).1.test? id = some t) :
    (r'.apply op).2 = (r.apply op).2 ∧
      ((r.apply op).1.recordLink id t l).SameUpToOrder (r'.apply op).1 := by
  cases op with
  | registerEntity e =>
    have hcontains : r'.contains e.key = r.contains e.key := h.contains_eq e.key
    simp only [apply, registerEntity, hcontains]
    cases r.contains e.key with
    | true => exact ⟨rfl, h⟩
    | false =>
      refine ⟨rfl, congrArg e.insertSorted h.entities, h.tests, h.associated, h.linkedIds,
        h.sweeperFiles⟩
  | registerTest x =>
    have hid : id < r.tests.length := (List.getElem?_eq_some_iff.mp ht).1
    refine ⟨congrArg Answer.test h.length_tests, h.entities, ?_, h.associated, h.linkedIds,
      h.sweeperFiles⟩
    change r'.tests ++ [x] = (r.tests ++ [x]).set id _
    rw [h.tests, List.set_append_left _ _ hid]
    rfl
  | link i key matchType confidence =>
    obtain ⟨houtcome, hsame⟩ := link_ahead h ht hlink i key matchType confidence hkept
    exact ⟨congrArg (Answer.ofOutcome _) houtcome, hsame⟩
  | linkByName i name matchType confidence =>
    have hresolve : r'.resolve? name = r.resolve? name := h.resolve?_eq name
    rw [apply_linkByName] at hkept ⊢
    rw [apply_linkByName, hresolve]
    cases hfound : r.resolve? name with
    | none => exact ⟨rfl, h⟩
    | some key =>
      rw [hfound] at hkept
      obtain ⟨houtcome, hsame⟩ := link_ahead h ht hlink i key matchType confidence hkept
      exact ⟨congrArg (Answer.ofOutcome _) houtcome, hsame⟩
  | registerSweeperFile file =>
    exact ⟨rfl, h.entities, h.tests, h.associated, h.linkedIds,
      congrArg (NameSet.insert file) h.sweeperFiles⟩

end

/-- If the test has no link after some operations, a link after them can as well come before. -/
theorem run_ahead (h : (r.recordLink id t l).SameUpToOrder r') (ht : r.test? id = some t)
    (hlink : t.linkedKey? = none) (hkept : (r.run ops).test? id = some t) :
    r'.answers ops = r.answers ops ∧ ((r.run ops).recordLink id t l).SameUpToOrder (r'.run ops) := by
  induction ops generalizing r r' with
  | nil => exact ⟨rfl, h⟩
  | cons op ops ih =>
    -- What has been linked by then would be linked at the end.
    have hnext : (r.apply op).1.test? id = some t := by
      rcases (Extends.of_effect (r.effect_apply op)).test id t ht with hnext | ⟨-, l, hnext⟩
      · exact hnext
      · have heq : t = t.linkedBy l := (Extends.run _ ops).eq_of_unlinked hnext hkept hlink
        rw [heq] at hlink
        cases hlink
    obtain ⟨hanswer, hsame⟩ := apply_ahead h ht hlink hnext
    obtain ⟨hanswers, hsame⟩ := ih hsame hnext hkept
    exact ⟨congrArg₂ List.cons hanswer hanswers, hsame⟩

/-! ### Linking by a bare name -/

theorem answers_append (r : Registry) (before after : List Operation) :
    r.answers (before ++ after) = r.answers before ++ (r.run before).answers after := by
  induction before generalizing r with
  | nil => rfl
  | cons op before ih => exact congrArg ((r.apply op).2 :: ·) (ih _)

theorem run_append (r : Registry) (before after : List Operation) :
    r.run (before ++ after) = (r.run before).run after :=
  List.foldl_append

theorem mem_keys_of_resolve? {name : String} (h : r.resolve? name = some key) : key ∈ r.keys :=
  contains_iff.mp (List.find?_some h)

/-- A name that leads to a key still leads to one later. -/
theorem exists_resolve?_run {name : String} (h : r.resolve? name = some key)
    (ops : List Operation) : ∃ later, (r.run ops).resolve? name = some later := by
  rw [← Option.isSome_iff_exists, resolve?, List.find?_isSome]
  refine ⟨key, List.mem_of_find?_eq_some h, ?_⟩
  exact contains_iff.mpr (mem_keys_run_of_mem (mem_keys_of_resolve? h))

theorem linkFound_of_link {found : Option EntityKey} {name : String} (hfound : found = some key)
    (h : r.link id key matchType confidence = (r', .ok ())) :
    r.linkFound found id name matchType confidence = (r', .resolved key) := by
  rw [hfound, linkFound, h]
  rfl

theorem linkFound_of_refusal {found : Option EntityKey} {name : String} {e : RegistryError}
    (hfound : found = some key) (h : r.Refusal id key e) :
    r.linkFound found id name matchType confidence = (r, .refused e) := by
  rw [hfound, linkFound, link_of_refusal h]
  rfl

/-- Linking by a bare name does with others between its steps what it does before all of them. -/
structure LinksBefore (r : Registry) (others : List Operation) (id : TestId) (name : String)
    (matchType : MatchType) (confidence : Rat) : Prop where
  answer : (r.linkByNameAround others id name matchType confidence).2 =
    (r.apply (.linkByName id name matchType confidence)).2
  answers : (r.apply (.linkByName id name matchType confidence)).1.answers others = r.answers others
  registry : (r.linkByNameAround others id name matchType confidence).1.SameUpToOrder
    ((r.apply (.linkByName id name matchType confidence)).1.run others)

variable {name : String} {others : List Operation}

theorem linksBefore_of_unknown (h : r.resolve? name = none) :
    r.LinksBefore others id name matchType confidence := by
  have hcall : r.apply (.linkByName id name matchType confidence) =
      (r, .refused (.unknownEntity ⟨.resource, name⟩)) := by
    rw [apply_linkByName, h]
    rfl
  have haround : r.linkByNameAround others id name matchType confidence =
      (r.run others, .refused (.unknownEntity ⟨.resource, name⟩)) := by
    rw [linkByNameAround, h]
    rfl
  constructor
  · rw [haround, hcall]
  · rw [hcall]
  · rw [haround, hcall]
    exact .refl _

theorem linksBefore_of_unlinked (hfound : r.resolve? name = some key)
    (ht : r.test? id = some t) (hlink : t.linkedKey? = none)
    (hkept : (r.run others).test? id = some t) :
    r.LinksBefore others id name matchType confidence := by
  have hkey : key ∈ r.keys := mem_keys_of_resolve? hfound
  have hcall : r.apply (.linkByName id name matchType confidence) =
      (r.recordLink id t ⟨key, matchType, clampConfidence confidence⟩, .resolved key) := by
    rw [apply_linkByName]
    exact linkFound_of_link hfound (link_of_unlinked hkey ht hlink)
  have haround : r.linkByNameAround others id name matchType confidence =
      ((r.run others).recordLink id t ⟨key, matchType, clampConfidence confidence⟩,
        .resolved key) :=
    linkFound_of_link hfound (link_of_unlinked (mem_keys_run_of_mem hkey) hkept hlink)
  obtain ⟨hanswers, hsame⟩ := run_ahead (.refl _) ht hlink hkept
  constructor
  · rw [haround, hcall]
  · rw [hcall, hanswers]
  · rw [haround, hcall]
    exact hsame

/-- The name may lead to another key by then, which makes no difference as the test is linked. -/
theorem linkByNameAround_of_linked {existing : EntityKey} (hfound : r.resolve? name = some key)
    (ht : (r.run others).test? id = some t) (hlink : t.linkedKey? = some existing) :
    r.linkByNameAround others id name matchType confidence =
      (r.run others).apply (.linkByName id name matchType confidence) := by
  have hrefusal : ∀ k ∈ (r.run others).keys,
      (r.run others).Refusal id k (.alreadyLinked t.name existing) :=
    fun k hk => .alreadyLinked hk t existing ht hlink
  have hkey : key ∈ (r.run others).keys := mem_keys_run_of_mem (mem_keys_of_resolve? hfound)
  obtain ⟨later, hlater⟩ := exists_resolve?_run hfound others
  rw [linkByNameAround, linkFound_of_refusal hfound (hrefusal key hkey), apply_linkByName,
    linkFound_of_refusal hlater (hrefusal later (mem_keys_of_resolve? hlater))]

/-- There is a point between the operations of other callers at which linking by a bare name, as one
step, has the same answer, leaves the others theirs, and leads to the same registry up to the order
of the tests of each entity. -/
theorem linkByName_atomic (r : Registry) {id : TestId} (hid : id < r.tests.length) (name : String)
    (matchType : MatchType) (confidence : Rat) (others : List Operation) :
    ∃ before after, others = before ++ after ∧
      r.answers others = r.answers before ++ (r.run before).answers after ∧
      r.answers (before ++ .linkByName id name matchType confidence :: after) = r.answers before ++
        (r.linkByNameAround others id name matchType confidence).2 :: (r.run before).answers after ∧
      (r.linkByNameAround others id name matchType confidence).1.SameUpToOrder
        (r.run (before ++ .linkByName id name matchType confidence :: after)) := by
  have hstart (h : r.LinksBefore others id name matchType confidence) :
      r.answers (.linkByName id name matchType confidence :: others) =
        (r.linkByNameAround others id name matchType confidence).2 :: r.answers others := by
    rw [answers, h.answer, h.answers]
  cases hfound : r.resolve? name with
  | none =>
    have h : r.LinksBefore others id name matchType confidence := linksBefore_of_unknown hfound
    exact ⟨[], others, rfl, rfl, hstart h, h.registry⟩
  | some key =>
    obtain ⟨t, ht⟩ : ∃ t, r.test? id = some t := ⟨_, List.getElem?_eq_getElem hid⟩
    obtain ⟨t', ht'⟩ : ∃ t', (r.run others).test? id = some t' := by
      rcases (Extends.run r others).test id t ht with hkept | ⟨-, l, hlinked⟩
      · exact ⟨t, hkept⟩
      · exact ⟨_, hlinked⟩
    cases hlink : t'.linkedKey? with
    | none =>
      cases (Extends.run r others).eq_of_unlinked ht ht' hlink
      have h : r.LinksBefore others id name matchType confidence :=
        linksBefore_of_unlinked hfound ht hlink ht'
      exact ⟨[], others, rfl, rfl, hstart h, h.registry⟩
    | some l =>
      have heq : r.linkByNameAround others id name matchType confidence =
          (r.run others).apply (.linkByName id name matchType confidence) :=
        linkByNameAround_of_linked hfound ht' hlink
      refine ⟨others, [], (List.append_nil _).symm, (List.append_nil _).symm, ?_, ?_⟩
      · rw [answers_append, heq]
        rfl
      · rw [run_append, heq]
        exact .refl _

/-- A data source and two tests. -/
def sourceWithTests : List Operation :=
  [.registerEntity ⟨⟨.dataSource, "widget"⟩, .unknown, [], false⟩,
   .registerTest ⟨"TestAccWidget_basic", .unknown, [], .entity, false, false, false, false, [],
    "resource.Test", .unmatched, 0, none⟩,
   .registerTest ⟨"TestAccWidget_full", .unknown, [], .entity, false, false, false, false, [],
    "resource.Test", .unmatched, 0, none⟩]

/-- A resource of the same name comes, which is found first from then on, and the other test is
linked to the data source. -/
def resourceComes : List Operation :=
  [.registerEntity ⟨⟨.resource, "widget"⟩, .unknown, [], false⟩,
   .link 1 ⟨.dataSource, "widget"⟩ .functionName 1]

/-- The key is the one that was found first, also in one step. The order of the two tests differs.
-/
theorem linkByName_atomic_widget : 0 < (empty.run sourceWithTests).tests.length ∧
    (∃ before after, resourceComes = before ++ after ∧
      (empty.run sourceWithTests).answers
          (before ++ .linkByName 0 "widget" .functionName 1 :: after) =
        (empty.run sourceWithTests).answers before ++ .resolved ⟨.dataSource, "widget"⟩ ::
          ((empty.run sourceWithTests).run before).answers after) ∧
    ((empty.run sourceWithTests).linkByNameAround resourceComes 0 "widget" .functionName
      1).1.linkedIds ⟨.dataSource, "widget"⟩ = [1, 0] ∧
    ((empty.run sourceWithTests).run (.linkByName 0 "widget" .functionName 1 ::
      resourceComes)).linkedIds ⟨.dataSource, "widget"⟩ = [0, 1] := by
  have hid : 0 < (empty.run sourceWithTests).tests.length := by decide
  have hanswer : ((empty.run sourceWithTests).linkByNameAround resourceComes 0 "widget"
      .functionName 1).2 = .resolved ⟨.dataSource, "widget"⟩ := by decide
  obtain ⟨before, after, hothers, -, hanswers, -⟩ :=
    linkByName_atomic (empty.run sourceWithTests) hid "widget" .functionName 1 resourceComes
  rw [hanswer] at hanswers
  exact ⟨hid, ⟨before, after, hothers, hanswers⟩, by decide, by decide⟩

end ProviderCoverage.Registry

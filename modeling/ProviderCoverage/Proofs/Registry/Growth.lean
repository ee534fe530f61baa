import ProviderCoverage.Proofs.Registry.Associations

/-! Registries only grow. Whatever operations follow, the entities and tests of a registry stay at
their keys and ids, a test keeps the link that it has, and the tests of an entity have later ones
after them, never between them (`Reachable.run_extends`). An operation that reports a failure leaves
the registry as it is (`apply_of_isFailure`), and a link is refused for the first of three reasons
(`link_eq_error_iff`). -/

namespace ProviderCoverage

theorem Entity.find?_insertSorted {p : Entity → Bool} {e : Entity} (he : ¬ p e) (es : List Entity) :
    (e.insertSorted es).find? p = es.find? p := by
  induction es with
  | nil => exact List.find?_cons_of_neg he
  | cons x xs ih =>
    rw [insertSorted]
    split
    · exact List.find?_cons_of_neg he
    · rw [List.find?_cons, List.find?_cons, ih]

namespace Registry

variable {r r' r'' : Registry} {key : EntityKey} {id : TestId} {t : AcceptanceTest}

/-- A later registry has everything that an earlier one has. -/
structure Extends (r r' : Registry) : Prop where
  entity : ∀ key e, r.entity? key = some e → r'.entity? key = some e
  /-- A test stays as it is, but that it can be linked once if it is not. -/
  test : ∀ id t, r.test? id = some t →
    r'.test? id = some t ∨ t.linkedKey? = none ∧ ∃ l, r'.test? id = some (t.linkedBy l)
  linkedIds : ∀ key, r.linkedIds key <+: r'.linkedIds key

namespace Extends

theorem refl (r : Registry) : r.Extends r :=
  ⟨fun _ _ he => he, fun _ _ ht => .inl ht, fun _ => List.prefix_rfl⟩

theorem trans (h : r.Extends r') (h' : r'.Extends r'') : r.Extends r'' where
  entity := fun key e he => h'.entity key e (h.entity key e he)
  test := fun id t ht => by
    rcases h.test id t ht with ht' | ⟨hlink, l, ht'⟩
    · exact h'.test id t ht'
    · -- A test that has been linked is not linked again.
      rcases h'.test id _ ht' with ht'' | ⟨hlink', -⟩
      · exact .inr ⟨hlink, l, ht''⟩
      · cases hlink'
  linkedIds := fun key => (h.linkedIds key).trans (h'.linkedIds key)

theorem addEntity {e : Entity} (hnew : e.key ∉ r.keys) : r.Extends (r.addEntity e) where
  entity := fun key x hx => by
    have hkey : e.key ≠ key := by
      rintro rfl
      exact hnew (contains_iff.mp (Option.isSome_of_eq_some hx))
    exact (Entity.find?_insertSorted (by simpa using hkey) r.entities).trans hx
  test := (refl r).test
  linkedIds := (refl r).linkedIds

theorem addTest (t : AcceptanceTest) : r.Extends (r.addTest t) where
  entity := (refl r).entity
  test := fun id x hx => by
    have hid : id < r.tests.length := (List.getElem?_eq_some_iff.mp hx).1
    exact .inl ((List.getElem?_append_left hid).trans hx)
  linkedIds := (refl r).linkedIds

theorem recordLink {l : Link} (ht : r.test? id = some t) (hlink : t.linkedKey? = none) :
    r.Extends (r.recordLink id t l) where
  entity := (refl r).entity
  test := fun i x hx => by
    rw [test?_recordLink ht]
    split
    · next hi =>
      cases ht.symm.trans (hi ▸ hx)
      exact .inr ⟨hlink, l, rfl⟩
    · exact .inl hx
  linkedIds := fun key => by
    rw [linkedIds_recordLink]
    exact List.prefix_append _ _

theorem of_effect {op : Operation} (h : r.Effect op r') : r.Extends r' := by
  cases h with
  | known | refused => exact refl r
  | entity e hnew => exact addEntity hnew
  | test t => exact addTest t
  | link _ id t l _ _ ht hlink => exact recordLink ht hlink
  | sweeperFile file => exact ⟨(refl r).entity, (refl r).test, (refl r).linkedIds⟩

theorem run (r : Registry) (ops : List Operation) : r.Extends (r.run ops) := by
  induction ops generalizing r with
  | nil => exact refl r
  | cons op ops ih => exact (of_effect (r.effect_apply op)).trans (ih _)

/-- A linked test stays as it is. -/
theorem test_of_linked (h : r.Extends r') (ht : r.test? id = some t)
    (hlink : t.linkedKey? = some key) : r'.test? id = some t := by
  rcases h.test id t ht with hkept | ⟨hnone, -⟩
  · exact hkept
  · cases hnone.symm.trans hlink

/-- A test that still has no link is as it has been. -/
theorem eq_of_unlinked {t' : AcceptanceTest} (h : r.Extends r') (ht : r.test? id = some t)
    (ht' : r'.test? id = some t') (hlink : t'.linkedKey? = none) : t' = t := by
  rcases h.test id t ht with hkept | ⟨-, l, hlinked⟩
  · exact Option.some.inj (ht'.symm.trans hkept)
  · cases ht'.symm.trans hlinked
    cases hlink

theorem testsFor_prefix (h : r.Extends r') (hr : r.Consistent) (key : EntityKey) :
    r.testsFor key <+: r'.testsFor key := by
  obtain ⟨later, hlater⟩ := h.linkedIds key
  have hkept : ∀ id ∈ r.linkedIds key, r'.test? id = r.test? id := by
    intro id hid
    obtain ⟨t, ht, hlink⟩ := exists_of_linkOf? ((hr.mem_iff key id).mp hid)
    rw [ht, h.test_of_linked ht hlink]
  refine ⟨later.filterMap r'.test?, ?_⟩
  rw [testsFor, testsFor, ← hlater, List.filterMap_append, List.filterMap_congr hkept]

end Extends

/-! ### Refused operations -/

/-- One of the reasons is enough for a refusal. -/
theorem exists_refusal_iff : (∃ e, r.Refusal id key e) ↔
    key ∉ r.keys ∨ r.tests.length ≤ id ∨ (r.linkOf? id).isSome := by
  constructor
  · rintro ⟨e, h⟩
    cases h with
    | unknownEntity hkey => exact .inl hkey
    | unknownTest _ hid => exact .inr (.inl hid)
    | alreadyLinked _ t existing ht hlink => exact .inr (.inr (by simp [linkOf?, ht, hlink]))
  · intro h
    by_cases hkey : key ∈ r.keys
    · rcases h with h | hid | hlinked
      · exact absurd hkey h
      · exact ⟨_, .unknownTest hkey hid⟩
      · obtain ⟨target, htarget⟩ := Option.isSome_iff_exists.mp hlinked
        obtain ⟨t, ht, hlink⟩ := exists_of_linkOf? htarget
        exact ⟨_, .alreadyLinked hkey t target ht hlink⟩
    · exact ⟨_, .unknownEntity hkey⟩

/-- Whether an operation reports that it could not be done. -/
def Answer.isFailure : Answer → Bool
  | registered new => !new
  | refused _ => true
  | test _ | linked | resolved _ | noted => false

theorem apply_of_isFailure {op : Operation} (h : (r.apply op).2.isFailure) : (r.apply op).1 = r := by
  cases op with
  | registerEntity e =>
    by_cases hkey : r.contains e.key
    · simp [apply, registerEntity, hkey]
    · simp [apply, registerEntity, hkey, Answer.isFailure] at h
  | registerTest t => cases h
  | link id key matchType confidence =>
    obtain ⟨e, -, he⟩ | ⟨t, -, -, -, hok⟩ := r.link_cases id key matchType confidence
    · exact congrArg Prod.fst he
    · simp [apply, hok, Answer.ofOutcome, Answer.isFailure] at h
  | linkByName id name matchType confidence =>
    rw [apply_linkByName] at h ⊢
    cases hfound : r.resolve? name with
    | none => rfl
    | some key =>
      obtain ⟨e, -, he⟩ | ⟨t, -, -, -, hok⟩ := r.link_cases id key matchType confidence
      · exact congrArg Prod.fst he
      · simp [hfound, linkFound, hok, Answer.ofOutcome, Answer.isFailure] at h
  | registerSweeperFile file => cases h

/-- What a registry holds is in every later one, the tests of each entity in the same order before
later ones; and what is refused leaves no trace. -/
theorem Reachable.run_extends (h : r.Reachable) (ops : List Operation) :
    r.Extends (r.run ops) ∧
    (∀ key, r.testsFor key <+: (r.run ops).testsFor key) ∧
    (∀ op, (r.apply op).2.isFailure → (r.apply op).1 = r) ∧
    ∀ id key matchType confidence,
      ((∃ e, (r.link id key matchType confidence).2 = .error e) ↔
        key ∉ r.keys ∨ r.tests.length ≤ id ∨ (r.linkOf? id).isSome) ∧
      ∀ e, (r.link id key matchType confidence).2 = .error e ↔ r.Refusal id key e := by
  have hextends : r.Extends (r.run ops) := .run r ops
  refine ⟨hextends, hextends.testsFor_prefix h.consistent, fun op => apply_of_isFailure,
    fun id key matchType confidence => ⟨?_, fun e => link_eq_error_iff⟩⟩
  simp only [link_eq_error_iff, exists_refusal_iff]

/-- A data source with a test. -/
def testedSource : List Operation :=
  [.registerEntity ⟨⟨.dataSource, "widget"⟩, .unknown, [], false⟩,
   .registerTest ⟨"TestAccWidget_basic", .unknown, [], .entity, false, false, false, false, [],
    "resource.Test", .unmatched, 0, none⟩,
   .link 0 ⟨.dataSource, "widget"⟩ .functionName 1]

/-- A resource of the same name, a second test of the data source, and a link for the first test,
which is refused. -/
def secondTest : List Operation :=
  [.registerEntity ⟨⟨.resource, "widget"⟩, .unknown, [], false⟩,
   .registerTest ⟨"TestAccWidgetDataSource_full", .unknown, [], .entity, false, false, false, false,
    [], "resource.Test", .unmatched, 0, none⟩,
   .link 1 ⟨.dataSource, "widget"⟩ .functionName 1,
   .linkByName 0 "widget" .fileProximity 1]

theorem testedSource_extends : ∃ first second : AcceptanceTest,
    (empty.run testedSource).Extends ((empty.run testedSource).run secondTest) ∧
    (empty.run testedSource).testsFor ⟨.dataSource, "widget"⟩ = [first] ∧
    ((empty.run testedSource).run secondTest).testsFor ⟨.dataSource, "widget"⟩ = [first, second] ∧
    (empty.run testedSource).Refusal 0 ⟨.dataSource, "widget"⟩
      (.alreadyLinked "TestAccWidget_basic" ⟨.dataSource, "widget"⟩) := by
  have hreachable : (empty.run testedSource).Reachable :=
    ⟨testedSource, by simp [testedSource, Operation.Admissible], rfl⟩
  obtain ⟨hextends, -, -, hlink⟩ := hreachable.run_extends secondTest
  exact ⟨_, _, hextends, rfl, rfl,
    ((hlink 0 ⟨.dataSource, "widget"⟩ .fuzzy 1).2 _).mp rfl⟩

end Registry
end ProviderCoverage

import Mathlib.Data.List.Nodup
import ProviderCoverage.Registry.History

/-! What one operation can do to a registry (`Registry.effect_apply`). An operation changes at most
one of the parts of a registry, except that a link changes a test and the associations together,
and only a link changes what is already there. A link is recorded whole, or it is refused for the
first of three reasons and the registry stays as it is (`Registry.link_cases`). -/

namespace ProviderCoverage

theorem Entity.insertSorted_perm (e : Entity) (es : List Entity) :
    (e.insertSorted es).Perm (e :: es) := by
  induction es with
  | nil => rfl
  | cons x xs ih =>
    by_cases hx : e.key.before x.key = true
    · rw [insertSorted, if_pos hx]
    · rw [insertSorted, if_neg hx]
      calc (x :: e.insertSorted xs).Perm (x :: e :: xs) := ih.cons x
        List.Perm _ (e :: x :: xs) := .swap e x xs

/-- A key that is new to the associations comes last. -/
theorem keys_associate (key : EntityKey) (id : TestId)
    (associations : List (EntityKey × List TestId)) :
    (associate key id associations).map (·.1) =
      if key ∈ associations.map (·.1) then associations.map (·.1)
      else associations.map (·.1) ++ [key] := by
  induction associations with
  | nil => rfl
  | cons a rest ih =>
    obtain ⟨k, ids⟩ := a
    rw [associate]
    by_cases hk : k = key
    · simp [hk]
    · rw [if_neg hk, List.map_cons, ih, List.map_cons]
      have hmem : key ∈ k :: rest.map (·.1) ↔ key ∈ rest.map (·.1) := by simp [Ne.symm hk]
      simp only [hmem]
      split <;> rfl

theorem mem_keys_associate {key k : EntityKey} {id : TestId}
    {associations : List (EntityKey × List TestId)} :
    k ∈ (associate key id associations).map (·.1) ↔ k = key ∨ k ∈ associations.map (·.1) := by
  rw [keys_associate]
  split
  · next hkey => exact (or_iff_right_of_imp fun heq => heq ▸ hkey).symm
  · rw [List.mem_append, List.mem_singleton, or_comm]

namespace Registry

variable {r r' : Registry} {key : EntityKey} {id : TestId}

@[simp] theorem contains_iff : r.contains key = true ↔ key ∈ r.keys := by
  simp [contains, entity?, keys]

def addEntity (r : Registry) (e : Entity) : Registry :=
  { r with entities := e.insertSorted r.entities }

def addTest (r : Registry) (t : AcceptanceTest) : Registry :=
  { r with tests := r.tests ++ [t] }

/-- The registry after a test has been linked. -/
def recordLink (r : Registry) (id : TestId) (t : AcceptanceTest) (l : Link) : Registry :=
  { r with
    tests := r.tests.set id (t.linkedBy l)
    associations := associate l.target id r.associations }

theorem keys_addEntity_perm (r : Registry) (e : Entity) :
    (r.addEntity e).keys.Perm (e.key :: r.keys) :=
  (e.insertSorted_perm r.entities).map _

theorem test?_recordLink {t : AcceptanceTest} (ht : r.test? id = some t) (l : Link) (i : TestId) :
    (r.recordLink id t l).test? i = if i = id then some (t.linkedBy l) else r.test? i := by
  have hid : id < r.tests.length := (List.getElem?_eq_some_iff.mp ht).1
  by_cases hi : i = id
  · rw [if_pos hi, hi]
    exact List.getElem?_set_self hid
  · rw [if_neg hi]
    exact List.getElem?_set_ne (Ne.symm hi)

theorem linkedIds_recordLink (r : Registry) (id : TestId) (t : AcceptanceTest) (l : Link)
    (key : EntityKey) : (r.recordLink id t l).linkedIds key =
      r.linkedIds key ++ if key = l.target then [id] else [] :=
  lookup_associate l.target key id r.associations

/-- Why a test cannot be linked to a key. Of several reasons the first one counts. -/
inductive Refusal (r : Registry) (id : TestId) (key : EntityKey) : RegistryError → Prop
  | unknownEntity (hkey : key ∉ r.keys) : Refusal r id key (.unknownEntity key)
  | unknownTest (hkey : key ∈ r.keys) (hid : r.tests.length ≤ id) :
      Refusal r id key (.unknownTest id)
  | alreadyLinked (hkey : key ∈ r.keys) (t : AcceptanceTest) (existing : EntityKey)
      (ht : r.test? id = some t) (hlink : t.linkedKey? = some existing) :
      Refusal r id key (.alreadyLinked t.name existing)

section
variable {matchType : MatchType} {confidence : Rat} {e : RegistryError} {t : AcceptanceTest}

theorem link_of_refusal (h : r.Refusal id key e) :
    r.link id key matchType confidence = (r, .error e) := by
  cases h with
  | unknownEntity hkey => simp [link, hkey]
  | unknownTest hkey hid => simp [link, hkey, test?, hid]
  | alreadyLinked hkey t existing ht hlink => simp [link, hkey, ht, hlink]

theorem link_of_unlinked (hkey : key ∈ r.keys) (ht : r.test? id = some t)
    (hlink : t.linkedKey? = none) : r.link id key matchType confidence =
      (r.recordLink id t ⟨key, matchType, clampConfidence confidence⟩, .ok ()) := by
  simp [link, hkey, ht, hlink, recordLink]

/-- Linking a test is refused and changes nothing, or the link is recorded. -/
theorem link_cases (r : Registry) (id : TestId) (key : EntityKey) (matchType : MatchType)
    (confidence : Rat) :
    (∃ e, r.Refusal id key e ∧ r.link id key matchType confidence = (r, .error e)) ∨
      ∃ t, key ∈ r.keys ∧ r.test? id = some t ∧ t.linkedKey? = none ∧
        r.link id key matchType confidence =
          (r.recordLink id t ⟨key, matchType, clampConfidence confidence⟩, .ok ()) := by
  by_cases hkey : key ∈ r.keys
  · cases ht : r.test? id with
    | none =>
      have h : r.Refusal id key _ := .unknownTest hkey (List.getElem?_eq_none_iff.mp ht)
      exact .inl ⟨_, h, link_of_refusal h⟩
    | some t =>
      cases hlink : t.linkedKey? with
      | some existing =>
        have h : r.Refusal id key _ := .alreadyLinked hkey t existing ht hlink
        exact .inl ⟨_, h, link_of_refusal h⟩
      | none => exact .inr ⟨t, hkey, rfl, hlink, link_of_unlinked hkey ht hlink⟩
  · have h : r.Refusal id key _ := .unknownEntity hkey
    exact .inl ⟨_, h, link_of_refusal h⟩

/-- A link needs a registered entity and a registered test that has none. -/
theorem link_eq_ok_iff : r.link id key matchType confidence = (r', .ok ()) ↔
    key ∈ r.keys ∧ ∃ t, r.test? id = some t ∧ t.linkedKey? = none ∧
      r' = r.recordLink id t ⟨key, matchType, clampConfidence confidence⟩ := by
  constructor
  · intro h
    obtain ⟨e, -, he⟩ | ⟨t, hkey, ht, hlink, hok⟩ := r.link_cases id key matchType confidence
    · cases he.symm.trans h
    · cases hok.symm.trans h
      exact ⟨hkey, t, ht, hlink, rfl⟩
  · rintro ⟨hkey, t, ht, hlink, rfl⟩
    exact link_of_unlinked hkey ht hlink

theorem link_eq_error_iff :
    (r.link id key matchType confidence).2 = .error e ↔ r.Refusal id key e := by
  constructor
  · intro h
    obtain ⟨e', hrefusal, he'⟩ | ⟨t, -, -, -, hok⟩ := r.link_cases id key matchType confidence
    · rw [he'] at h
      cases h
      exact hrefusal
    · rw [hok] at h
      cases h
  · intro h
    rw [link_of_refusal h]

end

/-- The match type that an operation records, if it links a test. -/
def Operation.matchType? : Operation → Option MatchType
  | link _ _ matchType _ | linkByName _ _ matchType _ => some matchType
  | registerEntity _ | registerTest _ | registerSweeperFile _ => none

/-- What each operation makes of a registry, and when. -/
inductive Effect (r : Registry) : Operation → Registry → Prop
  | known (e : Entity) (hknown : e.key ∈ r.keys) : Effect r (.registerEntity e) r
  | entity (e : Entity) (hnew : e.key ∉ r.keys) : Effect r (.registerEntity e) (r.addEntity e)
  | test (t : AcceptanceTest) : Effect r (.registerTest t) (r.addTest t)
  | refused (op : Operation) (hop : op.matchType?.isSome) : Effect r op r
  | link (op : Operation) (id : TestId) (t : AcceptanceTest) (l : Link)
      (hop : op.matchType? = some l.matchType) (hkey : l.target ∈ r.keys)
      (htest : r.test? id = some t) (hlink : t.linkedKey? = none) :
      Effect r op (r.recordLink id t l)
  | sweeperFile (file : String) :
      Effect r (.registerSweeperFile file) (r.registerSweeperFile file)

theorem effect_of_link {op : Operation} {matchType : MatchType} (id : TestId) (key : EntityKey)
    (confidence : Rat) (hop : op.matchType? = some matchType) :
    r.Effect op (r.link id key matchType confidence).1 := by
  obtain ⟨e, -, he⟩ | ⟨t, hkey, ht, hlink, hok⟩ := r.link_cases id key matchType confidence
  · rw [he]
    exact .refused op (hop ▸ rfl)
  · rw [hok]
    exact .link op id t _ hop hkey ht hlink

theorem effect_apply (r : Registry) (op : Operation) : r.Effect op (r.apply op).1 := by
  cases op with
  | registerEntity e =>
    by_cases hk : e.key ∈ r.keys
    · rw [apply, registerEntity, if_pos (contains_iff.mpr hk)]
      exact .known e hk
    · rw [apply, registerEntity, if_neg (mt contains_iff.mp hk)]
      exact .entity e hk
  | registerTest t => exact .test t
  | link id key matchType confidence => exact effect_of_link id key confidence rfl
  | linkByName id name matchType confidence =>
    rw [apply_linkByName]
    cases r.resolve? name with
    | none => exact .refused _ rfl
    | some key => exact effect_of_link id key confidence rfl
  | registerSweeperFile file => exact .sweeperFile file

/-- What admissible operations can make of a registry. -/
inductive Change (r : Registry) : Registry → Prop
  | unchanged : Change r r
  | entity (e : Entity) (hnew : e.key ∉ r.keys) : Change r (r.addEntity e)
  | test (t : AcceptanceTest) (hlink : t.linkedKey? = none) : Change r (r.addTest t)
  | link (id : TestId) (t : AcceptanceTest) (l : Link) (hkey : l.target ∈ r.keys)
      (htest : r.test? id = some t) (hlink : t.linkedKey? = none) : Change r (r.recordLink id t l)
  | sweeperFile (file : String) : Change r (r.registerSweeperFile file)

theorem change_of_effect {op : Operation} (h : r.Effect op r') (hop : op.Admissible) :
    r.Change r' := by
  cases h with
  | known | refused => exact .unchanged
  | entity e hnew => exact .entity e hnew
  | test t => exact .test t hop
  | link _ id t l _ hkey ht hlink => exact .link id t l hkey ht hlink
  | sweeperFile file => exact .sweeperFile file

/-- What every change preserves and holds at first holds of every registry. -/
theorem Reachable.induction {motive : Registry → Prop} (h : r.Reachable) (empty : motive .empty)
    (change : ∀ r r', r.Change r' → motive r → motive r') : motive r := by
  obtain ⟨ops, hops, rfl⟩ := h
  have hrun : ∀ r, motive r → motive (r.run ops) := by
    induction ops with
    | nil => exact fun _ h => h
    | cons op ops ih =>
      intro r hr
      exact ih (fun o ho => hops o (List.mem_cons_of_mem _ ho)) _
        (change _ _ (change_of_effect (r.effect_apply op) (hops op (List.mem_cons_self ..))) hr)
  exact hrun _ empty

/-! ### The registered keys -/

theorem mem_keys_of_effect {op : Operation} (h : r.Effect op r') :
    key ∈ r'.keys ↔ key ∈ r.keys ∨ ∃ e, op = .registerEntity e ∧ e.key = key := by
  have hentity : ∀ e, (∃ x, Operation.registerEntity e = .registerEntity x ∧ x.key = key) ↔
      key = e.key := fun e => by simp [eq_comm]
  cases h with
  | known e hknown =>
    rw [hentity]
    exact ⟨.inl, fun h => h.elim id fun heq => heq ▸ hknown⟩
  | entity e hnew =>
    rw [hentity]
    exact (r.keys_addEntity_perm e).mem_iff.trans (List.mem_cons.trans or_comm)
  | test t => simp [addTest, keys]
  | refused _ hop => cases op <;> simp [Operation.matchType?] at hop ⊢
  | link _ id t l hop => cases op <;> simp [Operation.matchType?, recordLink, keys] at hop ⊢
  | sweeperFile file => simp [registerSweeperFile, keys]

/-- Operations register the entities that they are given, and no other key is gained or lost. -/
theorem mem_keys_run {ops : List Operation} :
    key ∈ (r.run ops).keys ↔ key ∈ r.keys ∨ ∃ e, .registerEntity e ∈ ops ∧ e.key = key := by
  induction ops generalizing r with
  | nil => simp [run]
  | cons op ops ih =>
    have hrun : r.run (op :: ops) = (r.apply op).1.run ops := rfl
    rw [hrun, ih, mem_keys_of_effect (r.effect_apply op), or_assoc]
    refine or_congr_right ?_
    simp only [List.mem_cons]
    constructor
    · rintro (⟨e, rfl, he⟩ | ⟨e, hmem, he⟩)
      · exact ⟨e, .inl rfl, he⟩
      · exact ⟨e, .inr hmem, he⟩
    · rintro ⟨e, rfl | hmem, he⟩
      · exact .inl ⟨e, rfl, he⟩
      · exact .inr ⟨e, hmem, he⟩

theorem mem_keys_run_of_mem {ops : List Operation} (h : key ∈ r.keys) : key ∈ (r.run ops).keys :=
  mem_keys_run.mpr (.inl h)

/-- The order of operations does not matter for the keys. -/
theorem mem_keys_run_perm {ops ops' : List Operation} (h : ops.Perm ops') :
    key ∈ (r.run ops).keys ↔ key ∈ (r.run ops').keys := by
  rw [mem_keys_run, mem_keys_run]
  simp only [h.mem_iff]

end Registry
end ProviderCoverage

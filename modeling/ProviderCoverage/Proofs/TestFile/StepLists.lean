import Mathlib.Data.List.Chain
import ProviderCoverage.Proofs.Lists
import ProviderCoverage.Proofs.TestFile.WalkedCases

/-! The steps of a test. Every list of steps in a body is read on its own: its steps are numbered
from zero, and each is given the fingerprint of the one before. The steps of a test are those of its
lists, one list after the other, and the rest of the test sums them up
(`TestReader.wellFormed_of_mem_tests`). Which steps are updates can be told from the elements of
each list (`TestReader.any_isUpdate_ofBody`). -/

namespace ProviderCoverage

open Go Node

/-- The value of a field. Go allows a field once; of several the last counts. -/
def Go.lastValue? (fields : List KeyedElement) (name : String) : Option Node :=
  ((fields.filter (·.key.text == name)).getLast?).map (·.value)

section
variable {fields : List KeyedElement} {field : KeyedElement} {name : String} {value : Node}

theorem Go.lastValue?_concat : lastValue? (fields ++ [field]) name =
    if field.key.text = name then some field.value else lastValue? fields name := by
  rw [lastValue?, List.filter_append]
  by_cases h : field.key.text = name
  · simp [h]
  · simp [h, lastValue?]

theorem Go.mem_of_lastValue? (h : lastValue? fields name = some value) :
    ∃ field ∈ fields, field.key.text = name ∧ field.value = value := by
  obtain ⟨field, hlast, hvalue⟩ := Option.map_eq_some_iff.mp h
  obtain ⟨hmem, hname⟩ := List.mem_filter.mp (List.mem_of_getLast? hlast)
  exact ⟨field, hmem, beq_iff_eq.mp hname, hvalue⟩

theorem Go.lastValue?_eq_none_iff :
    lastValue? fields name = none ↔ ∀ field ∈ fields, field.key.text ≠ name := by
  rw [lastValue?, Option.map_eq_none_iff, List.getLast?_eq_none_iff, List.filter_eq_nil_iff]
  simp only [beq_iff_eq, ne_eq]

/-- Where no field is there twice, the one of a name is its last. -/
theorem Go.lastValue?_eq_some_iff (hone : (fields.map (·.key.text)).Nodup) :
    lastValue? fields name = some value ↔
      ∃ field ∈ fields, field.key.text = name ∧ field.value = value := by
  refine ⟨mem_of_lastValue?, ?_⟩
  rintro ⟨field, hmem, hname, rfl⟩
  cases hlast : lastValue? fields name with
  | none => exact absurd hname (lastValue?_eq_none_iff.mp hlast field hmem)
  | some value =>
    obtain ⟨last, hmem', hname', rfl⟩ := mem_of_lastValue? hlast
    rw [List.inj_on_of_nodup_map hone hmem hmem' (hname.trans hname'.symm)]

end

namespace TestStep

/-- The steps of one list: numbered from zero, each with the fingerprint of the one before. -/
structure IsList (steps : List TestStep) : Prop where
  indices : steps.map (·.index) = List.range steps.length
  first : ∀ s ∈ steps.head?, s.previousFingerprint = ""
  next : steps.IsChain fun s s' => s'.previousFingerprint = s.fingerprint

/-- The steps with a configuration are those with a fingerprint, and no block is there twice. -/
structure WellFormed (s : TestStep) : Prop where
  fingerprint : s.hasConfig = true ↔ s.fingerprint ≠ ""
  blocks : s.blocks.Nodup

variable {helpers : HelperBlocks} {s : TestStep} {steps : List TestStep} {field : KeyedElement}
  {fields : List KeyedElement} {previous : String} {index i : Nat} {element list : Node}

/-! ### What a field does to a step -/

theorem index_withField : (s.withField helpers field).index = s.index := by
  rw [withField]
  split <;> rfl

theorem hasConfig_withField :
    (s.withField helpers field).hasConfig = (field.key.text == "Config" || s.hasConfig) := by
  rw [withField]
  split <;> simp_all

theorem importState_withField : (s.withField helpers field).importState =
    if field.key.text = "ImportState" then field.value.isTrue else s.importState := by
  rw [withField]
  split <;> simp_all

theorem wellFormed_withField (h : s.WellFormed) : (s.withField helpers field).WellFormed := by
  rw [withField]
  split
  · exact ⟨iff_of_true rfl (Digest.fingerprint_ne_empty _), Lists.nodup_eraseDups _⟩
  -- No other field has to do with the configuration.
  all_goals exact ⟨h.fingerprint, h.blocks⟩

/-! ### The step that a literal stands for -/

theorem ofElement_eq_foldl : ofElement helpers index element =
    (TestScope.fieldsOf element).foldl (withField helpers) (blank index) := by
  rw [ofElement, TestScope.fieldsOf]
  cases element.literalBody? <;> rfl

theorem index_foldl : (fields.foldl (withField helpers) s).index = s.index := by
  induction fields generalizing s with
  | nil => rfl
  | cons field fields ih => exact ih.trans index_withField

theorem wellFormed_foldl (h : s.WellFormed) : (fields.foldl (withField helpers) s).WellFormed := by
  induction fields generalizing s with
  | nil => exact h
  | cons field fields ih => exact ih (wellFormed_withField h)

theorem hasConfig_foldl_blank : (fields.foldl (withField helpers) (blank index)).hasConfig =
    (lastValue? fields "Config").isSome := by
  induction fields using List.reverseRec with
  | nil => rfl
  | append_singleton fields field ih =>
    rw [List.foldl_concat, hasConfig_withField, ih, lastValue?_concat]
    by_cases h : field.key.text = "Config" <;> simp [h]

theorem importState_foldl_blank : (fields.foldl (withField helpers) (blank index)).importState =
    (lastValue? fields "ImportState").any (·.isTrue) := by
  induction fields using List.reverseRec with
  | nil => rfl
  | append_singleton fields field ih =>
    rw [List.foldl_concat, importState_withField, ih, lastValue?_concat]
    split <;> rfl

theorem index_ofElement : (ofElement helpers index element).index = index := by
  rw [ofElement_eq_foldl, index_foldl]
  rfl

/-- What makes a step an update unless it is the first: it has a configuration and does not say
`ImportState: true`. -/
def UpdatesLater (element : Node) : Prop :=
  (∃ config, lastValue? (TestScope.fieldsOf element) "Config" = some config) ∧
    ∀ value, lastValue? (TestScope.fieldsOf element) "ImportState" = some value →
      value.isTrue = false

/-- What the last fields decide, any field does where none is there twice. -/
theorem updatesLater_iff_of_nodup
    (hone : ((TestScope.fieldsOf element).map (·.key.text)).Nodup) : UpdatesLater element ↔
      (∃ field ∈ TestScope.fieldsOf element, field.key.text = "Config") ∧
        ∀ field ∈ TestScope.fieldsOf element, field.key.text = "ImportState" →
          field.value.isTrue = false := by
  simp only [UpdatesLater, lastValue?_eq_some_iff hone]
  grind

theorem isUpdate_ofElement : (ofElement helpers index element).isUpdate = true ↔
    0 < index ∧ UpdatesLater element := by
  rw [isUpdate, Bool.and_eq_true, Bool.and_eq_true, decide_eq_true_eq, index_ofElement,
    ofElement_eq_foldl, hasConfig_foldl_blank, importState_foldl_blank, and_assoc,
    Option.isSome_iff_exists, Bool.not_eq_true', Option.any_eq_false]
  rfl

theorem wellFormed_ofElement : (ofElement helpers index element).WellFormed := by
  rw [ofElement_eq_foldl]
  exact wellFormed_foldl ⟨iff_of_false nofun (absurd rfl), List.nodup_nil⟩

/-! ### The steps of a list -/

/-- Chaining changes the previous fingerprint only. -/
theorem map_chain {α : Type} {g : TestStep → α}
    (hg : ∀ s p, g { s with previousFingerprint := p } = g s) :
    (chain previous steps).map g = steps.map g := by
  induction steps generalizing previous with
  | nil => rfl
  | cons s rest ih => rw [chain, List.map_cons, List.map_cons, hg, ih]

theorem previousFingerprint_head_chain :
    ∀ s ∈ (chain previous steps).head?, s.previousFingerprint = previous := by
  cases steps with
  | nil => nofun
  | cons s rest =>
    rintro _ ⟨⟩
    rfl

theorem isChain_chain :
    (chain previous steps).IsChain fun s s' => s'.previousFingerprint = s.fingerprint := by
  induction steps generalizing previous with
  | nil => exact .nil
  | cons s rest ih => exact List.isChain_cons.mpr ⟨previousFingerprint_head_chain, ih⟩

theorem isList_ofList : IsList (ofList helpers list) where
  indices := by
    rw [ofList, map_chain (fun _ _ => rfl), length_chain, List.length_mapIdx]
    refine List.ext_getElem (by simp) fun i _ _ => ?_
    rw [List.getElem_map, List.getElem_mapIdx, List.getElem_range, index_ofElement]
  first := previousFingerprint_head_chain
  next := isChain_chain

/-- But for the previous fingerprint, a step is what its literal stands for. -/
theorem exists_getElem?_ofList {α : Type} {g : TestStep → α}
    (hg : ∀ s p, g { s with previousFingerprint := p } = g s)
    (helement : list.positionalElements[i]? = some element) :
    ∃ s, (ofList helpers list)[i]? = some s ∧ g s = g (ofElement helpers i element) := by
  have hmap : (ofList helpers list).map g =
      (list.positionalElements.mapIdx (ofElement helpers)).map g := map_chain hg
  have hi := congrArg (·[i]?) hmap
  simp only [List.getElem?_map, List.getElem?_mapIdx, helement, Option.map_some] at hi
  exact Option.map_eq_some_iff.mp hi

theorem wellFormed_of_mem_ofList (h : s ∈ ofList helpers list) : s.WellFormed := by
  have hmem : (s.hasConfig, s.fingerprint, s.blocks) ∈
      (ofList helpers list).map fun s => (s.hasConfig, s.fingerprint, s.blocks) :=
    List.mem_map_of_mem h
  rw [ofList, map_chain (fun _ _ => rfl)] at hmem
  obtain ⟨s', hs', heq⟩ := List.mem_map.mp hmem
  obtain ⟨i, hi, rfl⟩ := List.mem_mapIdx.mp hs'
  simp only [Prod.mk.injEq] at heq
  obtain ⟨hconfig, hfingerprint, hblocks⟩ := heq
  have hwf : (ofElement helpers i list.positionalElements[i]).WellFormed := wellFormed_ofElement
  exact ⟨hconfig ▸ hfingerprint ▸ hwf.fingerprint, hblocks ▸ hwf.blocks⟩

/-- Some step of the list after the first has a configuration and does not say
`ImportState: true`. -/
def UpdatesIn (list : Node) : Prop :=
  ∃ i element, 0 < i ∧ list.positionalElements[i]? = some element ∧ UpdatesLater element

theorem any_isUpdate_ofList : (ofList helpers list).any (·.isUpdate) = true ↔ UpdatesIn list := by
  have hmap : (ofList helpers list).map isUpdate =
      (list.positionalElements.mapIdx (ofElement helpers)).map isUpdate := map_chain fun _ _ => rfl
  have hany : (ofList helpers list).any isUpdate =
      (list.positionalElements.mapIdx (ofElement helpers)).any isUpdate := by
    simpa only [List.any_map, Function.id_comp] using congrArg (List.any · id) hmap
  rw [hany, List.any_eq_true]
  constructor
  · rintro ⟨_, hmem, hupdate⟩
    obtain ⟨i, hi, rfl⟩ := List.mem_mapIdx.mp hmem
    obtain ⟨hpos, hfields⟩ := isUpdate_ofElement.mp hupdate
    exact ⟨i, _, hpos, List.getElem?_eq_getElem hi, hfields⟩
  · rintro ⟨i, element, hpos, hget, hfields⟩
    obtain ⟨hi, rfl⟩ := List.getElem?_eq_some_iff.mp hget
    exact ⟨_, List.mem_mapIdx.mpr ⟨i, hi, rfl⟩, isUpdate_ofElement.mpr ⟨hpos, hfields⟩⟩

end TestStep

namespace TestScope

variable {scope : TestScope} {body : Node} {h : Handed}

def listsOf : Handed → List Node
  | .testCase literal =>
    ((fieldsOf literal).filter (·.key.text == "Steps")).filterMap (·.value.literalBody?)
  | .steps literal => literal.literalBody?.toList

/-- The lists of steps of a body, in order. -/
def stepLists (scope : TestScope) (body : Node) : List Node :=
  (scope.walk body).flatMap listsOf

theorem stepsOfBody_eq (value : Node) :
    scope.stepsOfBody value = value.literalBody?.toList.flatMap (TestStep.ofList scope.helpers) := by
  rw [stepsOfBody]
  cases value.literalBody? <;> simp

theorem stepsOf_eq : scope.stepsOf h = (listsOf h).flatMap (TestStep.ofList scope.helpers) := by
  cases h with
  | testCase literal =>
    rw [stepsOf, listsOf, List.filterMap_eq_flatMap_toList, List.flatMap_assoc]
    simp only [stepsOfBody_eq]
  | steps literal => exact stepsOfBody_eq literal

end TestScope

/-! ### Tests -/

/-- A test that has been read and not been linked yet. -/
structure AcceptanceTest.WellFormed (t : AcceptanceTest) : Prop where
  lists : ∃ lists : List (List TestStep), t.steps = lists.flatten ∧ ∀ l ∈ lists, TestStep.IsList l
  steps : ∀ s ∈ t.steps, s.WellFormed
  blocks : t.blocks.Nodup
  mem_blocks : ∀ b, b ∈ t.blocks ↔ ∃ s ∈ t.steps, b ∈ s.blocks
  /-- The blocks are in the order in which the steps have them first. -/
  order : ∀ b b', t.blocks.idxOf b < t.blocks.idxOf b' ↔
    (t.steps.flatMap (·.blocks)).idxOf b < (t.steps.flatMap (·.blocks)).idxOf b'
  importStep : t.hasImportStep = true ↔ ∃ s ∈ t.steps, s.importState = true
  errorCase : t.hasErrorCase = true ↔ ∃ s ∈ t.steps, s.expectError = true
  category : t.category = .entity ↔ t.blocks ≠ []
  new : t.IsNew

theorem TestCategory.classify_eq_entity_iff {blocks : List Block} {name path : String} :
    classify blocks name path = .entity ↔ blocks ≠ [] := by
  cases blocks with
  | nil =>
    refine iff_of_false (fun h => ?_) (absurd rfl)
    grind [classify]
  | cons b blocks => exact iff_of_true rfl (List.cons_ne_nil b blocks)

namespace TestReader

variable {r : TestReader} {f : SourceFile} {scope : TestScope} {body : Node} {t : AcceptanceTest}
  {name helper : String} {location : Location}

theorem steps_ofBody : (ofBody scope name location helper body).steps =
    (scope.stepLists body).flatMap (TestStep.ofList scope.helpers) := by
  rw [TestScope.stepLists, List.flatMap_assoc]
  exact congrArg (List.flatMap · (scope.walk body)) (funext fun _ => TestScope.stepsOf_eq)

theorem wellFormed_ofBody : (ofBody scope name location helper body).WellFormed where
  lists := by
    refine ⟨_, steps_ofBody.trans List.flatMap_def, fun l hl => ?_⟩
    obtain ⟨list, -, rfl⟩ := List.mem_map.mp hl
    exact TestStep.isList_ofList
  steps s hs := by
    rw [steps_ofBody] at hs
    obtain ⟨list, -, hmem⟩ := List.mem_flatMap.mp hs
    exact TestStep.wellFormed_of_mem_ofList hmem
  blocks := Lists.nodup_eraseDups _
  mem_blocks b := by rw [ofBody, List.mem_eraseDups, List.mem_flatMap]
  order b b' := Lists.idxOf_eraseDups_lt_idxOf_eraseDups _
  importStep := List.any_eq_true
  errorCase := List.any_eq_true
  category := TestCategory.classify_eq_entity_iff
  new := ⟨rfl, rfl, rfl⟩

/-- The steps of a body hold an update exactly if one of its lists does. -/
theorem any_isUpdate_ofBody : (ofBody scope name location helper body).steps.any (·.isUpdate) = true ↔
    ∃ list ∈ scope.stepLists body, TestStep.UpdatesIn list := by
  rw [steps_ofBody, List.any_flatMap, List.any_eq_true]
  simp only [TestStep.any_isUpdate_ofList]

theorem wellFormed_of_mem_tests (h : t ∈ r.tests f) : t.WellFormed := by
  obtain ⟨g, -, hg⟩ := List.mem_filterMap.mp h
  obtain ⟨body, helper, -, rfl⟩ := ofFunction?_eq_some hg
  exact wellFormed_ofBody

end TestReader
end ProviderCoverage

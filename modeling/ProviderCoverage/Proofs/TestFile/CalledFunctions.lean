import ProviderCoverage.Proofs.Go.Lines
import ProviderCoverage.Proofs.TestFile.StepLists

/-! Configurations that are calls. A step whose configuration calls a function of its file has the
blocks of the arguments and then those of the function. The function is known by its bare name, and
of the functions and methods of that name the last one that returns any blocks counts; so a method
can stand in for the function that is called (`called_blocks_iff`). -/

namespace ProviderCoverage

open Go Node

namespace Go

/-- The blocks in the return statements of a function. -/
def Function.returnedBlocks (g : Function) : List Block :=
  g.body.elim [] fun body => body.returnedExpressions.flatMap (·.blocks)

namespace Node

/-- The expression `name(arguments)`, perhaps in parentheses. -/
def IsCallOf (value : Node) (name : String) (arguments : List Node) : Prop :=
  ∃ function typeArguments list,
    value.unparenthesized = .branch .call [function, typeArguments, .branch .arguments list] ∧
    function.unparenthesized.simpleName? = some name ∧
    (Node.branch .arguments list).parts = arguments

variable {value n : Node} {ns arguments : List Node} {name : String}

theorem blocks_unparenthesized : n.unparenthesized.blocks = n.blocks := by
  fun_induction unparenthesized n with
  | case1 _ inner _ ih => rw [ih, blocks]
  | case2 n _ => rfl

theorem blocks_of_isPunctuation (h : n.isPunctuation = true) : n.blocks = [] := by
  cases n with
  | leaf t =>
    rw [blocks, StringLiteral.ofToken?]
    cases hkind : t.kind <;> simp_all [isPunctuation]
  | branch s ns => cases h

theorem listBlocks_eq : listBlocks ns = (ns.filter (!·.isPunctuation)).flatMap (·.blocks) := by
  induction ns with
  | nil => rw [listBlocks]; rfl
  | cons n ns ih =>
    rw [listBlocks, ih, List.filter_cons]
    cases h : n.isPunctuation with
    | false => rfl
    | true => rw [blocks_of_isPunctuation h]; rfl

theorem IsCallOf.blocks_eq (h : value.IsCallOf name arguments) :
    value.blocks = arguments.flatMap (·.blocks) := by
  obtain ⟨function, typeArguments, list, hvalue, -, rfl⟩ := h
  rw [← blocks_unparenthesized, hvalue, blocks, listBlocks_eq]
  rfl

theorem IsCallOf.callTarget?_eq (h : value.IsCallOf name arguments) :
    value.unparenthesized.callTarget? = some ⟨none, name⟩ := by
  obtain ⟨function, typeArguments, list, hvalue, hname, -⟩ := h
  rw [hvalue, callTarget?]
  cases hfunction : function.unparenthesized with
  | leaf t =>
    rw [hfunction] at hname
    exact congrArg (Option.map _) hname
  | branch s ns =>
    rw [hfunction] at hname
    cases hname

end Node
end Go

namespace TestStep

/-- The function or method whose blocks the calls of a name get: the last one of that name that
returns any. -/
def supplier? (functions : List Function) (name : String) : Option Function :=
  functions.reverse.find? fun g => g.name == name && !g.returnedBlocks.isEmpty

/-- The blocks that the calls of a name get. -/
def suppliedBlocks (functions : List Function) (name : String) : List Block :=
  (supplier? functions name).elim [] (·.returnedBlocks)

variable {helpers : HelperBlocks} {functions : List Function} {g : Function} {s : TestStep}
  {field : KeyedElement} {fields : List KeyedElement} {value element list : Node}
  {arguments : List Node} {name : String} {i : Nat}

/-! ### The functions of a file -/

theorem helperBlocks_eq : helperBlocks functions = functions.filterMap fun g =>
    if g.returnedBlocks.isEmpty then none else some (g.name, g.returnedBlocks) := by
  refine List.filterMap_congr fun g _ => ?_
  rw [Function.returnedBlocks]
  cases g.body <;> rfl

theorem get_helperBlocks : (helperBlocks functions).get name = suppliedBlocks functions name := by
  rw [HelperBlocks.get, helperBlocks_eq, ← List.filterMap_reverse, suppliedBlocks, supplier?]
  induction functions.reverse with
  | nil => rfl
  | cons g rest ih =>
    rw [List.filterMap_cons]
    by_cases hempty : g.returnedBlocks.isEmpty = true
    · rw [if_pos hempty, List.find?_cons_of_neg (by simp [hempty])]
      exact ih
    · rw [if_neg hempty, List.lookup_cons]
      by_cases hname : g.name = name
      · rw [List.find?_cons_of_pos (by simp [hname, hempty])]
        simp [hname]
      · rw [List.find?_cons_of_neg (by simp [hname]), ← ih, beq_eq_false_iff_ne.mpr (Ne.symm hname)]

/-- Where no other function or method of its name returns blocks, a function supplies its own. -/
theorem suppliedBlocks_of_sole (hg : g ∈ functions)
    (hsole : ∀ h ∈ functions, h.name = g.name → h.returnedBlocks ≠ [] → h = g) :
    suppliedBlocks functions g.name = g.returnedBlocks := by
  rw [suppliedBlocks]
  cases hsupplier : supplier? functions g.name with
  | none =>
    have hnone := List.find?_eq_none.mp hsupplier g (List.mem_reverse.mpr hg)
    have hempty : g.returnedBlocks = [] := by simpa using hnone
    rw [hempty]
    rfl
  | some h =>
    have hcounts := List.find?_some hsupplier
    have hmem : h ∈ functions := List.mem_reverse.mp (List.mem_of_find?_eq_some hsupplier)
    rw [Bool.and_eq_true, beq_iff_eq, Bool.not_eq_true', List.isEmpty_eq_false_iff] at hcounts
    rw [hsole h hmem hcounts.1 hcounts.2]
    rfl

/-! ### The blocks of a step -/

theorem blocks_withField : (s.withField helpers field).blocks =
    if field.key.text = "Config" then (s.blocks ++ configBlocks helpers field.value).eraseDups
    else s.blocks := by
  rw [withField]
  split <;> simp_all

theorem blocks_foldl : (fields.foldl (withField helpers) s).blocks =
    (fields.filter (·.key.text == "Config")).foldl
      (fun blocks field => (blocks ++ configBlocks helpers field.value).eraseDups) s.blocks := by
  induction fields generalizing s with
  | nil => rfl
  | cons field fields ih =>
    rw [List.foldl_cons, ih, blocks_withField, List.filter_cons]
    by_cases h : field.key.text = "Config" <;> simp [h]

theorem blocks_ofElement {index : Nat}
    (h : (TestScope.fieldsOf element).filter (·.key.text == "Config") = [field]) :
    (ofElement helpers index element).blocks = (configBlocks helpers field.value).eraseDups := by
  rw [ofElement_eq_foldl, blocks_foldl, h]
  rfl

theorem configBlocks_of_isCallOf (h : value.IsCallOf name arguments) :
    configBlocks (helperBlocks functions) value =
      arguments.flatMap (·.blocks) ++ suppliedBlocks functions name := by
  rw [configBlocks, h.callTarget?_eq, h.blocks_eq]
  exact congrArg _ get_helperBlocks

theorem getElem?_blocks_ofList (hs : (ofList helpers list)[i]? = some s)
    (helement : list.positionalElements[i]? = some element) :
    s.blocks = (ofElement helpers i element).blocks := by
  obtain ⟨s', hs', hblocks⟩ := exists_getElem?_ofList (g := (·.blocks)) (fun _ _ => rfl) helement
  cases hs.symm.trans hs'
  exact hblocks

/-- A step with one configuration, a call of a function of its file, has the blocks of the arguments
and then those that the last function or method of the name returns. These are the blocks of the
function itself if they add the same to those of the arguments, and so where nothing else of the
name returns blocks. -/
theorem called_blocks_iff {f : SourceFile} (hg : g ∈ f.functions)
    (hs : (ofList (TestScope.ofFile f).helpers list)[i]? = some s)
    (helement : list.positionalElements[i]? = some element)
    (hconfig : (TestScope.fieldsOf element).filter (·.key.text == "Config") = [field])
    (hcall : field.value.IsCallOf g.name arguments) :
    let given := arguments.flatMap (·.blocks)
    let supplied := suppliedBlocks f.functions g.name
    s.blocks = (given ++ supplied).eraseDups ∧
    (s.blocks = (given ++ g.returnedBlocks).eraseDups ↔
      (supplied.removeAll given).eraseDups = (g.returnedBlocks.removeAll given).eraseDups) ∧
    ((∀ h ∈ f.functions, h.name = g.name → h.returnedBlocks ≠ [] → h = g) →
      s.blocks = (given ++ g.returnedBlocks).eraseDups) := by
  intro given supplied
  have hblocks : s.blocks = (given ++ supplied).eraseDups := by
    rw [getElem?_blocks_ofList hs helement, blocks_ofElement hconfig, TestScope.ofFile,
      configBlocks_of_isCallOf hcall]
  refine ⟨hblocks, ?_, fun hsole => ?_⟩
  · rw [hblocks, List.eraseDups_append, List.eraseDups_append, List.append_cancel_left_eq]
  · rw [hblocks, ← suppliedBlocks_of_sole hg hsole]

/-! ### A method in place of the function -/

/-- A function `config`, a method `config` after it, and a step that calls the function. -/
def overlaidFile : SourceFile :=
  .ofLines "widget_test.go"
    ["package provider",
     "",
     "import (",
     "\t\"github.com/hashicorp/terraform-plugin-testing/helper/resource\"",
     ")",
     "",
     "func config() string \x7b",
     "\treturn \x60resource \"example_widget\" \"a\" \x7b\x7d\x60",
     "\x7d",
     "",
     "type builder struct\x7b\x7d",
     "",
     "func (b builder) config() string \x7b",
     "\treturn \x60resource \"example_gadget\" \"a\" \x7b\x7d\x60",
     "\x7d",
     "",
     "func TestAccWidget_basic(t *testing.T) \x7b",
     "\tresource.Test(t, resource.TestCase\x7b",
     "\t\tSteps: []resource.TestStep\x7b",
     "\t\t\t\x7bConfig: config()\x7d,",
     "\t\t\x7d,",
     "\t\x7d)",
     "\x7d"] true

/-- The arguments of a call of a name. -/
def argumentsOfCall? (value : Node) (name : String) : Option (List Node) :=
  match value.unparenthesized with
  | .branch .call [function, _, .branch .arguments list] =>
    if function.unparenthesized.simpleName? = some name then
      some (Node.branch .arguments list).parts
    else none
  | _ => none

theorem isCallOf_of_argumentsOfCall? (h : argumentsOfCall? value name = some arguments) :
    value.IsCallOf name arguments := by
  rw [argumentsOfCall?] at h
  split at h
  · next function typeArguments list hvalue =>
    obtain ⟨hname, harguments⟩ := Option.ite_none_right_eq_some.mp h
    exact ⟨function, typeArguments, list, hvalue, hname, Option.some.inj harguments⟩
  · cases h

theorem overlaid_config_blocks : ∃ g ∈ overlaidFile.functions,
    g.name = "config" ∧ g.receiver = none ∧ g.returnedBlocks = [⟨.resource, "example_widget"⟩] ∧
    ∃ list ∈ overlaidFile.tree.preorder, ∃ element field s,
      list.positionalElements[0]? = some element ∧
      (TestScope.fieldsOf element).filter (·.key.text == "Config") = [field] ∧
      field.value.IsCallOf g.name [] ∧
      (ofList (TestScope.ofFile overlaidFile).helpers list)[0]? = some s ∧
      s.blocks = [⟨.resource, "example_gadget"⟩] := by
  have hfile : overlaidFile.functions.any (fun g => g.name = "config" ∧ g.receiver = none ∧
        g.returnedBlocks = [⟨.resource, "example_widget"⟩]) = true ∧
      suppliedBlocks overlaidFile.functions "config" = [⟨.resource, "example_gadget"⟩] ∧
      overlaidFile.tree.preorder.any (fun list => list.positionalElements[0]?.any fun element =>
        ((TestScope.fieldsOf element).filter (·.key.text == "Config")).map
          (fun field => argumentsOfCall? field.value "config") = [some []]) = true := by
    rw [overlaidFile, SourceFile.ofLines_eq]
    repeat rw [SourceFile.textOfLines_cons]
    decide +kernel
  obtain ⟨hfunction, hsupplied, hstep⟩ := hfile
  simp only [List.any_eq_true, Option.any_eq_true, decide_eq_true_eq] at hfunction hstep
  obtain ⟨g, hg, hname, hreceiver, hreturned⟩ := hfunction
  obtain ⟨list, hlist, element, helement, hfields⟩ := hstep
  obtain ⟨field, hconfig, hcall⟩ := List.map_eq_singleton_iff.mp hfields
  have hcall : field.value.IsCallOf g.name [] :=
    isCallOf_of_argumentsOfCall? (hname ▸ hcall)
  obtain ⟨s, hs, -⟩ : ∃ s, (ofList (TestScope.ofFile overlaidFile).helpers list)[0]? = some s ∧
      s.blocks = (ofElement (TestScope.ofFile overlaidFile).helpers 0 element).blocks :=
    exists_getElem?_ofList (g := (·.blocks)) (fun _ _ => rfl) helement
  obtain ⟨hblocks, -, -⟩ := called_blocks_iff hg hs helement hconfig hcall
  refine ⟨g, hg, hname, hreceiver, hreturned, list, hlist, element, field, s, helement, hconfig,
    hcall, hs, ?_⟩
  rw [hblocks, hname, hsupplied]
  rfl

end TestStep
end ProviderCoverage

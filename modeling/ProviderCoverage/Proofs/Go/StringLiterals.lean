import Mathlib.Algebra.Ring.Parity
import Mathlib.Data.List.DropRight
import ProviderCoverage.Go.Expression
import ProviderCoverage.Go.Lexeme

/-! Texts and their string literals. A text between quotes, with its quotes, backslashes, tabs and
line breaks escaped, is scanned as one token whatever follows it (`lexemes_encode`), and decoding
gives the text back (`unescape_withoutQuotes_encode`). Decoding reads from left to right: a text cut
in two is decoded part by part, whatever the second part is, exactly if the first does not end in an
odd number of backslashes (`unescape_append_iff`). -/

namespace ProviderCoverage.Go.StringLiteral

/-- A character as it is written between the quotes of a literal. -/
def escape : Char → List Char
  | '\\' => ['\\', '\\']
  | '"' => ['\\', '"']
  | '\n' => ['\\', 'n']
  | '\t' => ['\\', 't']
  | '\r' => ['\\', 'r']
  | c => [c]

/-- The literal of a text. -/
def encode (s : List Char) : List Char :=
  '"' :: (s.flatMap escape ++ ['"'])

/-- How many backslashes there are at the end. -/
def closingBackslashes (s : List Char) : Nat :=
  (s.rtakeWhile (· == '\\')).length

variable {s a rest : List Char} {c : Char}

/-! ### Decoding what has been encoded -/

theorem unescape_cons (h : c ≠ '\\') : unescape (c :: rest) = c :: unescape rest := by
  simp [unescape, h]

theorem unescape_escape_append : unescape (escape c ++ rest) = c :: unescape rest := by
  fun_cases escape c with
  | case1 | case2 | case3 | case4 | case5 => rfl
  | case6 c hbackslash => exact unescape_cons hbackslash

theorem unescape_flatMap_escape_append :
    unescape (s.flatMap escape ++ rest) = s ++ unescape rest := by
  induction s with
  | nil => rfl
  | cons c s ih =>
    rw [List.flatMap_cons, List.append_assoc, unescape_escape_append, ih, List.cons_append]

theorem withoutQuotes_encode : withoutQuotes (encode s) = s.flatMap escape := by
  have hend : ['"'].isSuffixOf? (s.flatMap escape ++ ['"']) = some (s.flatMap escape) :=
    List.isSuffixOf?_eq_some_iff_append_eq.mpr rfl
  rw [encode, withoutQuotes, hend, Option.getD_some]

theorem unescape_withoutQuotes_encode : unescape (withoutQuotes (encode s)) = s := by
  rw [withoutQuotes_encode, ← List.append_nil (s.flatMap escape), unescape_flatMap_escape_append,
    unescape, List.append_nil]

/-! ### Scanning what has been encoded -/

theorem quotedExtent_escape_append :
    quotedExtent '"' (escape c ++ rest) = (escape c).length + quotedExtent '"' rest := by
  fun_cases escape c with
  | case1 | case2 | case3 | case4 | case5 => rfl
  | case6 c hbackslash hquote hbreak =>
    rw [List.singleton_append, quotedExtent, if_neg hquote, if_neg hbreak, List.length_singleton]
    exact fun _ _ h => (hbackslash h).elim

/-- The first quote that no backslash precedes is the one at the end. -/
theorem quotedExtent_flatMap_escape_append :
    quotedExtent '"' (s.flatMap escape ++ '"' :: rest) = (s.flatMap escape ++ ['"']).length := by
  induction s with
  | nil => simp [quotedExtent]
  | cons c s ih =>
    rw [List.flatMap_cons, List.append_assoc, quotedExtent_escape_append, ih,
      ← List.length_append, List.append_assoc]

theorem lexemes_encode :
    lexemes (encode s ++ rest) = ⟨.token .interpretedString, encode s⟩ :: lexemes rest := by
  have hfirst (t : List Char) : lexeme '"' t = (.token .interpretedString, quotedExtent '"' t) := by
    simp [lexeme, show isBlank '"' = false by decide]
  have hsplit : encode s ++ rest = '"' :: ((s.flatMap escape ++ ['"']) ++ rest) := rfl
  have hextent : quotedExtent '"' ((s.flatMap escape ++ ['"']) ++ rest) =
      (s.flatMap escape ++ ['"']).length := by
    rw [List.append_assoc]
    exact quotedExtent_flatMap_escape_append
  rw [hsplit, lexemes, hfirst, hextent, List.take_left, List.drop_left, encode]

/-! ### Decoding in two parts -/

/-- The backslashes at the end go on before a text that is nothing else. -/
theorem closingBackslashes_append : closingBackslashes (a ++ s) =
    if closingBackslashes s = s.length then closingBackslashes s + closingBackslashes a
    else closingBackslashes s := by
  simp only [closingBackslashes, List.rtakeWhile, List.length_reverse, List.reverse_append,
    List.takeWhile_append, apply_ite List.length, List.length_append]
  split
  · next hall => rw [hall]
  · rfl

/-- An even number of backslashes does not matter for what comes after. -/
theorem odd_closingBackslashes_append (h : Even (closingBackslashes a)) :
    Odd (closingBackslashes (a ++ s)) ↔ Odd (closingBackslashes s) := by
  rw [closingBackslashes_append]
  split
  · rw [Nat.odd_add, iff_true_right h]
  · rfl

theorem odd_closingBackslashes_escape :
    Odd (closingBackslashes ('\\' :: c :: s)) ↔ Odd (closingBackslashes s) := by
  refine odd_closingBackslashes_append (a := ['\\', c]) ?_
  by_cases hc : c = '\\'
  · rw [hc]
    exact ⟨1, rfl⟩
  · simp [closingBackslashes, List.rtakeWhile, hc]

theorem odd_closingBackslashes_cons (h : c ≠ '\\') :
    Odd (closingBackslashes (c :: s)) ↔ Odd (closingBackslashes s) := by
  refine odd_closingBackslashes_append (a := [c]) ?_
  simp [closingBackslashes, List.rtakeWhile, h]

/-- A text can be decoded apart from whatever follows it exactly if it does not end within an
escape. -/
theorem unescape_append_iff :
    (∀ b, unescape (a ++ b) = unescape a ++ unescape b) ↔ ¬ Odd (closingBackslashes a) := by
  fun_induction unescape a with
  | case1 => simp [closingBackslashes]
  | case2 c rest d hescaped ih =>
    rw [odd_closingBackslashes_escape, ← ih]
    simp [unescape, hescaped]
  | case3 c rest hescaped ih =>
    rw [odd_closingBackslashes_escape, ← ih]
    simp [unescape, hescaped]
  | case4 c rest hplain ih =>
    by_cases hc : c = '\\'
    -- A backslash that is not read with a character after it is the last character.
    · cases rest with
      | nil =>
        subst hc
        refine iff_of_false (fun hparts => ?_) (not_not.mpr ⟨0, rfl⟩)
        exact absurd (hparts ['n']) (by decide)
      | cons d rest => exact (hplain d rest hc rfl).elim
    · rw [odd_closingBackslashes_cons hc, ← ih]
      simp [unescape_cons hc]

/-! ### Literals as nodes -/

/-- The literal of a text is one token whatever follows it, every node with that token has the text
as its value, and of two parts the second can be decoded apart exactly if the first does not end in
an odd number of backslashes. -/
theorem literals_decoded :
    (∀ (s : String) (rest : List Char), lexemes (encode s.toList ++ rest) =
      ⟨.token .interpretedString, encode s.toList⟩ :: lexemes rest) ∧
    (∀ (s : String) (n : Node) (t : Token), n.unparenthesized = .leaf t →
      t.kind = .interpretedString → t.text = String.ofList (encode s.toList) →
        n.stringValue? = some s) ∧
    ∀ a : List Char, (∀ b, unescape (a ++ b) = unescape a ++ unescape b) ↔
      ¬ Odd (closingBackslashes a) := by
  refine ⟨fun _ _ => lexemes_encode, ?_, fun _ => unescape_append_iff⟩
  intro s n t hnode hkind htext
  have hvalue : ofToken? t = some s.toList := by
    simp only [ofToken?, hkind, htext, String.toList_ofList, unescape_withoutQuotes_encode]
  simp only [Node.stringValue?, hnode, hvalue, Option.map_some, String.ofList_toList]

/-- In the path one backslash is before a letter that it could escape and one before the quote. -/
theorem literals_decoded_path :
    (Node.leaf ⟨.interpretedString, "", "\"C:\\\\new\\\\\"", .start⟩).stringValue? =
      some "C:\\new\\" ∧
    unescape ("C:\\\\".toList ++ "new".toList) =
      unescape "C:\\\\".toList ++ unescape "new".toList := by
  obtain ⟨-, hvalue, hparts⟩ := literals_decoded
  have heven : ¬ Odd (closingBackslashes "C:\\\\".toList) := by decide
  exact ⟨hvalue "C:\\new\\" _ _ rfl rfl (by decide), (hparts _).mpr heven _⟩

end ProviderCoverage.Go.StringLiteral

import ProviderCoverage.Naming
import ProviderCoverage.Proofs.Lists
import ProviderCoverage.Proofs.Text.Parts
import ProviderCoverage.Proofs.Unicode.Ascii

/-! From a name to its title and back. In the title a word is told from the one before it by its
upper-case letter, unless both run together: a word of one letter leaves only an upper-case letter
behind, and the next word begins there only if a lower-case letter comes second (`RunsInto`). A name
is read back from its title exactly if no two words in a row run together
(`snakeCase_titleCase_iff`). -/

namespace ProviderCoverage.Naming

open Unicode

/-- A letter of lower case or a digit. -/
def IsSmall (c : Char) : Prop :=
  c.isLower = true ∨ c.isDigit = true

/-- A letter of lower case, then such letters and digits. -/
def IsWord (word : List Char) : Prop :=
  ∃ c rest, word = c :: rest ∧ c.isLower = true ∧ ∀ d ∈ rest, IsSmall d

/-- The first word has one letter, and the second has one too, or a digit after it. -/
def RunsInto (word next : List Char) : Prop :=
  word.length = 1 ∧ (next.length = 1 ∨ next[1]?.any Char.isDigit = true)

instance (c : Char) : Decidable (IsSmall c) :=
  inferInstanceAs (Decidable (_ ∨ _))

instance (word next : List Char) : Decidable (RunsInto word next) :=
  inferInstanceAs (Decidable (_ ∧ _))

variable {word next tail rest : List Char} {words : List (List Char)} {c d : Char}
  {previous : Option Char}

/-! ### Letters and digits -/

namespace IsSmall

theorem ascii (h : IsSmall d) : d.toNat < 128 :=
  h.elim ascii_of_isLower ascii_of_isDigit

theorem isUpper_eq_false (h : IsSmall d) : d.isUpper = false :=
  forall_ascii (p := fun d => d.isLower = true ∨ d.isDigit = true → d.isUpper = false) (by decide)
    h.ascii h

theorem lowercase_eq (h : IsSmall d) : lowercase d = [d] := by
  rw [lowercase_of_ascii h.ascii, toLower_eq_self h.ascii h.isUpper_eq_false]

theorem isLowercase_eq (h : IsSmall d) : isLowercase d = !d.isDigit := by
  rw [isLowercase_of_ascii h.ascii]
  rcases h with h | h
  · rw [h, isDigit_of_isAlpha (Bool.or_eq_true_iff.mpr (.inr h))]
    rfl
  · rw [h, (Bool.or_eq_false_iff.mp (isAlpha_of_isDigit h)).2]
    rfl

theorem beginsWord_eq_false (h : IsSmall d) (after : Option Char) :
    beginsWord previous d after = false := by
  rw [beginsWord, isUppercase_of_ascii h.ascii, h.isUpper_eq_false, Bool.false_and]

end IsSmall

/-- In small letters and digits no word begins. -/
theorem snakeFrom_append (h : ∀ d ∈ rest, IsSmall d) :
    snakeFrom previous (rest ++ tail) = rest ++ snakeFrom (rest.getLast?.or previous) tail := by
  induction rest generalizing previous with
  | nil => rfl
  | cons d rest ih =>
    obtain ⟨hd, hrest⟩ := List.forall_mem_cons.mp h
    rw [List.cons_append, snakeFrom, hd.beginsWord_eq_false, hd.lowercase_eq, ih hrest,
      Lists.getLast?_cons_or]
    rfl

/-! ### Capitals -/

theorem isUpper_toUpper (h : c.isLower = true) : c.toUpper.isUpper = true :=
  forall_ascii (p := fun c => c.isLower = true → c.toUpper.isUpper = true) (by decide)
    (ascii_of_isLower h) h

theorem isUppercase_toUpper (h : c.isLower = true) : isUppercase c.toUpper = true := by
  rw [isUppercase_of_ascii (ascii_toUpper (ascii_of_isLower h)), isUpper_toUpper h]

theorem isLowercase_toUpper (h : c.isLower = true) : isLowercase c.toUpper = false := by
  rw [isLowercase_of_ascii (ascii_toUpper (ascii_of_isLower h))]
  exact forall_ascii (p := fun c => c.isLower = true → c.toUpper.isLower = false) (by decide)
    (ascii_of_isLower h) h

theorem lowercase_toUpper (h : c.isLower = true) : lowercase c.toUpper = [c] := by
  rw [lowercase_of_ascii (ascii_toUpper (ascii_of_isLower h)), List.cons.injEq, eq_self, and_true]
  exact forall_ascii (p := fun c => c.isLower = true → c.toUpper.toLower = c) (by decide)
    (ascii_of_isLower h) h

theorem capitalize_cons (h : c.isLower = true) (rest : List Char) :
    capitalize (c :: rest) = c.toUpper :: rest := by
  rw [capitalize, uppercase_of_ascii (ascii_of_isLower h)]
  rfl

theorem getLast?_capitalize (h : c.isLower = true) (rest : List Char) :
    (capitalize (c :: rest)).getLast? = rest.getLast?.or (some c.toUpper) := by
  rw [capitalize_cons h, ← Lists.getLast?_cons_or _ _ none, Option.or_none]

/-- A title is read letter by letter, and only before its capital there may be an underscore. -/
theorem snakeFrom_capitalize (hc : c.isLower = true) (hrest : ∀ d ∈ rest, IsSmall d) :
    snakeFrom previous (capitalize (c :: rest) ++ tail) =
      (if beginsWord previous c.toUpper (rest ++ tail).head? then ['_'] else []) ++
        (c :: rest ++ snakeFrom (capitalize (c :: rest)).getLast? tail) := by
  rw [getLast?_capitalize hc, capitalize_cons hc, List.cons_append, snakeFrom,
    lowercase_toUpper hc, snakeFrom_append hrest, List.append_assoc]
  rfl

/-- What follows a word begins with a capital. -/
theorem head?_titles (h : ∀ word ∈ words, IsWord word) :
    (words.flatMap capitalize).head?.any isLowercase = false := by
  cases words with
  | nil => rfl
  | cons word words =>
    obtain ⟨c, rest, rfl, hc, -⟩ := h word (List.mem_cons_self ..)
    rw [List.flatMap_cons, capitalize_cons hc]
    exact isLowercase_toUpper hc

/-! ### Words one after the other -/

/-- After a word the next one is told apart unless the two run together. -/
theorem beginsWord_title_iff (hword : IsWord word) (hc : c.isLower = true)
    (hrest : ∀ d ∈ rest, IsSmall d) (hwords : ∀ word ∈ words, IsWord word) :
    beginsWord (capitalize word).getLast? c.toUpper (rest ++ words.flatMap capitalize).head? = true ↔
      ¬ RunsInto word (c :: rest) := by
  obtain ⟨e, more, rfl, he, hmore⟩ := hword
  rw [beginsWord, isUppercase_toUpper hc, Bool.true_and, getLast?_capitalize he]
  cases hlast : more.getLast? with
  | none =>
    obtain rfl := List.getLast?_eq_none_iff.mp hlast
    have hdigit : e.toUpper.isDigit = false :=
      isDigit_of_isAlpha (Bool.or_eq_true_iff.mpr (.inl (isUpper_toUpper he)))
    rw [Option.none_or, Option.any_some, isLowercase_toUpper he, hdigit,
      isUppercase_toUpper he, Bool.true_and, Bool.false_or, Bool.false_or]
    cases rest with
    | nil => simp [RunsInto, head?_titles hwords]
    | cons d rest =>
      have hd := hrest d (List.mem_cons_self ..)
      simp [RunsInto, hd.isLowercase_eq]
  | some d =>
    -- The last letter or digit of a longer word is in lower case.
    have hd := hmore d (List.mem_of_getLast? hlast)
    have hmore : more ≠ [] := by
      rintro rfl
      cases hlast
    rw [Option.some_or, Option.any_some, hd.isLowercase_eq]
    simp [RunsInto, hmore]

/-- After a word the next ones are read back exactly if none runs together with the one before. -/
theorem snakeFrom_titles_iff (hword : IsWord word) (hwords : ∀ word ∈ words, IsWord word) :
    snakeFrom (capitalize word).getLast? (words.flatMap capitalize) = words.flatMap ('_' :: ·) ↔
      (word :: words).IsChain fun word next => ¬ RunsInto word next := by
  induction words generalizing word with
  | nil => simp [snakeFrom]
  | cons next words ih =>
    obtain ⟨hnext, hmore⟩ := List.forall_mem_cons.mp hwords
    have hchain := ih hnext hmore
    obtain ⟨c, rest, rfl, hc, hrest⟩ := hnext
    rw [List.flatMap_cons, List.flatMap_cons, snakeFrom_capitalize hc hrest,
      List.isChain_cons_cons, ← hchain, ← beginsWord_title_iff hword hc hrest hmore]
    split
    · next hbegins =>
      rw [and_iff_right hbegins]
      exact List.append_right_inj ('_' :: c :: rest)
    · next hbegins =>
      -- Without the underscore a letter stands where the name has one.
      refine iff_of_false (fun heq => ?_) (fun h => hbegins h.1)
      obtain ⟨rfl, -⟩ := List.cons.inj heq
      exact absurd hc (by decide)

theorem intercalate_cons (word : List Char) (words : List (List Char)) :
    ['_'].intercalate (word :: words) = word ++ words.flatMap ('_' :: ·) := by
  induction words generalizing word with
  | nil => simp [List.intercalate]
  | cons next words ih =>
    rw [List.intercalate_cons_cons, ih, List.flatMap_cons, List.append_assoc]
    rfl

theorem underscore_notMem_word (h : IsWord word) : '_' ∉ word := by
  obtain ⟨c, rest, rfl, hc, hrest⟩ := h
  intro hmem
  rcases List.mem_cons.mp hmem with rfl | hmem
  · exact absurd hc (by decide)
  · exact absurd (hrest _ hmem) (by decide)

theorem titleCase_intercalate (h : ∀ word ∈ words, IsWord word) :
    titleCase (['_'].intercalate words) = words.flatMap capitalize := by
  cases words with
  | nil => rfl
  | cons word words =>
    rw [titleCase, Text.splitOn_eq, List.splitOn_intercalate _
      (fun word hword => underscore_notMem_word (h word hword)) (List.cons_ne_nil _ _)]

/-- A name of words joined by underscores is read back from its title exactly if no word runs
together with the next. -/
theorem snakeCase_titleCase_iff (h : ∀ word ∈ words, IsWord word) :
    snakeCase (titleCase (['_'].intercalate words)) = ['_'].intercalate words ↔
      words.IsChain fun word next => ¬ RunsInto word next := by
  rw [titleCase_intercalate h]
  cases words with
  | nil => exact iff_of_true rfl .nil
  | cons word words =>
    obtain ⟨hword, hwords⟩ := List.forall_mem_cons.mp h
    rw [← snakeFrom_titles_iff hword hwords]
    obtain ⟨c, rest, rfl, hc, hrest⟩ := hword
    have hfirst : beginsWord none c.toUpper (rest ++ words.flatMap capitalize).head? = false :=
      Bool.and_false _
    rw [List.flatMap_cons, intercalate_cons, snakeCase, snakeFrom_capitalize hc hrest, hfirst]
    exact List.append_right_inj (c :: rest)

/-- A digit at the end of a word does no harm, but after a word of one letter a digit in the second
place does. -/
theorem snakeCase_titleCase_bucket :
    snakeCase (titleCase "s3_bucket".toList) = "s3_bucket".toList ∧
    snakeCase (titleCase "vpc_a_b2".toList) ≠ "vpc_a_b2".toList := by
  have hbucket : ∀ word ∈ ["s3".toList, "bucket".toList], IsWord word := by
    simp [IsWord, IsSmall]
  have hvpc : ∀ word ∈ ["vpc".toList, "a".toList, "b2".toList], IsWord word := by
    simp [IsWord, IsSmall]
  exact ⟨(snakeCase_titleCase_iff hbucket).mpr (by decide),
    (snakeCase_titleCase_iff hvpc).not.mpr (by decide)⟩

end ProviderCoverage.Naming

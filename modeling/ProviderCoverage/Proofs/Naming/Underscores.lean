import ProviderCoverage.Proofs.Naming.SnakeCase
import ProviderCoverage.Proofs.Unicode.Underscore

/-! The underscores of snake case. They are put before the characters that begin a word
(`spell_marked`), and never beside another one (`InsertedAt.apart`): no look at what has been
written is needed to leave them out (`writeSnake_eq`). Of an ASCII text snake case is lower case
with these underscores, and it stays as it is when it is taken again (`snakeCase_laws`). -/

namespace ProviderCoverage.Naming

open Unicode

/-- Every character of a text, with whether a word begins at it. -/
def marked (previous : Option Char) : List Char → List (Bool × Char)
  | [] => []
  | c :: rest => (beginsWord previous c rest.head?, c) :: marked (some c) rest

/-- Lower case with an underscore before each marked character. -/
def spell (places : List (Bool × Char)) : List Char :=
  places.flatMap fun (mark, c) => (if mark then ['_'] else []) ++ lowercase c

/-- Snake case written after something else, where no underscore is written after an underscore. -/
def writeSnake (written : List Char) (previous : Option Char) : List Char → List Char
  | [] => written
  | c :: rest =>
    let mark :=
      if beginsWord previous c rest.head? && written.getLast? != some '_' then ['_'] else []
    writeSnake (written ++ mark ++ lowercase c) (some c) rest

/-- The snake case of a text has an underscore between these two parts that the text has not. -/
def InsertedAt (s left right : List Char) : Prop :=
  ∃ before c after, marked none s = before ++ (true, c) :: after ∧
    left = spell before ∧ right = spell ((false, c) :: after)

variable {s left right : List Char} {previous next : Option Char} {c d : Char}
  {places before after : List (Bool × Char)}

/-! ### Marks -/

theorem map_snd_marked (previous : Option Char) (s : List Char) :
    (marked previous s).map (·.2) = s := by
  induction s generalizing previous with
  | nil => rfl
  | cons c rest ih => rw [marked, List.map_cons, ih]

@[simp] theorem spell_nil : spell [] = [] := rfl

theorem spell_cons (mark : Bool) (c : Char) (places : List (Bool × Char)) :
    spell ((mark, c) :: places) = (if mark then ['_'] else []) ++ lowercase c ++ spell places :=
  List.flatMap_cons

theorem spell_append (places places' : List (Bool × Char)) :
    spell (places ++ places') = spell places ++ spell places' :=
  List.flatMap_append

theorem spell_marked (previous : Option Char) (s : List Char) :
    spell (marked previous s) = snakeFrom previous s := by
  induction s generalizing previous with
  | nil => rfl
  | cons c rest ih => rw [marked, spell_cons, ih, snakeFrom]

/-- A word begins with an upper-case character, after some character that is no underscore. -/
theorem ne_underscore_of_beginsWord (h : beginsWord previous c next = true) :
    c ≠ '_' ∧ ∃ p, previous = some p ∧ p ≠ '_' := by
  rw [beginsWord, Bool.and_eq_true, Option.any_eq_true] at h
  obtain ⟨hc, p, hprevious, hp⟩ := h
  refine ⟨ne_underscore_of_isUppercase hc, p, hprevious, ?_⟩
  rintro rfl
  exact Bool.false_ne_true hp

/-- What a marked character comes after. -/
theorem ne_underscore_of_marked (h : marked previous s = before ++ (true, c) :: after) :
    c ≠ '_' ∧ ∃ p, (before.map (·.2)).getLast?.or previous = some p ∧ p ≠ '_' := by
  induction before generalizing previous s with
  | nil =>
    cases s with
    | nil => cases h
    | cons d rest =>
      obtain ⟨hplace, -⟩ := List.cons.inj h
      obtain ⟨hmark, rfl⟩ := Prod.mk.inj hplace
      exact ne_underscore_of_beginsWord hmark
  | cons place before ih =>
    cases s with
    | nil => cases h
    | cons d rest =>
      obtain ⟨rfl, hrest⟩ := List.cons.inj h
      obtain ⟨hc, p, hp, hne⟩ := ih hrest
      exact ⟨hc, p, (Lists.getLast?_cons_or ..).trans hp, hne⟩

/-! ### Neighbours -/

theorem exists_head?_lowercase (hc : c ≠ '_') (t : List Char) :
    ∃ d, (lowercase c ++ t).head? = some d ∧ d ≠ '_' := by
  obtain ⟨d, rest, hlower⟩ := List.exists_cons_of_ne_nil (lowercase_ne_nil c)
  have hfree := underscore_notMem_lowercase hc
  rw [hlower] at hfree ⊢
  exact ⟨d, rfl, fun heq => hfree (heq ▸ List.mem_cons_self ..)⟩

theorem exists_getLast?_lowercase (hc : c ≠ '_') (t : List Char) :
    ∃ d, (t ++ lowercase c).getLast? = some d ∧ d ≠ '_' := by
  refine ⟨(lowercase c).getLast (lowercase_ne_nil c), ?_, fun heq => ?_⟩
  · rw [List.getLast?_append_of_ne_nil _ (lowercase_ne_nil c), List.getLast?_eq_some_getLast]
  · exact underscore_notMem_lowercase hc (heq ▸ List.getLast_mem _)

/-- What ends with a character ends with its image. -/
theorem exists_getLast?_spell (h : (places.map (·.2)).getLast? = some c) (hc : c ≠ '_') :
    ∃ d, (spell places).getLast? = some d ∧ d ≠ '_' := by
  rw [List.getLast?_map] at h
  obtain ⟨⟨mark, c⟩, hlast, rfl⟩ := Option.map_eq_some_iff.mp h
  obtain ⟨before, rfl⟩ := List.getLast?_eq_some_iff.mp hlast
  rw [spell_append, spell_cons, spell_nil, List.append_nil, ← List.append_assoc]
  exact exists_getLast?_lowercase hc _

/-- An inserted underscore stands between two characters that are none. -/
theorem InsertedAt.apart (h : InsertedAt s left right) : snakeCase s = left ++ '_' :: right ∧
    (∃ d, left.getLast? = some d ∧ d ≠ '_') ∧ ∃ d, right.head? = some d ∧ d ≠ '_' := by
  obtain ⟨before, c, after, hmarked, rfl, rfl⟩ := h
  obtain ⟨hc, p, hp, hne⟩ := ne_underscore_of_marked hmarked
  rw [Option.or_none] at hp
  refine ⟨?_, exists_getLast?_spell hp hne, ?_⟩
  · rw [snakeCase, ← spell_marked, hmarked, spell_append]
    rfl
  · rw [spell_cons]
    exact exists_head?_lowercase hc _

/-- What has been written ends in an underscore only after an underscore of the text, and then no
word begins. -/
theorem writeSnake_eq {written : List Char}
    (h : ∀ p, previous = some p → p ≠ '_' → written.getLast? ≠ some '_') :
    writeSnake written previous s = written ++ snakeFrom previous s := by
  induction s generalizing written previous with
  | nil => exact (List.append_nil written).symm
  | cons c rest ih =>
    have hmark : (beginsWord previous c rest.head? && written.getLast? != some '_') =
        beginsWord previous c rest.head? := by
      cases hbegins : beginsWord previous c rest.head? with
      | false => rfl
      | true =>
        obtain ⟨-, p, hp, hne⟩ := ne_underscore_of_beginsWord hbegins
        simpa using h p hp hne
    rw [writeSnake, hmark, ih, snakeFrom]
    · simp only [List.append_assoc]
    · intro p hp hne
      cases hp
      obtain ⟨d, hlast, hd⟩ := exists_getLast?_lowercase hne
        (written ++ if beginsWord previous c rest.head? then ['_'] else [])
      rw [hlast]
      exact fun heq => hd (Option.some.inj heq)

/-! ### ASCII texts -/

theorem eq_underscore_or_mem_lowercase (h : d ∈ snakeFrom previous s) :
    d = '_' ∨ ∃ c ∈ s, d ∈ lowercase c := by
  induction s generalizing previous with
  | nil => cases h
  | cons c rest ih =>
    rw [snakeFrom, List.mem_append, List.mem_append] at h
    rcases h with (h | h) | h
    · split at h
      · exact .inl (List.mem_singleton.mp h)
      · cases h
    · exact .inr ⟨c, List.mem_cons_self .., h⟩
    · rcases ih h with h | ⟨c', hc', h⟩
      · exact .inl h
      · exact .inr ⟨c', List.mem_cons_of_mem _ hc', h⟩

/-- Without upper case no word begins. -/
theorem snakeFrom_of_not_isUppercase (h : ∀ c ∈ s, isUppercase c = false) :
    snakeFrom previous s = s.flatMap lowercase := by
  induction s generalizing previous with
  | nil => rfl
  | cons c rest ih =>
    obtain ⟨hc, hrest⟩ := List.forall_mem_cons.mp h
    rw [snakeFrom, beginsWord, hc, ih hrest, List.flatMap_cons]
    rfl

theorem flatMap_lowercase_of_ascii (h : ∀ c ∈ s, c.toNat < 128) :
    s.flatMap lowercase = s.map Char.toLower := by
  rw [List.flatMap_congr fun c hc => lowercase_of_ascii (h c hc), List.map_eq_flatMap]

theorem ascii_of_mem_snakeCase (h : ∀ c ∈ s, c.toNat < 128) (hd : d ∈ snakeCase s) :
    d.toNat < 128 ∧ d.isUpper = false := by
  rcases eq_underscore_or_mem_lowercase hd with rfl | ⟨c, hc, hd⟩
  · decide
  · rw [lowercase_of_ascii (h c hc), List.mem_singleton] at hd
    subst hd
    exact ⟨ascii_toLower (h c hc), isUpper_toLower (h c hc)⟩

theorem isUppercase_of_mem_snakeCase (h : ∀ c ∈ s, c.toNat < 128) (hd : d ∈ snakeCase s) :
    isUppercase d = false := by
  obtain ⟨hascii, hupper⟩ := ascii_of_mem_snakeCase h hd
  rw [isUppercase_of_ascii hascii, hupper]

theorem snakeCase_snakeCase (h : ∀ c ∈ s, c.toNat < 128) :
    snakeCase (snakeCase s) = snakeCase s := by
  calc snakeCase (snakeCase s)
    _ = (snakeCase s).flatMap lowercase :=
      snakeFrom_of_not_isUppercase fun _ hd => isUppercase_of_mem_snakeCase h hd
    _ = (snakeCase s).map Char.toLower :=
      flatMap_lowercase_of_ascii fun _ hd => (ascii_of_mem_snakeCase h hd).1
    _ = (snakeCase s).map id := List.map_congr_left fun _ hd =>
      toLower_eq_self (ascii_of_mem_snakeCase h hd).1 (ascii_of_mem_snakeCase h hd).2
    _ = snakeCase s := List.map_id _

theorem head?_of_snakeCase (h : (snakeCase s).head? = some '_') : s.head? = some '_' := by
  cases s with
  | nil => cases h
  | cons c rest =>
    by_contra hne
    have hc : c ≠ '_' := fun heq => hne (congrArg some heq)
    obtain ⟨d, hhead, hd⟩ := exists_head?_lowercase hc (snakeFrom (some c) rest)
    have hfirst : beginsWord none c rest.head? = false := Bool.and_false _
    rw [snakeCase, snakeFrom, hfirst, List.append_assoc] at h
    exact hd (Option.some.inj (hhead.symm.trans h))

/-- The snake case of an ASCII text has no upper case and is its own snake case. It is the text in
lower case with underscores before the marked characters: without any underscores the two are the
same, it begins with one only if the text does, no inserted one is beside another one, and so none
would be left out for coming after another one. -/
theorem snakeCase_laws (h : ∀ c ∈ s, c.toNat < 128) :
    (∀ d ∈ snakeCase s, isUppercase d = false) ∧
    snakeCase (snakeCase s) = snakeCase s ∧
    (snakeCase s).filter (· != '_') = (s.map Char.toLower).filter (· != '_') ∧
    ((snakeCase s).head? = some '_' → s.head? = some '_') ∧
    (spell (marked none s) = snakeCase s ∧ (marked none s).map (·.2) = s) ∧
    (∀ left right, InsertedAt s left right → snakeCase s = left ++ '_' :: right ∧
      (∃ d, left.getLast? = some d ∧ d ≠ '_') ∧ ∃ d, right.head? = some d ∧ d ≠ '_') ∧
    writeSnake [] none s = snakeCase s := by
  refine ⟨fun d hd => isUppercase_of_mem_snakeCase h hd, snakeCase_snakeCase h, ?_,
    head?_of_snakeCase, ⟨spell_marked none s, map_snd_marked none s⟩,
    fun _ _ hinserted => hinserted.apart, writeSnake_eq nofun⟩
  rw [filter_snakeCase, letters, flatMap_lowercase_of_ascii h]

/-- The first underscore is inserted, the second is there, and the third is inserted again. -/
theorem snakeCase_laws_httpServer : ∃ s, (∀ c ∈ s, c.toNat < 128) ∧
    snakeCase s = "http_server_v2_ok".toList ∧
    snakeCase "http_server_v2_ok".toList = "http_server_v2_ok".toList ∧
    InsertedAt s "http".toList "server_v2_ok".toList ∧
    "http".toList ++ '_' :: "server_v2_ok".toList = "http_server_v2_ok".toList := by
  have hascii : ∀ c ∈ "HTTPServer_V2Ok".toList, c.toNat < 128 := by simp
  obtain ⟨-, hfixed, -, -, -, hapart, -⟩ := snakeCase_laws hascii
  have hsnake : snakeCase "HTTPServer_V2Ok".toList = "http_server_v2_ok".toList := by
    decide
  have hinserted : InsertedAt "HTTPServer_V2Ok".toList "http".toList "server_v2_ok".toList :=
    ⟨marked none "HTTP".toList, 'S', marked (some 'S') "erver_V2Ok".toList, by decide,
      by decide, by decide⟩
  rw [hsnake] at hfixed hapart
  exact ⟨_, hascii, hsnake, hfixed, hinserted, (hapart _ _ hinserted).1.symm⟩

end ProviderCoverage.Naming

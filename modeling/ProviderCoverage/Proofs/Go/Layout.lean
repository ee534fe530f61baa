import ProviderCoverage.Go.Lexeme
import ProviderCoverage.Proofs.Lists
import ProviderCoverage.Proofs.Text.WhiteSpace

/-! The layout of Go source text: where blanks stand between its lexemes. A lexeme is white space
through and through, or begins with something else and does not end in white space that goes on
after it (`endsClean_lexeme`). So white space is put in order lexeme by lexeme
(`normalizeSpace_eq_spaced`), and of two texts with the same lexemes apart from blanks the same is
left exactly if they have blanks in the same places (`normalizeSpace_eq_iff`). -/

namespace ProviderCoverage

open Text Unicode

/-! ### White space and other characters -/

namespace Unicode

variable {c : Char}

/-- The code points of white space. -/
def whiteSpace : List Nat :=
  List.range' 9 5 ++ [32, 133, 160, 5760] ++ List.range' 8192 11 ++ [8232, 8233, 8239, 8287, 12288]

theorem toNat_mem_whiteSpace (h : isWhiteSpace c = true) : c.toNat ∈ whiteSpace := by
  simp only [isWhiteSpace, Bool.or_eq_true, Bool.and_eq_true, decide_eq_true_eq, beq_iff_eq] at h
  simp only [whiteSpace, List.mem_append, List.mem_range'_1, List.mem_cons, List.not_mem_nil, or_false]
  omega

/-- What accepts no white space accepts other characters only. -/
theorem isWhiteSpace_eq_false_of {p : Char → Bool}
    (hp : ∀ n ∈ whiteSpace, p (Char.ofNat n) = false) (h : p c = true) : isWhiteSpace c = false := by
  refine Bool.eq_false_iff.mpr fun hwhite => ?_
  have hrefused := hp _ (toNat_mem_whiteSpace hwhite)
  rw [Char.ofNat_toNat, h] at hrefused
  cases hrefused

theorem isWhiteSpace_eq_false_of_isWordChar (h : isWordChar c = true) : isWhiteSpace c = false :=
  isWhiteSpace_eq_false_of (by decide +kernel) h

end Unicode

namespace Go

variable {s rest : List Char} {c quote : Char} {n : Nat}

theorem isBlank_eq : isBlank = isWhiteSpace := by
  have hblank : ∀ c ∈ [' ', '\t', '\n', '\r'], isWhiteSpace c = true :=
    List.all_eq_true.mp (by decide)
  funext c
  by_cases hc : c ∈ [' ', '\t', '\n', '\r']
  · rw [hblank c hc, isBlank, hblank c hc, Bool.or_true]
  · simp_all [isBlank]

/-! ### Where lexemes end -/

/-- After the first `n` characters white space follows, or nothing, or they end in something else.
-/
def EndsClean (s : List Char) (n : Nat) : Prop :=
  (∀ c ∈ (s.drop n).head?, isWhiteSpace c = true) ∨
    ∃ c, (s.take n).getLast? = some c ∧ isWhiteSpace c = false

theorem EndsClean.cons (h : EndsClean s n) : EndsClean (c :: s) (n + 1) := by
  refine h.imp id ?_
  rintro ⟨d, hlast, hd⟩
  exact ⟨d, by rw [List.take_succ_cons, List.getLast?_cons, hlast]; rfl, hd⟩

/-- White space is put in order apart before a clean end and after it. -/
theorem EndsClean.normalizeSpace_eq (h : EndsClean s n) (hs : normalizeSpace (s.take n) ≠ []) :
    normalizeSpace s =
      normalizeSpace (s.take n) ++ (joint (s.drop n) ++ normalizeSpace (s.drop n)) := by
  rw [← normalizeSpace_append hs, List.take_append_drop]
  refine h.imp id ?_
  rintro ⟨c, hlast, hc⟩ d hd
  rw [hlast] at hd
  cases hd
  exact hc

theorem endsClean_of_forall (hs : s ≠ []) (h : ∀ d ∈ s.take (n + 1), isWhiteSpace d = false) :
    EndsClean s (n + 1) := by
  have hne : s.take (n + 1) ≠ [] := by simp [hs]
  exact .inr ⟨_, List.getLast?_eq_some_getLast hne, h _ (List.getLast_mem hne)⟩

theorem endsClean_quotedExtent (hquote : isWhiteSpace quote = false) :
    EndsClean s (quotedExtent quote s) := by
  fun_induction quotedExtent quote s with
  | case1 => exact .inl nofun
  | case2 c rest ih =>
    rw [Nat.add_comm]
    exact ih.cons.cons
  | case3 => exact .inr ⟨quote, rfl, hquote⟩
  | case4 => exact .inl (by simp; decide)
  | case5 c rest _ _ _ ih =>
    rw [Nat.add_comm]
    exact ih.cons

theorem endsClean_rawExtent : EndsClean s (rawExtent s) := by
  fun_induction rawExtent s with
  | case1 => exact .inl nofun
  | case2 => exact .inr ⟨'\x60', rfl, by decide⟩
  | case3 c rest _ ih =>
    rw [Nat.add_comm]
    exact ih.cons

theorem endsClean_commentExtent : EndsClean s (commentExtent s) := by
  fun_induction commentExtent s with
  | case1 => exact .inl nofun
  | case2 => exact .inr ⟨'/', rfl, by decide⟩
  | case3 c rest _ ih =>
    rw [Nat.add_comm]
    exact ih.cons

theorem endsClean_line : EndsClean s (s.takeWhile (· != '\n')).length := by
  refine .inl fun c hc => ?_
  rw [Lists.drop_length_takeWhile] at hc
  have hbreak : c = '\n' := by simpa using Lists.head?_dropWhile_eq_false c hc
  rw [hbreak]
  decide

/-- The characters of numbers, and the signs of exponents. -/
def isNumberChar (c : Char) : Bool :=
  c.isAlphanum || c == '_' || c == '.' || c == '+' || c == '-'

theorem isWhiteSpace_eq_false_of_mem_number {hex : Bool} {previous : Char} :
    ∀ d ∈ s.take (numberExtent hex previous s), isWhiteSpace d = false := by
  fun_induction numberExtent hex previous s with
  | case1 => nofun
  | case2 hex previous c rest mark hc ih =>
    rw [Nat.add_comm, List.take_succ_cons, List.forall_mem_cons]
    refine ⟨isWhiteSpace_eq_false_of (p := isNumberChar) (by decide) ?_, ih⟩
    rw [isNumberChar]
    grind
  | case3 => nofun

theorem isWhiteSpace_eq_false_of_mem_operator (hc : isWhiteSpace c = false) :
    ∀ d ∈ (c :: rest).take (operatorExtent (c :: rest) - 1 + 1), isWhiteSpace d = false := by
  have hoperators :
      operators.all fun op => !op.toList.isEmpty && op.toList.all (!isWhiteSpace ·) := by decide
  rw [operatorExtent]
  cases hop : operators.find? fun op => op.toList.isPrefixOf (c :: rest) with
  | none => simpa using hc
  | some op =>
    obtain ⟨hne, hwhite⟩ : op.toList ≠ [] ∧ ∀ d ∈ op.toList, isWhiteSpace d = false := by
      simpa using List.all_eq_true.mp hoperators op (List.mem_of_find?_eq_some hop)
    have hprefix : op.toList <+: c :: rest := by simpa using List.find?_some hop
    have hlength : op.length - 1 + 1 = op.toList.length := by
      rw [← String.length_toList]
      exact Nat.sub_add_cancel (List.length_pos_iff.mpr hne)
    rw [Option.map_some, Option.getD_some, hlength, ← List.prefix_iff_eq_take.mp hprefix]
    exact hwhite

/-- A lexeme is a blank exactly if it begins with white space. -/
theorem lexeme_eq_blank_iff : (lexeme c rest).1 = .blank ↔ isWhiteSpace c = true := by
  rw [lexeme, isBlank_eq]
  grind

theorem isWhiteSpace_of_mem_blank (hc : isWhiteSpace c = true) :
    ∀ d ∈ c :: rest.take (lexeme c rest).2, isWhiteSpace d = true := by
  rw [lexeme, isBlank_eq, if_pos hc, Lists.take_length_takeWhile]
  exact List.forall_mem_cons.mpr ⟨hc, fun d hd => List.mem_takeWhile_imp hd⟩

theorem endsClean_lexeme (hc : isWhiteSpace c = false) :
    EndsClean (c :: rest) ((lexeme c rest).2 + 1) := by
  have hquote : isWhiteSpace '"' = false ∧ isWhiteSpace '\'' = false := by decide
  rw [lexeme, isBlank_eq, hc, if_neg nofun]
  -- The kinds of lexemes in the order in which they are tried, comments first.
  split
  · exact endsClean_line.cons
  split
  · rename_i hopens
    cases rest with
    | nil => simp at hopens
    | cons d rest =>
      rw [Nat.add_comm 1]
      exact endsClean_commentExtent.cons.cons
  split
  · exact (endsClean_quotedExtent hquote.1).cons
  split
  · exact endsClean_rawExtent.cons
  split
  · exact (endsClean_quotedExtent hquote.2).cons
  split
  · refine endsClean_of_forall (List.cons_ne_nil c rest) ?_
    rw [List.take_succ_cons]
    exact List.forall_mem_cons.mpr ⟨hc, isWhiteSpace_eq_false_of_mem_number⟩
  split
  · refine endsClean_of_forall (List.cons_ne_nil c rest) ?_
    rw [List.take_succ_cons, Lists.take_length_takeWhile]
    refine List.forall_mem_cons.mpr ⟨hc, fun d hd => isWhiteSpace_eq_false_of_isWordChar ?_⟩
    exact List.mem_takeWhile_imp hd
  · exact endsClean_of_forall (List.cons_ne_nil c rest) (isWhiteSpace_eq_false_of_mem_operator hc)

/-! ### Spellings and gaps -/

/-- The tokens and comments of a text, as they are written. -/
def spellings (s : List Char) : List (List Char) :=
  ((lexemes s).filter (·.kind != .blank)).map (·.text)

/-- For each lexeme other than a blank, whether there is a blank between it and another one. -/
def gapsOf : List Lexeme → List Bool
  | [] => []
  | l :: rest =>
    if l.kind = .blank then gapsOf rest
    else (rest.head?.any (·.kind == .blank) && rest.any (·.kind != .blank)) :: gapsOf rest

/-- For each token and comment of a text, whether white space stands between it and another one. -/
def gaps (s : List Char) : List Bool :=
  gapsOf (lexemes s)

/-- Texts in a row, each with white space put in order, and one space after those with a gap. -/
def spaced : List (List Char) → List Bool → List Char
  | [], _ => []
  | _, [] => []
  | t :: ts, gap :: gaps => normalizeSpace t ++ ((if gap then [' '] else []) ++ spaced ts gaps)

variable {t : List Char} {ts : List (List Char)} {gs gs' : List Bool}

theorem length_gaps : (gaps s).length = (spellings s).length := by
  rw [gaps, spellings]
  induction lexemes s with
  | nil => rfl
  | cons l rest ih => by_cases h : l.kind = .blank <;> simpa [gapsOf, h] using ih

theorem spellings_of_blank (hc : isWhiteSpace c = true) :
    spellings (c :: rest) = spellings (rest.drop (lexeme c rest).2) := by
  rw [spellings, lexemes, lexeme_eq_blank_iff.mpr hc]
  rfl

theorem spellings_of_not_blank (hc : isWhiteSpace c = false) : spellings (c :: rest) =
    (c :: rest.take (lexeme c rest).2) :: spellings (rest.drop (lexeme c rest).2) := by
  have hkind : (lexeme c rest).1 ≠ .blank := mt lexeme_eq_blank_iff.mp (by simp [hc])
  rw [spellings, lexemes]
  simp [hkind, spellings]

theorem gaps_of_blank (hc : isWhiteSpace c = true) :
    gaps (c :: rest) = gaps (rest.drop (lexeme c rest).2) := by
  rw [gaps, lexemes, lexeme_eq_blank_iff.mpr hc]
  rfl

theorem head_lexemes : (lexemes s).head?.any (·.kind == .blank) = s.head?.any isWhiteSpace := by
  cases s with
  | nil => rw [lexemes]; rfl
  | cons c rest =>
    rw [lexemes, Bool.eq_iff_iff]
    simp [lexeme_eq_blank_iff]

theorem gaps_of_not_blank (hc : isWhiteSpace c = false) : gaps (c :: rest) =
    ((rest.drop (lexeme c rest).2).head?.any isWhiteSpace &&
      !(spellings (rest.drop (lexeme c rest).2)).isEmpty) ::
        gaps (rest.drop (lexeme c rest).2) := by
  have hkind : (lexeme c rest).1 ≠ .blank := mt lexeme_eq_blank_iff.mp (by simp [hc])
  have hothers : (lexemes (rest.drop (lexeme c rest).2)).any (·.kind != .blank) =
      !(spellings (rest.drop (lexeme c rest).2)).isEmpty := by
    rw [spellings, List.isEmpty_map, Bool.eq_iff_iff]
    simp
  rw [gaps, lexemes, gapsOf, if_neg hkind, head_lexemes, hothers]
  rfl

theorem normalizeSpace_ne_nil_of_mem_spellings (h : t ∈ spellings s) : normalizeSpace t ≠ [] := by
  fun_induction lexemes s with
  | case1 => simp [spellings, lexemes] at h
  | case2 c rest found ih =>
    cases hc : isWhiteSpace c with
    | true => exact ih (spellings_of_blank hc ▸ h)
    | false =>
      rw [spellings_of_not_blank hc] at h
      rcases List.mem_cons.mp h with rfl | h
      · exact normalizeSpace_cons_ne_nil hc
      · exact ih h

theorem spaced_eq_nil_iff (hts : ∀ t ∈ ts, normalizeSpace t ≠ []) (hlength : gs.length = ts.length) :
    spaced ts gs = [] ↔ ts = [] := by
  cases ts with
  | nil => simp [spaced]
  | cons t ts =>
    cases gs with
    | nil => cases hlength
    | cons gap gs => simp [spaced, hts t (List.mem_cons_self ..)]

/-- To put white space in order is to leave one space in every gap. -/
theorem normalizeSpace_eq_spaced : normalizeSpace s = spaced (spellings s) (gaps s) := by
  fun_induction lexemes s with
  | case1 =>
    rw [spellings, lexemes]
    rfl
  | case2 c rest found ih =>
    have hsplit : c :: rest = (c :: rest.take found.2) ++ rest.drop found.2 := by simp
    cases hc : isWhiteSpace c with
    | true =>
      rw [spellings_of_blank hc, gaps_of_blank hc, ← ih, hsplit,
        normalizeSpace_append_of_white (isWhiteSpace_of_mem_blank hc)]
    | false =>
      have hstart : normalizeSpace (c :: rest.take found.2) ≠ [] := normalizeSpace_cons_ne_nil hc
      have hempty : (normalizeSpace (rest.drop found.2)).isEmpty =
          (spellings (rest.drop found.2)).isEmpty := by
        rw [ih, Bool.eq_iff_iff, List.isEmpty_iff, List.isEmpty_iff]
        exact spaced_eq_nil_iff (fun _ => normalizeSpace_ne_nil_of_mem_spellings) length_gaps
      rw [spellings_of_not_blank hc, gaps_of_not_blank hc, spaced, ← ih,
        (endsClean_lexeme hc).normalizeSpace_eq hstart, List.take_succ_cons, List.drop_succ_cons,
        joint, hempty]

theorem isWhiteSpace_head_spaced (hts : ∀ t ∈ ts, normalizeSpace t ≠ []) :
    ∀ d ∈ (spaced ts gs).head?, isWhiteSpace d = false := by
  cases ts with
  | nil => simp [spaced]
  | cons t ts =>
    cases gs with
    | nil => simp [spaced]
    | cons gap gs =>
      rw [spaced, List.head?_append_of_ne_nil _ (hts t (List.mem_cons_self ..))]
      exact isWhiteSpace_head_normalizeSpace

/-- The gaps can be told from what is left. -/
theorem spaced_inj (hts : ∀ t ∈ ts, normalizeSpace t ≠ []) (hlength : gs.length = ts.length)
    (hlength' : gs'.length = ts.length) : spaced ts gs = spaced ts gs' ↔ gs = gs' := by
  induction ts generalizing gs gs' with
  | nil =>
    rw [List.length_eq_zero_iff.mp hlength, List.length_eq_zero_iff.mp hlength']
    exact iff_of_true rfl rfl
  | cons t ts ih =>
    obtain ⟨gap, gs, rfl⟩ := List.exists_cons_of_length_eq_add_one hlength
    obtain ⟨gap', gs', rfl⟩ := List.exists_cons_of_length_eq_add_one hlength'
    obtain ⟨-, hts⟩ := List.forall_mem_cons.mp hts
    -- A space cannot begin what is left of a text.
    have hne (gs₁ gs₂ : List Bool) : spaced ts gs₁ ≠ ' ' :: spaced ts gs₂ := fun heq => by
      have hspace : ∀ d ∈ (spaced ts gs₁).head?, isWhiteSpace d = false :=
        isWhiteSpace_head_spaced hts
      rw [heq] at hspace
      exact absurd (hspace ' ' rfl) (by decide)
    have ih := ih hts (Nat.succ.inj hlength) (Nat.succ.inj hlength')
    rw [spaced, spaced, List.append_cancel_left_eq, List.cons.injEq, ← ih]
    cases gap <;> cases gap' <;> simp [hne, (hne _ _).symm]

/-- With the same tokens and comments, the same is left exactly if there is white space in the same
places. -/
theorem normalizeSpace_eq_iff (h : spellings s = spellings t) :
    normalizeSpace s = normalizeSpace t ↔ gaps s = gaps t := by
  rw [normalizeSpace_eq_spaced, normalizeSpace_eq_spaced, ← h]
  exact spaced_inj (fun _ => normalizeSpace_ne_nil_of_mem_spellings) length_gaps
    (h ▸ length_gaps)

end Go
end ProviderCoverage

import Mathlib.Data.List.TakeWhile
import ProviderCoverage.Block
import ProviderCoverage.Proofs.Lists

/-! The blocks of a configuration text are the headers that occur in it: the leftmost one, then the
leftmost one after its end, and so on (`ofText_leftmost`). A header is recognised from its front and
in one way only, so nothing is lost by looking at one character after the other. -/

namespace ProviderCoverage.Block

/-- A header as it is written: keyword, type name, label and brace, with white space between. -/
inductive IsHeader : Block → List Char → Prop where
  | intro (kind : EntityKind) {gap gap' gap'' typeName label : List Char}
      (hgap : gap ≠ [] ∧ ∀ c ∈ gap, Unicode.isWhiteSpace c = true)
      (htypeName : typeName ≠ [] ∧ '"' ∉ typeName)
      (hgap' : gap' ≠ [] ∧ ∀ c ∈ gap', Unicode.isWhiteSpace c = true) (hlabel : '"' ∉ label)
      (hgap'' : ∀ c ∈ gap'', Unicode.isWhiteSpace c = true) :
      IsHeader ⟨kind, String.ofList typeName⟩
        (kind.keyword.toList ++ (gap ++ ('"' :: typeName ++ '"' :: (gap' ++ ('"' :: label ++ '"' ::
          (gap'' ++ ['\x7b']))))))

/-- Between two places of a text stands the header of a block, and it does not begin within a
word. -/
def Occurs (text : List Char) (start stop : Nat) (b : Block) : Prop :=
  ∃ before header after, text = before ++ (header ++ after) ∧ before.length = start ∧
    (before ++ header).length = stop ∧ IsHeader b header ∧
    before.getLast?.any Unicode.isWordChar = false

/-- The blocks whose headers are met from a place on, when each is the leftmost one and the search
goes on after its end. -/
inductive Leftmost (text : List Char) : Nat → List Block → Prop where
  | none {place : Nat} (h : ∀ start stop b, place ≤ start → ¬ Occurs text start stop b) :
      Leftmost text place []
  | next {place start stop : Nat} {b : Block} {bs : List Block} (hplace : place ≤ start)
      (hoccurs : Occurs text start stop b)
      (hleftmost : ∀ start' stop' b', place ≤ start' → start' < start →
        ¬ Occurs text start' stop' b')
      (hrest : Leftmost text stop bs) : Leftmost text place (b :: bs)

variable {s rest t text before after : List Char} {kind : EntityKind} {b b' : Block}
  {bs bs' : List Block} {previous : Option Char} {c : Char} {place start stop stop' : Nat}

/-! ### Headers at the front of a text -/

theorem keyword?_eq_some_iff :
    keyword? s = some (kind, rest) ↔ s = kind.keyword.toList ++ rest := by
  constructor
  · intro h
    obtain ⟨k, -, hk⟩ := List.exists_of_findSome?_eq_some h
    obtain ⟨r, hr, heq⟩ := Option.map_eq_some_iff.mp hk
    obtain ⟨rfl, rfl⟩ := Prod.mk.inj heq
    exact (List.isPrefixOf?_eq_some_iff_append_eq.mp hr).symm
  · rintro rfl
    -- No two keywords begin with the same letter.
    cases kind <;> rfl

theorem dropWhile_eq_cons_iff (hc : Unicode.isWhiteSpace c = false) :
    s.dropWhile Unicode.isWhiteSpace = c :: rest ↔
      ∃ gap, (∀ c ∈ gap, Unicode.isWhiteSpace c = true) ∧ s = gap ++ c :: rest := by
  constructor
  · intro h
    refine ⟨s.takeWhile Unicode.isWhiteSpace, fun c hc => List.mem_takeWhile_imp hc, ?_⟩
    rw [← h, List.takeWhile_append_dropWhile]
  · rintro ⟨gap, hgap, rfl⟩
    refine Lists.dropWhile_append_of_head hgap ?_
    rintro _ ⟨⟩
    exact hc

theorem quoted?_eq_some_iff : quoted? s = some (t, rest) ↔ s = '"' :: t ++ '"' :: rest ∧ '"' ∉ t := by
  unfold quoted?
  split
  · next s =>
    rw [upToQuote?, Text.splitFirst?_eq_some_iff, List.cons_append, List.cons_inj_right]
  · next hs =>
    refine iff_of_false (fun h => by cases h) ?_
    rintro ⟨rfl, -⟩
    exact hs _ rfl

theorem afterSpace?_quoted?_eq_some_iff : (afterSpace? s).bind quoted? = some (t, rest) ↔
    ∃ gap, (gap ≠ [] ∧ ∀ c ∈ gap, Unicode.isWhiteSpace c = true) ∧
      s = gap ++ ('"' :: t ++ '"' :: rest) ∧ '"' ∉ t := by
  constructor
  · intro h
    obtain ⟨s', hs', hquoted⟩ := Option.bind_eq_some_iff.mp h
    obtain ⟨rfl, ht⟩ := quoted?_eq_some_iff.mp hquoted
    cases s with
    | nil => cases hs'
    | cons c s =>
      rw [afterSpace?] at hs'
      split at hs'
      · next hc =>
        obtain ⟨gap, hgap, rfl⟩ := (dropWhile_eq_cons_iff (by decide)).mp (Option.some.inj hs')
        exact ⟨c :: gap, ⟨List.cons_ne_nil c gap, List.forall_mem_cons.mpr ⟨hc, hgap⟩⟩, rfl, ht⟩
      · cases hs'
  · rintro ⟨gap, ⟨hne, hgap⟩, rfl, ht⟩
    obtain ⟨c, gap, rfl⟩ := List.exists_cons_of_ne_nil hne
    obtain ⟨hc, hgap⟩ := List.forall_mem_cons.mp hgap
    have hdrop : (gap ++ ('"' :: t ++ '"' :: rest)).dropWhile Unicode.isWhiteSpace =
        '"' :: t ++ '"' :: rest := (dropWhile_eq_cons_iff (by decide)).mpr ⟨gap, hgap, rfl⟩
    rw [List.cons_append, afterSpace?, if_pos hc, hdrop]
    exact quoted?_eq_some_iff.mpr ⟨rfl, ht⟩

theorem header?_eq_some_iff :
    header? s = some (b, rest) ↔ ∃ header, IsHeader b header ∧ s = header ++ rest := by
  constructor
  · intro h
    rw [header?] at h
    split at h
    · cases h
    next kind s₁ hkeyword =>
    split at h
    · cases h
    next typeName s₂ htypeName =>
    split at h
    · cases h
    next hne =>
    split at h
    · cases h
    next label s₃ hlabel =>
    split at h
    · next rest' hbrace =>
      cases h
      obtain ⟨gap, hgap, rfl, hquote⟩ := afterSpace?_quoted?_eq_some_iff.mp htypeName
      obtain ⟨gap', hgap', rfl, hquote'⟩ := afterSpace?_quoted?_eq_some_iff.mp hlabel
      obtain ⟨gap'', hgap'', rfl⟩ := (dropWhile_eq_cons_iff (by decide)).mp hbrace
      refine ⟨_, .intro kind hgap ⟨by simpa using hne, hquote⟩ hgap' hquote' hgap'', ?_⟩
      rw [keyword?_eq_some_iff.mp hkeyword]
      simp
    · cases h
  · rintro ⟨_, ⟨kind, hgap, ⟨hne, hquote⟩, hgap', hquote', hgap''⟩, rfl⟩
    next gap gap' gap'' typeName label =>
    have hkeyword (s : List Char) : keyword? (kind.keyword.toList ++ s) = some (kind, s) :=
      keyword?_eq_some_iff.mpr rfl
    have htypeName (s : List Char) : (afterSpace? (gap ++ ('"' :: typeName ++ '"' :: s))).bind quoted? =
        some (typeName, s) := afterSpace?_quoted?_eq_some_iff.mpr ⟨gap, hgap, rfl, hquote⟩
    have hlabel (s : List Char) : (afterSpace? (gap' ++ ('"' :: label ++ '"' :: s))).bind quoted? =
        some (label, s) := afterSpace?_quoted?_eq_some_iff.mpr ⟨gap', hgap', rfl, hquote'⟩
    have hbrace : (gap'' ++ '\x7b' :: rest).dropWhile Unicode.isWhiteSpace = '\x7b' :: rest :=
      (dropWhile_eq_cons_iff (by decide)).mpr ⟨gap'', hgap'', rfl⟩
    have hsplit : kind.keyword.toList ++ (gap ++ ('"' :: typeName ++ '"' :: (gap' ++ ('"' :: label ++
        '"' :: (gap'' ++ ['\x7b']))))) ++ rest = kind.keyword.toList ++ (gap ++ ('"' :: typeName ++
        '"' :: (gap' ++ ('"' :: label ++ '"' :: (gap'' ++ '\x7b' :: rest))))) := by
      simp
    rw [hsplit, header?]
    simp only [hkeyword, htypeName, hlabel, hbrace, List.isEmpty_eq_false_iff.mpr hne]
    rfl

/-! ### Occurrences -/

/-- Where a header occurs, it is read off the front of what remains of the text. -/
theorem occurs_append_iff : Occurs (before ++ s) before.length stop b ↔
    before.getLast?.any Unicode.isWordChar = false ∧
      ∃ after, header? s = some (b, after) ∧ stop + after.length = (before ++ s).length := by
  constructor
  · rintro ⟨before', header, after, hsplit, hlength, hstop, hheader, hword⟩
    obtain ⟨rfl, rfl⟩ := List.append_inj hsplit hlength.symm
    refine ⟨hword, after, header?_eq_some_iff.mpr ⟨header, hheader, rfl⟩, ?_⟩
    rw [← hstop, ← List.append_assoc, ← List.length_append]
  · rintro ⟨hword, after, hfront, hstop⟩
    obtain ⟨header, hheader, rfl⟩ := header?_eq_some_iff.mp hfront
    refine ⟨before, header, after, rfl, rfl, ?_, hheader, hword⟩
    rw [← List.append_assoc, List.length_append] at hstop
    exact (Nat.add_right_cancel hstop).symm

/-- A place is the end of the text before it. -/
theorem Occurs.exists_append (h : Occurs text start stop b) :
    ∃ before s, text = before ++ s ∧ before.length = start := by
  obtain ⟨before, header, after, rfl, hlength, -⟩ := h
  exact ⟨before, header ++ after, rfl, hlength⟩

/-- At a place there is at most one header. -/
theorem Occurs.unique (h : Occurs text start stop b) (h' : Occurs text start stop' b') :
    stop = stop' ∧ b = b' := by
  obtain ⟨before, s, rfl, rfl⟩ := h.exists_append
  obtain ⟨-, after, hfront, hstop⟩ := occurs_append_iff.mp h
  obtain ⟨-, after', hfront', hstop'⟩ := occurs_append_iff.mp h'
  obtain ⟨rfl, rfl⟩ := Prod.mk.inj (Option.some.inj (hfront.symm.trans hfront'))
  exact ⟨Nat.add_right_cancel (hstop.trans hstop'.symm), rfl⟩

theorem Occurs.lt_length (h : Occurs text start stop b) : start < text.length := by
  obtain ⟨before, s, rfl, rfl⟩ := h.exists_append
  obtain ⟨-, after, hfront, -⟩ := occurs_append_iff.mp h
  have := length_header? hfront
  rw [List.length_append]
  omega

/-- Which blocks are met is determined by the text. -/
theorem Leftmost.unique (h : Leftmost text place bs) (h' : Leftmost text place bs') : bs = bs' := by
  induction h generalizing bs' with
  | none hnone =>
    cases h' with
    | none => rfl
    | next hplace hoccurs => exact absurd hoccurs (hnone _ _ _ hplace)
  | @next place start stop b bs hplace hoccurs hleftmost _ ih =>
    cases h' with
    | none hnone => exact absurd hoccurs (hnone _ _ _ hplace)
    | @next _ start' stop' b' bs' hplace' hoccurs' hleftmost' hrest' =>
      have hsame : start = start' := by
        rcases Nat.lt_trichotomy start start' with hlt | heq | hgt
        · exact absurd hoccurs (hleftmost' _ _ _ hplace hlt)
        · exact heq
        · exact absurd hoccurs' (hleftmost _ _ _ hplace' hgt)
      subst hsame
      obtain ⟨rfl, rfl⟩ := hoccurs.unique hoccurs'
      rw [ih hrest']

/-- Where no header begins, the search goes on at the next place. -/
theorem Leftmost.skip (h : Leftmost text (place + 1) bs)
    (hnone : ∀ stop b, ¬ Occurs text place stop b) : Leftmost text place bs := by
  cases h with
  | none h =>
    refine .none fun start stop b hplace hoccurs => ?_
    rcases Nat.eq_or_lt_of_le hplace with rfl | hlt
    · exact hnone _ _ hoccurs
    · exact h _ _ _ hlt hoccurs
  | next hplace hoccurs hleftmost hrest =>
    refine .next (Nat.le_of_succ_le hplace) hoccurs (fun start stop b hplace' hlt hoccurs' => ?_) hrest
    rcases Nat.eq_or_lt_of_le hplace' with rfl | hlt'
    · exact hnone _ _ hoccurs'
    · exact hleftmost _ _ _ hlt' hlt hoccurs'

/-! ### Scanning -/

theorem Leftmost.skip_char (h : Leftmost (before ++ [c] ++ rest) (before ++ [c]).length bs)
    (hnone : ∀ stop b, ¬ Occurs (before ++ c :: rest) before.length stop b) :
    Leftmost (before ++ c :: rest) before.length bs := by
  rw [List.append_assoc, List.length_append] at h
  exact h.skip hnone

theorem IsHeader.getLast? {header : List Char} (h : IsHeader b header) :
    header.getLast? = some '\x7b' := by
  cases h
  simp [List.getLast?_cons]

/-- The scan of what remains of a text, with the character before it, meets the leftmost headers. -/
theorem leftmost_scan (before s : List Char) :
    Leftmost (before ++ s) before.length (scan before.getLast? s) := by
  generalize hprevious : before.getLast? = previous
  fun_induction scan previous s generalizing before with
  | case1 previous =>
    refine .none fun start stop b hplace hoccurs => ?_
    have := hoccurs.lt_length
    rw [List.append_nil] at this
    omega
  | case2 previous c rest hword ih =>
    refine (ih _ List.getLast?_concat).skip_char fun stop b hoccurs => ?_
    rw [← hprevious, (occurs_append_iff.mp hoccurs).1] at hword
    cases hword
  | case3 previous c rest hword b after hfront ih =>
    obtain ⟨header, hheader, hsplit⟩ := header?_eq_some_iff.mp hfront
    rw [Bool.not_eq_true, ← hprevious] at hword
    have hrest : Leftmost (before ++ header ++ after) (before ++ header).length
        (scan (some '\x7b') after) :=
      ih _ (by rw [List.getLast?_append, hheader.getLast?]; rfl)
    rw [hsplit, ← List.append_assoc]
    refine .next (Nat.le_refl _) ?_ (fun _ _ _ hplace hlt => absurd hlt (Nat.not_lt.mpr hplace)) hrest
    exact ⟨before, header, after, List.append_assoc .., rfl, rfl, hheader, hword⟩
  | case4 previous c rest hword hnone ih =>
    refine (ih _ List.getLast?_concat).skip_char fun stop b hoccurs => ?_
    obtain ⟨-, after, hfront, -⟩ := occurs_append_iff.mp hoccurs
    rw [hnone] at hfront
    cases hfront

theorem scan_of_header? (hprevious : previous.any Unicode.isWordChar = false)
    (h : header? s = some (b, after)) : scan previous s = b :: scan (some '\x7b') after := by
  cases s with
  | nil => cases h
  | cons c rest =>
    rw [scan, if_neg (by rw [hprevious]; decide)]
    split
    · next hfront =>
      cases h.symm.trans hfront
      rfl
    · next hnone => cases h.symm.trans hnone

theorem scan_of_header?_eq_none (h : header? (c :: rest) = none) :
    scan previous (c :: rest) = scan (some c) rest := by
  rw [scan]
  split
  · rfl
  · split
    · next hfront => cases h.symm.trans hfront
    · rfl

/-! ### Written headers -/

/-- What it takes to write a header. -/
structure Heading where
  kind : EntityKind
  typeName : List Char
  label : List Char

namespace Heading

/-- The header with single spaces, an empty body and the end of the line. -/
def render (h : Heading) : List Char :=
  h.kind.keyword.toList ++ " \"".toList ++ h.typeName ++ "\" \"".toList ++ h.label
    ++ "\" \x7b\x7d\n".toList

def block (h : Heading) : Block :=
  ⟨h.kind, String.ofList h.typeName⟩

/-- A type name that is there, and no quotes inside the quotes. -/
structure IsFit (h : Heading) : Prop where
  typeName_ne_nil : h.typeName ≠ []
  typeName : '"' ∉ h.typeName
  label : '"' ∉ h.label

theorem header?_render {h : Heading} (hfit : h.IsFit) :
    header? (h.render ++ rest) = some (h.block, '\x7d' :: '\n' :: rest) := by
  have hspace : [' '] ≠ [] ∧ ∀ c ∈ [' '], Unicode.isWhiteSpace c = true :=
    ⟨List.cons_ne_nil _ _, List.forall_mem_singleton.mpr rfl⟩
  refine header?_eq_some_iff.mpr ⟨_, .intro h.kind hspace ⟨hfit.typeName_ne_nil, hfit.typeName⟩ hspace
    hfit.label hspace.2, ?_⟩
  simp [render]

theorem scan_flatMap_render {hs : List Heading} (hfit : ∀ h ∈ hs, h.IsFit)
    (hprevious : previous.any Unicode.isWordChar = false) :
    scan previous (hs.flatMap render) = hs.map block := by
  induction hs generalizing previous with
  | nil => rw [List.flatMap_nil, scan, List.map_nil]
  | cons h hs ih =>
    obtain ⟨hhead, hfit⟩ := List.forall_mem_cons.mp hfit
    rw [List.flatMap_cons, List.map_cons, scan_of_header? hprevious (header?_render hhead),
      scan_of_header?_eq_none rfl, scan_of_header?_eq_none rfl, ih hfit (by decide)]

end Heading

/-- The blocks of a text are those whose headers are met from its start on, each the leftmost after
the one before. So the headers that are written one after the other are all found, whatever words,
braces and line breaks there are in their quotes. -/
theorem ofText_leftmost :
    (∀ (text : String) (bs : List Block), ofText text = bs ↔ Leftmost text.toList 0 bs) ∧
    ∀ hs : List Heading, (∀ h ∈ hs, h.IsFit) →
      ofText (String.ofList (hs.flatMap Heading.render)) = hs.map Heading.block := by
  refine ⟨fun text bs => ?_, fun hs hfit => ?_⟩
  · have hscan : Leftmost text.toList 0 (ofText text) := leftmost_scan [] text.toList
    exact ⟨fun h => h ▸ hscan, hscan.unique⟩
  · rw [ofText, String.toList_ofList]
    exact Heading.scan_flatMap_render hfit rfl

/-- Two headers, the first with words of a header and a line break in its quotes. -/
def nestedHeadings : List Heading :=
  [⟨.resource, "data \x7b".toList, "\nresource ".toList⟩, ⟨.action, "example_run".toList, []⟩]

theorem nestedHeadings_found : (∀ h ∈ nestedHeadings, h.IsFit) ∧
    ofText (String.ofList (nestedHeadings.flatMap Heading.render)) =
      [⟨.resource, "data \x7b"⟩, ⟨.action, "example_run"⟩] := by
  have hfit : ∀ h ∈ nestedHeadings, h.IsFit := by
    intro h hmem
    rcases List.mem_pair.mp hmem with rfl | rfl <;> exact ⟨by decide, by decide, by decide⟩
  exact ⟨hfit, ofText_leftmost.2 nestedHeadings hfit⟩

end ProviderCoverage.Block

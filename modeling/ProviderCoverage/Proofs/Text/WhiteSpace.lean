import ProviderCoverage.Proofs.Lists
import ProviderCoverage.Proofs.Text.Parts

/-! White space put in order. Read from the front, a text keeps each character that is not white
space, with one space after it if white space and then something else follows
(`normalizeSpace_cons`). So a text that is put together from two can be put in order part by part
(`normalizeSpace_append`). -/

namespace ProviderCoverage.Text

open Unicode

variable {s t : List Char} {c : Char}

/-! ### Words -/

theorem words_cons_of_white (hc : isWhiteSpace c = true) : words (c :: s) = words s := by
  rw [words, words, splitWhere_eq_splitOnP, splitWhere_eq_splitOnP,
    List.splitOnP_cons_eq_if_modifyHead, if_pos hc]
  rfl

/-- A character before a word belongs to it. -/
theorem words_cons_of_head (hc : isWhiteSpace c = false) (hs : s.head?.any (!isWhiteSpace ·) = true) :
    ∃ word others, words s = word :: others ∧ words (c :: s) = (c :: word) :: others := by
  cases s with
  | nil => cases hs
  | cons d s =>
    have hd : isWhiteSpace d = false := by simpa using hs
    obtain ⟨part, parts, hparts⟩ := List.exists_cons_of_ne_nil (List.splitOnP_ne_nil isWhiteSpace s)
    refine ⟨d :: part, parts.filter (!·.isEmpty), ?_, ?_⟩
    · rw [words, splitWhere_eq_splitOnP, List.splitOnP_cons_eq_if_modifyHead, hd, hparts]
      rfl
    · rw [words, splitWhere_eq_splitOnP, List.splitOnP_cons_eq_if_modifyHead,
        List.splitOnP_cons_eq_if_modifyHead, hc, hd, hparts]
      rfl

/-- A character before white space, and the last one, is a word of its own. -/
theorem words_cons_of_gap (hc : isWhiteSpace c = false) (hs : s.head?.all isWhiteSpace = true) :
    words (c :: s) = [c] :: words s := by
  rw [words, words, splitWhere_eq_splitOnP, splitWhere_eq_splitOnP,
    List.splitOnP_cons_eq_if_modifyHead, hc]
  cases s with
  | nil => rfl
  | cons d s =>
    have hd : isWhiteSpace d = true := by simpa using hs
    rw [List.splitOnP_cons_eq_if_modifyHead, hd]
    rfl

theorem ne_nil_of_mem_words {word : List Char} (h : word ∈ words s) : word ≠ [] := by
  have := (List.mem_filter.mp h).2
  simpa using this

theorem normalizeSpace_eq_nil_iff_words : normalizeSpace s = [] ↔ words s = [] := by
  rw [normalizeSpace]
  cases hwords : words s with
  | nil => simp
  | cons word others =>
    have hword : word ≠ [] := ne_nil_of_mem_words (hwords ▸ List.mem_cons_self ..)
    cases others with
    | nil => simpa using hword
    | cons other others => simp [List.intercalate_cons_cons]

/-! ### White space in order -/

theorem normalizeSpace_cons : normalizeSpace (c :: s) =
    if isWhiteSpace c then normalizeSpace s
    else if s.head?.any isWhiteSpace && !(normalizeSpace s).isEmpty then c :: ' ' :: normalizeSpace s
    else c :: normalizeSpace s := by
  cases hc : isWhiteSpace c with
  | true => rw [if_pos rfl, normalizeSpace, words_cons_of_white hc, normalizeSpace]
  | false =>
    rw [if_neg nofun]
    by_cases hs : s.head?.any (!isWhiteSpace ·) = true
    · obtain ⟨word, others, hwords, hcons⟩ := words_cons_of_head hc hs
      have hgap : s.head?.any isWhiteSpace = false := by
        cases hhead : s.head? with
        | none => rfl
        | some d => simpa [hhead] using hs
      rw [hgap, Bool.false_and, if_neg nofun, normalizeSpace, hcons, normalizeSpace, hwords]
      cases others <;> rfl
    · have hgap : s.head?.all isWhiteSpace = true := by
        cases hhead : s.head? with
        | none => rfl
        | some d => simpa [hhead] using hs
      have hcons : normalizeSpace (c :: s) = [' '].intercalate ([c] :: words s) := by
        rw [normalizeSpace, words_cons_of_gap hc hgap]
      by_cases hwords : words s = []
      · have hnil : normalizeSpace s = [] := normalizeSpace_eq_nil_iff_words.mpr hwords
        rw [hcons, hwords, hnil]
        simp
      · have hne : normalizeSpace s ≠ [] := mt normalizeSpace_eq_nil_iff_words.mp hwords
        have hsome : s.head?.any isWhiteSpace = true := by
          cases s with
          | nil => exact absurd rfl hwords
          | cons d s => simpa using hgap
        rw [hsome, List.isEmpty_eq_false_iff.mpr hne, Bool.not_false, Bool.and_true, if_pos rfl, hcons,
          List.intercalate_cons_of_ne_nil hwords]
        rfl

/-- Nothing is left exactly if there is only white space. -/
theorem normalizeSpace_eq_nil_iff : normalizeSpace s = [] ↔ ∀ c ∈ s, isWhiteSpace c = true := by
  induction s with
  | nil => exact iff_of_true rfl nofun
  | cons c s ih =>
    rw [normalizeSpace_cons, List.forall_mem_cons, ← ih]
    cases isWhiteSpace c with
    | true => simp
    | false =>
      rw [if_neg nofun]
      split <;> simp

theorem isWhiteSpace_head_normalizeSpace : ∀ d ∈ (normalizeSpace s).head?, isWhiteSpace d = false := by
  induction s with
  | nil => nofun
  | cons c s ih =>
    rw [normalizeSpace_cons]
    cases hc : isWhiteSpace c with
    | true => exact ih
    | false =>
      rw [if_neg nofun]
      split <;> (rintro _ ⟨⟩; exact hc)

theorem normalizeSpace_append_of_white (hs : ∀ c ∈ s, isWhiteSpace c = true) :
    normalizeSpace (s ++ t) = normalizeSpace t := by
  induction s with
  | nil => rfl
  | cons c s ih =>
    obtain ⟨hc, hs⟩ := List.forall_mem_cons.mp hs
    rw [List.cons_append, normalizeSpace_cons, if_pos hc, ih hs]

/-- What is put between two texts that have been put in order, where the second begins with white
space and has something else in it. -/
def joint (t : List Char) : List Char :=
  if t.head?.any isWhiteSpace && !(normalizeSpace t).isEmpty then [' '] else []

theorem normalizeSpace_cons_of_not_white (hc : isWhiteSpace c = false) :
    normalizeSpace (c :: s) = c :: (joint s ++ normalizeSpace s) := by
  rw [normalizeSpace_cons, joint, hc, if_neg nofun]
  split <;> rfl

theorem normalizeSpace_cons_ne_nil (hc : isWhiteSpace c = false) : normalizeSpace (c :: s) ≠ [] := by
  rw [normalizeSpace_cons_of_not_white hc]
  exact List.cons_ne_nil _ _

theorem joint_congr (hhead : s.head?.any isWhiteSpace = t.head?.any isWhiteSpace)
    (hnil : normalizeSpace s = [] ↔ normalizeSpace t = []) : joint s = joint t := by
  have hempty : (normalizeSpace s).isEmpty = (normalizeSpace t).isEmpty := by
    rw [Bool.eq_iff_iff, List.isEmpty_iff, List.isEmpty_iff, hnil]
  rw [joint, joint, hhead, hempty]

theorem joint_eq_nil (h : normalizeSpace t = []) : joint t = [] := by
  rw [joint, h, List.isEmpty_nil, Bool.not_true, Bool.and_false, if_neg nofun]

theorem joint_append_of_white (hs : ∀ c ∈ s, isWhiteSpace c = true)
    (ht : ∀ c ∈ t.head?, isWhiteSpace c = true) : joint (s ++ t) = joint t := by
  have hnormal : normalizeSpace (s ++ t) = normalizeSpace t := normalizeSpace_append_of_white hs
  cases t with
  | nil => rw [joint_eq_nil hnormal, joint_eq_nil rfl]
  | cons d t =>
    refine joint_congr ?_ (by rw [hnormal])
    cases s with
    | nil => rfl
    | cons c s => simp [hs c (List.mem_cons_self ..), ht d rfl]

/-- The first text is put in order apart if it has something in it and does not end in white space
that the second one ends. -/
theorem normalizeSpace_append (hs : normalizeSpace s ≠ [])
    (hend : (∀ c ∈ t.head?, isWhiteSpace c = true) ∨ ∀ c ∈ s.getLast?, isWhiteSpace c = false) :
    normalizeSpace (s ++ t) = normalizeSpace s ++ (joint t ++ normalizeSpace t) := by
  induction s with
  | nil => exact absurd rfl hs
  | cons c s ih =>
    rw [List.cons_append]
    cases hc : isWhiteSpace c with
    | true =>
      rw [normalizeSpace_cons, if_pos hc] at hs ⊢
      have hne : s ≠ [] := by
        rintro rfl
        exact hs rfl
      rw [List.getLast?_cons_of_ne_nil hne] at hend
      rw [ih hs hend, normalizeSpace_cons, if_pos hc]
    | false =>
      rw [normalizeSpace_cons_of_not_white hc, normalizeSpace_cons_of_not_white hc, List.cons_append]
      refine congrArg (c :: ·) ?_
      cases s with
      | nil => rfl
      | cons d s =>
        rw [List.getLast?_cons_cons] at hend
        by_cases hne : normalizeSpace (d :: s) = []
        · -- The rest is white space, so that the second text begins with white space too.
          have hwhite := normalizeSpace_eq_nil_iff.mp hne
          have ht : ∀ e ∈ t.head?, isWhiteSpace e = true := by
            refine hend.resolve_right fun h => ?_
            have hlast := List.getLast?_eq_getLast_of_ne_nil (List.cons_ne_nil d s)
            have := h _ hlast
            rw [hwhite _ (List.getLast_mem _)] at this
            cases this
          rw [joint_append_of_white hwhite ht, normalizeSpace_append_of_white hwhite, hne,
            joint_eq_nil hne]
          rfl
        · have hsplit := ih hne hend
          have hjoint : joint (d :: s ++ t) = joint (d :: s) :=
            joint_congr rfl (iff_of_false (by rw [hsplit]; simp [hne]) hne)
          rw [hsplit, hjoint]
          simp only [List.append_assoc]

end ProviderCoverage.Text

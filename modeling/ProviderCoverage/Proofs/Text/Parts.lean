import Mathlib.Data.List.DropRight
import ProviderCoverage.Text.Cut

/-! Cutting texts is what the library does with lists: the parts between separators are those of
`List.splitOnP`, and the end is dropped by `List.rdropWhile`. -/

namespace ProviderCoverage.Text

theorem splitWhere_eq_splitOnP {α : Type} (sep : α → Bool) (s : List α) :
    splitWhere sep s = s.splitOnP sep := by
  induction s with
  | nil => rfl
  | cons c rest ih =>
    rw [List.splitOnP_cons_eq_if_modifyHead, splitWhere, ← ih]
    cases hparts : splitWhere sep rest with
    | nil => exact absurd hparts (splitWhere_ne_nil sep rest)
    | cons part parts => rfl

theorem splitOn_eq (sep : Char) (s : List Char) : splitOn sep s = s.splitOn sep :=
  (splitWhere_eq_splitOnP _ s).trans List.splitOn_eq_splitOnP.symm

theorem intercalate_splitOn (sep : Char) (s : List Char) : [sep].intercalate (splitOn sep s) = s := by
  rw [splitOn_eq, List.intercalate_splitOn]

theorem splitWhere_of_forall {α : Type} {sep : α → Bool} {s : List α} (h : ∀ c ∈ s, sep c = false) :
    splitWhere sep s = [s] :=
  (splitWhere_eq_splitOnP sep s).trans (List.splitOnP_eq_singleton h)

/-- The last part is what follows the last separator. -/
theorem getLast?_splitWhere {α : Type} (sep : α → Bool) (s : List α) :
    (splitWhere sep s).getLast? = some (s.rtakeWhile (!sep ·)) := by
  have hfree : ∀ c ∈ s.rtakeWhile (!sep ·), sep c = false := fun c hc => by
    simpa using List.mem_rtakeWhile_imp hc
  have hs := List.rdropWhile_append_rtakeWhile (p := (!sep ·)) (l := s)
  rcases List.eq_nil_or_concat (s.rdropWhile (!sep ·)) with hnil | ⟨before, c, hbefore⟩
  · rw [hnil, List.nil_append] at hs
    rw [hs] at hfree ⊢
    rw [splitWhere_of_forall hfree, List.getLast?_singleton]
  · have hc : sep c = true := by
      have hlast := List.rdropWhile_last_not (!sep ·) s (by simp [hbefore])
      simpa [hbefore] using hlast
    rw [splitWhere_eq_splitOnP]
    conv_lhs => rw [← hs, hbefore, List.concat_eq_append, List.append_assoc, List.singleton_append]
    rw [List.splitOnP_append_cons _ _ hc, List.splitOnP_eq_singleton hfree, List.getLast?_concat]

theorem notMem_of_mem_splitWhere {α : Type} {sep : α → Bool} {s part : List α} {c : α}
    (h : part ∈ splitWhere sep s) (hc : c ∈ part) : sep c = false := by
  induction s generalizing part with
  | nil =>
    rw [splitWhere, List.mem_singleton] at h
    subst h
    cases hc
  | cons x rest ih =>
    rw [splitWhere] at h
    cases hparts : splitWhere sep rest with
    | nil => exact absurd hparts (splitWhere_ne_nil sep rest)
    | cons first parts =>
      rw [hparts] at h ih
      have hparts : ∀ {p}, p ∈ first :: parts → c ∈ p → sep c = false := fun hp => ih hp
      dsimp only at h
      split at h
      · rcases List.mem_cons.mp h with rfl | h
        · cases hc
        · exact hparts h hc
      · next hx =>
        rcases List.mem_cons.mp h with rfl | h
        · rcases List.mem_cons.mp hc with rfl | hc
          · simpa using hx
          · exact hparts (List.mem_cons_self ..) hc
        · exact hparts (List.mem_cons_of_mem _ h) hc

theorem notMem_of_mem_splitOn {sep : Char} {s part : List Char} (h : part ∈ splitOn sep s) :
    sep ∉ part := by
  intro hmem
  simpa using notMem_of_mem_splitWhere h hmem

theorem dropEndWhile_eq_rdropWhile (p : Char → Bool) (s : List Char) :
    dropEndWhile p s = s.rdropWhile p := by
  induction s with
  | nil => rfl
  | cons c rest ih =>
    rw [dropEndWhile, ih, List.rdropWhile, List.rdropWhile, List.reverse_cons,
      List.dropWhile_append]
    cases hdrop : rest.reverse.dropWhile p with
    | nil => cases hc : p c <;> simp [hc]
    | cons d kept =>
      cases hkept : (d :: kept).reverse with
      | nil => simp at hkept
      | cons e more => simp_all

theorem trimEnd_trimEnd (s : List Char) : trimEnd (trimEnd s) = trimEnd s := by
  simp only [trimEnd, dropEndWhile_eq_rdropWhile, List.rdropWhile_idempotent]

theorem trimStart_trim (s : List Char) : trimStart (trim s) = trim s := by
  have hbegins : trim s <+: trimStart s := by
    rw [trim, trimEnd, dropEndWhile_eq_rdropWhile]
    exact List.rdropWhile_prefix _ _
  rw [trimStart, List.dropWhile_eq_self_iff]
  intro hpos
  -- The text begins as its trimmed start does, and that does not begin with white space.
  have hstart := List.dropWhile_eq_self_iff.mp (List.dropWhile_idempotent Unicode.isWhiteSpace s)
  rw [hbegins.getElem hpos]
  exact hstart (Nat.lt_of_lt_of_le hpos hbegins.length_le)

theorem splitLast?_of_notMem {sep : Char} {s : List Char} (h : sep ∉ s) :
    splitLast? sep s = none := by
  induction s with
  | nil => rfl
  | cons c rest ih =>
    obtain ⟨hc, hrest⟩ := not_or.mp (mt List.mem_cons.mpr h)
    simp [splitLast?, ih hrest, Ne.symm hc]

/-- The last separator is where the text after it has none. -/
theorem splitLast?_append_cons {sep : Char} {after : List Char} (before : List Char)
    (h : sep ∉ after) : splitLast? sep (before ++ sep :: after) = some (before, after) := by
  induction before with
  | nil => simp [splitLast?, splitLast?_of_notMem h]
  | cons c before ih => rw [List.cons_append, splitLast?, ih]

/-- Nothing is left to trim. -/
theorem trim_trim (s : List Char) : trim (trim s) = trim s := by
  rw [trim, trimStart_trim, trim, trimEnd_trimEnd]

/-- An end that begins at a separator and has no other one begins at the last, or after it. -/
theorem suffix_of_suffix_append_cons {ending s t : List Char} {sep : Char} (hsep : sep ∉ ending)
    (h : sep :: ending <:+ s ++ sep :: t) : sep :: ending <:+ sep :: t := by
  rcases List.suffix_or_suffix_of_suffix h (List.suffix_append s (sep :: t)) with h | h
  · exact h
  · rcases List.suffix_cons_iff.mp h with heq | h
    · exact heq ▸ List.suffix_rfl
    · exact absurd (h.subset (List.mem_cons_self ..)) hsep

theorem beforeSuffix?_append (s finish : String) : beforeSuffix? (s ++ finish) finish = some s := by
  have hcut : finish.toList.isSuffixOf? (s.toList ++ finish.toList) = some s.toList :=
    List.isSuffixOf?_eq_some_iff_append_eq.mpr rfl
  rw [beforeSuffix?, String.toList_append, hcut, Option.map_some, String.ofList_toList]

end ProviderCoverage.Text

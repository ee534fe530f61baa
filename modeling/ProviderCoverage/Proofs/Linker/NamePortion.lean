import Mathlib.Data.List.Basic
import Mathlib.Data.List.TakeWhile
import ProviderCoverage.Linker

/-! What is cut off the name of a test. Each cut is described on a text that is made of a word
without underscores and what surrounds it. -/

namespace ProviderCoverage

namespace Text

theorem isPrefixOf?_append (p q s : List Char) :
    (p ++ q).isPrefixOf? (p ++ s) = q.isPrefixOf? s := by
  induction p with
  | nil => rfl
  | cons c p ih => simpa [List.isPrefixOf?] using ih

theorem isPrefixOf?_eq_none {p s : List Char} (h : ¬ p <+: s) : p.isPrefixOf? s = none := by
  cases hp : p.isPrefixOf? s with
  | none => rfl
  | some rest => exact absurd ⟨rest, List.isPrefixOf?_eq_some_iff_append_eq.mp hp⟩ h

/-- A beginning without the separator lies before it. -/
theorem prefix_of_prefix_append_cons {p s rest : List Char} {sep : Char} (hp : sep ∉ p)
    (h : p <+: s ++ sep :: rest) : p <+: s := by
  rcases Nat.lt_or_ge s.length p.length with hlt | hle
  · have hsep : s ++ [sep] <+: p := by
      refine List.prefix_of_prefix_length_le ?_ h (by simpa using Nat.succ_le_of_lt hlt)
      exact ⟨rest, by simp⟩
    exact absurd (hsep.subset (by simp)) hp
  · exact List.prefix_of_prefix_length_le h (List.prefix_append ..) hle

/-- Texts that end differently are no ends of each other. -/
theorem isSuffixOf?_eq_none {suffix s : List Char} (hs : suffix ≠ [])
    (h : suffix.getLast? ≠ s.getLast?) : suffix.isSuffixOf? s = none := by
  cases hsuffix : suffix.isSuffixOf? s with
  | none => rfl
  | some stem =>
    rw [← List.isSuffixOf?_eq_some_iff_append_eq.mp hsuffix,
      List.getLast?_append_of_ne_nil _ hs] at h
    exact absurd rfl h

end Text

namespace Linker

variable {word : List Char}

/-! ### The opening -/

theorem afterOpening_dataSource (s : List Char) :
    afterOpening ("TestAccDataSource".toList ++ s) = (s, some .dataSource) := by
  have hfirst : "TestAccDataSource".toList.isPrefixOf? ("TestAccDataSource".toList ++ s) = some s :=
    List.isPrefixOf?_eq_some_iff_append_eq.mpr rfl
  simp only [afterOpening, openings, List.findSome?_cons, hfirst, Option.map_some]

theorem afterOpening_plain {s : List Char} (hdata : ¬ "DataSource".toList <+: s)
    (hresource : ¬ "Resource".toList <+: s) :
    afterOpening ("TestAcc".toList ++ s) = (s, none) := by
  have hdata : "TestAccDataSource".toList.isPrefixOf? ("TestAcc".toList ++ s) = none :=
    (Text.isPrefixOf?_append "TestAcc".toList "DataSource".toList s).trans
      (Text.isPrefixOf?_eq_none hdata)
  have hresource : "TestAccResource".toList.isPrefixOf? ("TestAcc".toList ++ s) = none :=
    (Text.isPrefixOf?_append "TestAcc".toList "Resource".toList s).trans
      (Text.isPrefixOf?_eq_none hresource)
  have hopening : "TestAcc".toList.isPrefixOf? ("TestAcc".toList ++ s) = some s :=
    List.isPrefixOf?_eq_some_iff_append_eq.mpr rfl
  simp only [afterOpening, openings, List.findSome?_cons, hdata, hresource, hopening,
    Option.map_none, Option.map_some]

theorem withoutUnderscore_of_ne {c : Char} (hc : c ≠ '_') (s : List Char) :
    withoutUnderscore (c :: s) = c :: s := by
  rw [withoutUnderscore]
  rintro rest h
  exact hc (List.cons.inj h).1

/-! ### The suffix -/

theorem withoutSuffix_append {suffix : String} {suffixes : List String} (hne : word ≠ [])
    (hword : '_' ∉ word) : withoutSuffix (suffix :: suffixes) (word ++ suffix.toList) = word := by
  have hsuffix : suffix.toList.isSuffixOf? (word ++ suffix.toList) = some word :=
    List.isSuffixOf?_eq_some_iff_append_eq.mpr rfl
  have hlast : word.getLast? ≠ some '_' := fun h => hword (List.mem_of_getLast? h)
  rw [withoutSuffix, List.findSome?_cons, hsuffix, Option.filter_some, if_pos]
  · rfl
  · simp [hne, hlast]

theorem firstWord_of_notMem (hword : '_' ∉ word) : firstWord word = word := by
  rw [firstWord, List.takeWhile_eq_self_iff]
  intro c hc
  simpa using fun heq : c = '_' => hword (heq ▸ hc)

/-! ### Words about the lifecycle and the kind -/

theorem withoutLifecycle_of_forall
    (h : ∀ suffix ∈ lifecycleSuffixes, ∀ stem, word = stem ++ suffix.toList → stem = []) :
    withoutLifecycle word = word := by
  rw [withoutLifecycle]
  cases hfound : lifecycleSuffixes.findSome? fun suffix => suffix.toList.isSuffixOf? word with
  | none => rfl
  | some stem =>
    obtain ⟨suffix, hmem, hstem⟩ := List.exists_of_findSome?_eq_some hfound
    have hempty := h suffix hmem stem (List.isSuffixOf?_eq_some_iff_append_eq.mp hstem).symm
    subst hempty
    rfl

theorem withoutKind_of_forall
    (h : ∀ suffix ∈ kindSuffixes, ∀ stem, word = stem ++ suffix.1.toList → stem = [])
    (hint : Option EntityKind) : withoutKind word hint = (word, hint) := by
  rw [withoutKind, List.findSome?_eq_none_iff.mpr]
  · rfl
  · rintro ⟨suffix, kind⟩ hmem
    rw [Option.map_eq_none_iff, Option.filter_eq_none_iff]
    intro stem hstem
    have hempty := h _ hmem stem (List.isSuffixOf?_eq_some_iff_append_eq.mp hstem).symm
    simp [hempty]

theorem withoutKind_action (hne : word ≠ []) (hint : Option EntityKind) :
    withoutKind (word ++ "Action".toList) hint = (word, some .action) := by
  have hother : ∀ suffix : String, suffix.toList.getLast? = some 'e' →
      suffix.toList.isSuffixOf? (word ++ "Action".toList) = none := by
    intro suffix hlast
    refine Text.isSuffixOf?_eq_none ?_ ?_
    · rintro hempty
      rw [hempty] at hlast
      cases hlast
    · have hend : (word ++ "Action".toList).getLast? = some 'n' := List.getLast?_append
      rw [hlast, hend]
      decide
  have haction : "Action".toList.isSuffixOf? (word ++ "Action".toList) = some word :=
    List.isSuffixOf?_eq_some_iff_append_eq.mpr rfl
  simp only [withoutKind, kindSuffixes, List.findSome?_cons, hother "DataSource" rfl,
    hother "Resource" rfl, haction, Option.filter_none, Option.map_none]
  rw [Option.filter_some, if_pos (by simpa using hne)]
  rfl

theorem withoutLifecycle_action (word : List Char) :
    withoutLifecycle (word ++ "Action".toList) = word ++ "Action".toList := by
  have hends : ∀ suffix ∈ lifecycleSuffixes,
      suffix.toList ≠ [] ∧ suffix.toList.getLast? ≠ some 'n' := by decide
  refine withoutLifecycle_of_forall fun suffix hsuffix stem heq => ?_
  obtain ⟨hne, hlast⟩ := hends suffix hsuffix
  have hend : (word ++ "Action".toList).getLast? = some 'n' := List.getLast?_append
  rw [heq, List.getLast?_append_of_ne_nil _ hne] at hend
  exact absurd hend hlast

/-- The portion of a name whose suffix is the first one to be taken off. -/
theorem namePortion?_of_afterOpening {l : Linker} {function suffix : String}
    {suffixes : List String} {hint : Option EntityKind}
    (hl : l.functionSuffixes = suffix :: suffixes)
    (hopening : afterOpening function.toList = (word ++ suffix.toList, hint)) (hne : word ≠ [])
    (hword : '_' ∉ word) :
    l.namePortion? function =
      some ⟨word, (withoutKind (withoutLifecycle word) hint).1,
        (withoutKind (withoutLifecycle word) hint).2⟩ := by
  have hstart : withoutUnderscore (word ++ suffix.toList) = word ++ suffix.toList := by
    cases word with
    | nil => exact absurd rfl hne
    | cons c rest => exact withoutUnderscore_of_ne (fun hc => hword (by simp [hc])) _
  have hempty : word.isEmpty = false := by simpa using hne
  simp only [namePortion?, hopening, hl, hstart, withoutSuffix_append hne hword,
    firstWord_of_notMem hword, hempty, Bool.false_eq_true, if_false]

end Linker
end ProviderCoverage

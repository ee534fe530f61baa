import ProviderCoverage.Proofs.Linker.ProviderPrefix
import ProviderCoverage.Proofs.Naming.SnakeCase

/-! Exact names and the names derived from them. The linker reads two portions off the name of a
test, one with and one without words about the kind, and derives further names from each: without
the provider's part, without keywords, with words dropped from the middle. An exact name comes
before all that is derived from its own portion; but what is derived from the shorter portion comes
before the longer one, even if that is the exact name of an entity (`exact_name_matched_iff`). -/

namespace ProviderCoverage

open Naming

namespace Text

theorem eq_of_splitAtInfix? {part s before after : List Char}
    (h : splitAtInfix? part s = some (before, after)) : s = before ++ part ++ after := by
  induction s generalizing before with
  | nil =>
    rw [splitAtInfix?] at h
    split at h
    · next hempty =>
      cases h
      rw [List.isEmpty_iff.mp hempty]
      rfl
    · cases h
  | cons c rest ih =>
    rw [splitAtInfix?] at h
    split at h
    · next hprefix =>
      cases h
      exact (List.isPrefixOf?_eq_some_iff_append_eq.mp hprefix).symm
    · obtain ⟨⟨b, a⟩, hrest, heq⟩ := Option.map_eq_some_iff.mp h
      cases heq
      rw [List.cons_append, List.cons_append, ← ih hrest]

end Text

namespace Linker

variable {l : Linker} {r : Registry} {s : Settings} {rounding : Rounding} {p : NamePortion}
  {function : String} {name rest part snake : List Char} {hint : Option EntityKind}

/-! ### What is derived from a name -/

theorem withoutFirst_sublist (keyword part : List Char) :
    (withoutFirst keyword part).Sublist part := by
  rw [withoutFirst.eq_def]
  split
  · next before after hsplit =>
    rw [Text.eq_of_splitAtInfix? hsplit, List.append_assoc]
    exact (List.sublist_append_right keyword after).append_left before
  · exact .refl part

theorem withoutKeywords_sublist (keywords : List String) (part : List Char) :
    (withoutKeywords keywords part).Sublist part := by
  rw [withoutKeywords]
  induction keywords.filter (!·.isEmpty) generalizing part with
  | nil => exact .refl part
  | cons keyword keywords ih => exact (ih _).trans (withoutFirst_sublist ..)

theorem unprefixed_sublist (h : l.unprefixed name = some rest) : rest.Sublist name := by
  rw [unprefixed] at h
  split at h
  · next c more hconfigured =>
    cases h
    split at hconfigured
    · cases hconfigured
    · rw [← List.isPrefixOf?_eq_some_iff_append_eq.mp hconfigured]
      exact List.sublist_append_right ..
  · obtain ⟨-, first, -, rfl⟩ := withoutProviderPrefix?_eq_some_iff.mp h
    exact (List.sublist_cons_self ..).trans (List.sublist_append_right ..)

theorem joinWords_cons {words : List (List Char)} (word : List Char) (h : words ≠ []) :
    joinWords (word :: words) = word ++ '_' :: joinWords words := by
  obtain ⟨next, words, rfl⟩ := List.exists_cons_of_ne_nil h
  rw [joinWords, List.intercalate_cons_cons, List.append_assoc]
  rfl

/-- Words are dropped with the underscores next to them. -/
theorem joinWords_sublist {words words' : List (List Char)} (h : words.Sublist words') :
    (joinWords words).Sublist (joinWords words') := by
  induction h with
  | slnil => exact .refl _
  | @cons words words' word h ih =>
    by_cases hwords : words' = []
    · rw [hwords, List.sublist_nil] at h
      rw [h]
      exact List.nil_sublist _
    · rw [joinWords_cons word hwords]
      exact (ih.cons '_').trans (List.sublist_append_right ..)
  | @cons_cons words words' word h ih =>
    by_cases hwords : words = []
    · rw [hwords]
      by_cases hwords' : words' = []
      · rw [hwords']
      · rw [joinWords_cons word hwords', joinWords, List.intercalate_singleton]
        exact List.sublist_append_left ..
    · have hwords' : words' ≠ [] := fun hnil => hwords (List.sublist_nil.mp (hnil ▸ h))
      rw [joinWords_cons word hwords, joinWords_cons word hwords']
      exact (ih.cons_cons '_').append_left word

theorem joinWords_splitOn (name : List Char) : joinWords (Text.splitOn '_' name) = name :=
  Text.intercalate_splitOn '_' name

theorem shortened_sublist (h : name ∈ shortened snake) : name.Sublist snake := by
  rw [shortened] at h
  split at h
  · next first second third more last beforeLast others hwords hreverse =>
    have hkept : ∀ {words : List (List Char)}, words.Sublist (second :: third :: more) →
        (joinWords (first :: words)).Sublist snake := by
      intro words hsub
      rw [← joinWords_splitOn snake, hwords]
      exact joinWords_sublist (hsub.cons_cons first)
    obtain ⟨before, hend⟩ : ∃ before, second :: third :: more = before ++ [beforeLast, last] := by
      rw [hwords, List.reverse_eq_iff, List.reverse_cons, List.reverse_cons,
        List.append_assoc] at hreverse
      cases hothers : others.reverse with
      | nil => simp [hothers] at hreverse
      | cons x before =>
        rw [hothers] at hreverse
        exact ⟨before, (List.cons.inj hreverse).2⟩
    have hpair : [beforeLast, last].Sublist (second :: third :: more) := by
      rw [hend]
      exact List.sublist_append_right ..
    have hfinal : (third :: more).getLast? = some last := by
      rw [← List.getLast?_cons_cons (a := second), hend]
      simp
    have hlast : last ∈ third :: more := List.mem_of_getLast? hfinal
    rcases List.mem_append.mp h with h | h
    · simp only [List.mem_cons, List.not_mem_nil, or_false] at h
      rcases h with rfl | rfl | rfl
      · exact hkept (List.singleton_sublist.mpr (List.mem_cons_of_mem _ hlast))
      · exact hkept ((List.singleton_sublist.mpr hlast).cons_cons second)
      · exact hkept hpair
    · split at h
      · next hmore =>
        rw [List.mem_singleton.mp h]
        have hlast : last ∈ more := by
          cases more with
          | nil => cases hmore
          | cons fourth more =>
            rw [List.getLast?_cons_cons] at hfinal
            exact List.mem_of_getLast? hfinal
        exact hkept (((List.singleton_sublist.mpr hlast).cons_cons third).cons_cons second)
      · cases h
  · cases h

/-- The names that a part of a function's name stands for, apart from its own. -/
def derivedNames (l : Linker) (part : List Char) : List (List Char) :=
  (l.unprefixed (snakeCase part)).toList ++ l.keywordless part ++
    (l.withUnprefixed (snakeCase part)).flatMap shortened

theorem namesOfPart_eq (l : Linker) (part : List Char) :
    l.namesOfPart part = snakeCase part :: l.derivedNames part := by
  simp [namesOfPart, derivedNames, withUnprefixed]

theorem sublist_of_mem_withUnprefixed (h : name ∈ l.withUnprefixed snake) :
    name.Sublist snake := by
  rcases List.mem_cons.mp h with rfl | h
  · exact .refl _
  · exact unprefixed_sublist (Option.mem_toList.mp h)

/-- A name gets no letters by being derived. -/
theorem letters_of_mem_derivedNames (h : name ∈ l.derivedNames part) :
    (name.filter (· != '_')).Sublist (letters part) := by
  have hkept : ∀ {text}, name.Sublist (snakeCase text) → text.Sublist part →
      (name.filter (· != '_')).Sublist (letters part) := by
    intro text hname htext
    refine (hname.filter _).trans ?_
    rw [filter_snakeCase]
    exact letters_sublist htext
  rw [derivedNames, List.mem_append, List.mem_append, List.mem_flatMap] at h
  rcases h with (hunprefixed | hkeywordless) | ⟨whole, hwhole, hshortened⟩
  · exact hkept (unprefixed_sublist (Option.mem_toList.mp hunprefixed)) (.refl _)
  · rw [keywordless] at hkeywordless
    split at hkeywordless
    · exact hkept (sublist_of_mem_withUnprefixed hkeywordless) (withoutKeywords_sublist ..)
    · cases hkeywordless
  · exact hkept ((shortened_sublist hshortened).trans (sublist_of_mem_withUnprefixed hwhole))
      (.refl _)

/-! ### What is cut off the longer portion -/

theorem exists_lifecycle_dropped (word : List Char) :
    ∃ dropped ∈ "" :: lifecycleSuffixes, word = withoutLifecycle word ++ dropped.toList := by
  rw [withoutLifecycle]
  cases hcut : (lifecycleSuffixes.findSome? fun suffix => suffix.toList.isSuffixOf? word).filter
      (!·.isEmpty) with
  | none => exact ⟨"", List.mem_cons_self .., by simp⟩
  | some stem =>
    obtain ⟨hfound, -⟩ := Option.filter_eq_some_iff.mp hcut
    obtain ⟨suffix, hsuffix, hstem⟩ := List.exists_of_findSome?_eq_some hfound
    refine ⟨suffix, List.mem_cons_of_mem _ hsuffix, ?_⟩
    exact (List.isSuffixOf?_eq_some_iff_append_eq.mp hstem).symm

theorem exists_kind_dropped (word : List Char) (hint : Option EntityKind) :
    ∃ dropped ∈ "" :: kindSuffixes.map (·.1),
      word = (withoutKind word hint).1 ++ dropped.toList := by
  have hcuts : withoutKind word hint = (kindSuffixes.findSome? fun entry =>
      ((entry.1.toList.isSuffixOf? word).filter (!·.isEmpty)).map (·, some entry.2)).getD
        (word, hint) := rfl
  rw [hcuts]
  cases hcut : kindSuffixes.findSome? fun entry =>
      ((entry.1.toList.isSuffixOf? word).filter (!·.isEmpty)).map (·, some entry.2) with
  | none => exact ⟨"", List.mem_cons_self .., by simp⟩
  | some cut =>
    obtain ⟨entry, hentry, hfound⟩ := List.exists_of_findSome?_eq_some hcut
    obtain ⟨stem, hkept, rfl⟩ := Option.map_eq_some_iff.mp hfound
    obtain ⟨hstem, -⟩ := Option.filter_eq_some_iff.mp hkept
    refine ⟨entry.1, List.mem_cons_of_mem _ (List.mem_map_of_mem hentry), ?_⟩
    exact (List.isSuffixOf?_eq_some_iff_append_eq.mp hstem).symm

/-- Whatever is cut off has letters. -/
theorem letters_trimmed_lt (hp : l.namePortion? function = some p) (hne : p.raw ≠ p.trimmed) :
    (letters p.trimmed).length < (letters p.raw).length := by
  obtain ⟨hint, htrimmed⟩ : ∃ hint, p.trimmed = (withoutKind (withoutLifecycle p.raw) hint).1 := by
    simp only [namePortion?] at hp
    split at hp
    · cases hp
    · cases hp
      exact ⟨_, rfl⟩
  have hletters : ∀ dropped ∈ "" :: lifecycleSuffixes ++ kindSuffixes.map (·.1),
      dropped = "" ∨ 0 < (letters dropped.toList).length := by decide
  obtain ⟨lifecycle, hlifecycle, hraw⟩ := exists_lifecycle_dropped p.raw
  obtain ⟨kind, hkind, hword⟩ := exists_kind_dropped (withoutLifecycle p.raw) hint
  rw [← htrimmed] at hword
  rw [hword] at hraw
  have hlength : (letters p.raw).length = (letters p.trimmed).length +
      (letters kind.toList).length + (letters lifecycle.toList).length := by
    rw [hraw, letters_append, letters_append, List.length_append, List.length_append]
  have hkind' := hletters kind (by simp at hkind ⊢; tauto)
  have hlifecycle' := hletters lifecycle (by simp at hlifecycle ⊢; tauto)
  rcases hkind' with rfl | hkind'
  · rcases hlifecycle' with rfl | hlifecycle'
    · exact absurd (by simpa using hraw) hne
    · omega
  · omega

/-! ### The first name that is that of an entity -/

/-- The name that a part of a function's name stands for as it is. -/
def exactName (part : List Char) : String :=
  String.ofList (snakeCase part)

section
variable (hkeys : l.keys = r.keys)
include hkeys

/-- The name of the entity found is the first that is registered. -/
theorem map_name_find?_keysOfAll (names : List (List Char)) (hint : Option EntityKind) :
    ((keysOfAll names hint).find? l.registered).map (·.name) =
      (names.map String.ofList).find? (· ∈ r.names) := by
  rw [← findSome?_resolve]
  induction names with
  | nil => rfl
  | cons name names ih =>
    rw [List.findSome?_cons, List.map_cons]
    cases hresolve : l.resolve name hint with
    | none =>
      have hfree := (resolve_eq_none_iff_notMem_names hkeys).mp hresolve
      rw [List.find?_cons_of_neg (by simpa using hfree)]
      exact ih
    | some key =>
      have hnamed : String.ofList name ∈ r.names := name_mem_of_resolve hkeys hresolve
      rw [List.find?_cons_of_pos (by simpa using hnamed), ← name_of_resolve hresolve]
      rfl

theorem map_name_matchByFunctionName (hp : l.namePortion? function = some p) :
    (l.matchByFunctionName function).map (·.name) =
      ((l.namesOfPart p.trimmed ++ if p.raw = p.trimmed then [] else l.namesOfPart p.raw).map
        String.ofList).find? (· ∈ r.names) := by
  rw [matchByFunctionName_eq, functionKeys, hp]
  exact map_name_find?_keysOfAll hkeys _ p.hint

end

/-- If the name of a test contains the exact name of an entity, the test matches an entity. It
matches one of such a name exactly if the shorter portion is an exact name, or nothing derived from
the shorter portion is the name of an entity. -/
theorem exact_name_matched_iff (hl : ofRegistry r s rounding = .ok l)
    (hp : l.namePortion? function = some p)
    (hexact : exactName p.trimmed ∈ r.names ∨ exactName p.raw ∈ r.names) :
    ∃ key, l.matchByFunctionName function = some key ∧
      (exactName p.trimmed ∈ r.names → key.name = exactName p.trimmed) ∧
      (key.name = exactName p.trimmed ∨ key.name = exactName p.raw ↔
        exactName p.trimmed ∈ r.names ∨
          ∀ name ∈ l.derivedNames p.trimmed, String.ofList name ∉ r.names) := by
  have hkeys : l.keys = r.keys := (isSnapshot_of_ofRegistry hl).keys
  have hname := map_name_matchByFunctionName hkeys hp
  rw [namesOfPart_eq, List.cons_append, List.map_cons, List.map_append, ← exactName] at hname
  by_cases htrimmed : exactName p.trimmed ∈ r.names
  · rw [List.find?_cons_of_pos (by simpa using htrimmed)] at hname
    obtain ⟨key, hkey, hname⟩ := Option.map_eq_some_iff.mp hname
    exact ⟨key, hkey, fun _ => hname, iff_of_true (.inl hname) (.inl htrimmed)⟩
  · have hraw : exactName p.raw ∈ r.names := hexact.resolve_left htrimmed
    have hne : p.raw ≠ p.trimmed := fun heq => htrimmed (heq ▸ hraw)
    rw [List.find?_cons_of_neg (by simpa using htrimmed), List.find?_append, if_neg hne,
      namesOfPart_eq, List.map_cons, ← exactName, List.find?_cons_of_pos (by simpa using hraw)]
      at hname
    cases hderived : ((l.derivedNames p.trimmed).map String.ofList).find? (· ∈ r.names) with
    | none =>
      rw [hderived, Option.none_or] at hname
      obtain ⟨key, hkey, hname⟩ := Option.map_eq_some_iff.mp hname
      refine ⟨key, hkey, fun h => absurd h htrimmed, iff_of_true (.inr hname) (.inr ?_)⟩
      simpa using hderived
    | some found =>
      rw [hderived, Option.some_or] at hname
      obtain ⟨key, hkey, rfl⟩ := Option.map_eq_some_iff.mp hname
      obtain ⟨name, hmem, hfound⟩ := List.mem_map.mp (List.mem_of_find?_eq_some hderived)
      have hnamed : key.name ∈ r.names := by simpa using List.find?_some hderived
      refine ⟨key, hkey, fun h => absurd h htrimmed, iff_of_false ?_ ?_⟩
      · rintro (heq | heq)
        · exact htrimmed (heq ▸ hnamed)
        · -- The longer portion has letters that nothing derived from the shorter one has.
          have hletters := (letters_of_mem_derivedNames hmem).length_le
          rw [String.ofList_inj.mp (hfound.trans heq), filter_snakeCase] at hletters
          exact absurd (letters_trimmed_lt hp hne) (Nat.not_lt.mpr hletters)
      · rintro (h | h)
        · exact htrimmed h
        · exact h name hmem (hfound ▸ hnamed)

theorem namePortion?_widgetResource (hl : ofRegistry r .default rounding = .ok l) :
    l.namePortion? "TestAccExampleWidgetResource_basic" =
      some ⟨"ExampleWidgetResource".toList, "ExampleWidget".toList, some .resource⟩ := by
  rw [namePortion?, (isConfigured_of_ofRegistry hl).functionSuffixes]
  rfl

/-- All three names are registered, and the shorter portion decides. -/
theorem exact_name_matched_widget : ∃ r l p key,
    r = Registry.ofKeys [⟨.resource, "widget"⟩, ⟨.resource, "example_widget"⟩,
      ⟨.resource, "example_widget_resource"⟩] ∧
    ofRegistry r .default Binary64.nearest = .ok l ∧
    l.namePortion? "TestAccExampleWidgetResource_basic" = some p ∧
    (exactName p.trimmed ∈ r.names ∨ exactName p.raw ∈ r.names) ∧
    l.matchByFunctionName "TestAccExampleWidgetResource_basic" = some key ∧
    key.name = "example_widget" := by
  obtain ⟨r, hr⟩ : ∃ r, r = Registry.ofKeys [⟨.resource, "widget"⟩,
    ⟨.resource, "example_widget"⟩, ⟨.resource, "example_widget_resource"⟩] := ⟨_, rfl⟩
  obtain ⟨l, hl, -⟩ := ofRegistry_default r Binary64.nearest
  have hnamed : exactName "ExampleWidget".toList ∈ r.names := by
    rw [hr]
    decide
  obtain ⟨key, hkey, hname, -⟩ :=
    exact_name_matched_iff hl (namePortion?_widgetResource hl) (.inl hnamed)
  exact ⟨r, l, _, key, hr, hl, namePortion?_widgetResource hl, .inl hnamed, hkey, hname hnamed⟩

/-- The whole name with its kind is that of a resource, and yet a resource is matched whose name is
that without the provider's part and the kind. -/
theorem exact_name_passed_over : ∃ r l p,
    r = Registry.ofKeys [⟨.resource, "widget"⟩, ⟨.resource, "example_widget_resource"⟩] ∧
    ofRegistry r .default Binary64.nearest = .ok l ∧
    l.namePortion? "TestAccExampleWidgetResource_basic" = some p ∧
    exactName p.trimmed = "example_widget" ∧ exactName p.raw = "example_widget_resource" ∧
    exactName p.raw ∈ r.names ∧
    l.matchByFunctionName "TestAccExampleWidgetResource_basic" = some ⟨.resource, "widget"⟩ := by
  obtain ⟨r, hr⟩ : ∃ r, r = Registry.ofKeys [⟨.resource, "widget"⟩,
    ⟨.resource, "example_widget_resource"⟩] := ⟨_, rfl⟩
  obtain ⟨l, hl, -⟩ := ofRegistry_default r Binary64.nearest
  have hmatch : (ofRegistry (Registry.ofKeys [⟨.resource, "widget"⟩,
      ⟨.resource, "example_widget_resource"⟩]) .default Binary64.nearest).toOption.bind
        (·.matchByFunctionName "TestAccExampleWidgetResource_basic") =
          some ⟨.resource, "widget"⟩ := by decide +kernel
  rw [← hr, hl] at hmatch
  refine ⟨r, l, _, hr, hl, namePortion?_widgetResource hl, by decide, by decide, ?_, hmatch⟩
  rw [hr]
  decide

end Linker
end ProviderCoverage

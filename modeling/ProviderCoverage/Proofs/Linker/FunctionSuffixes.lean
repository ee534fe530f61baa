import ProviderCoverage.Proofs.Linker.Settled

/-! The suffixes that are taken off the names of tests. A name is cut at its first underscore after
a suffix is taken off, so a suffix that begins with an underscore is cut off anyway, and which
suffixes of this form are configured makes no difference to any link (`matchTest_withSuffixes_eq`).
Only a suffix without an underscore in front has an effect. -/

namespace ProviderCoverage

/-- The settings with other suffixes for the names of tests. -/
def Settings.withSuffixes (s : Settings) (suffixes : List String) : Settings :=
  { s with testFunctionSuffixes := suffixes }

/-- All suffixes begin with an underscore. -/
def AtUnderscore (suffixes : List String) : Prop :=
  ∀ suffix ∈ suffixes, Text.begins suffix "_" = true

instance (suffixes : List String) : Decidable (AtUnderscore suffixes) :=
  inferInstanceAs (Decidable (∀ suffix ∈ suffixes, _))

namespace Linker

variable {l l' : Linker} {suffixes : List String}

theorem firstWord_append (word rest : List Char) :
    firstWord (word ++ '_' :: rest) = firstWord word := by
  induction word with
  | nil => rfl
  | cons c word ih =>
    simp only [firstWord] at ih ⊢
    rw [List.cons_append, List.takeWhile_cons, List.takeWhile_cons, ih]

/-- What is taken off is behind the first underscore. -/
theorem firstWord_withoutSuffix (h : AtUnderscore suffixes) (s : List Char) :
    firstWord (withoutSuffix suffixes s) = firstWord s := by
  rw [withoutSuffix]
  cases hfound : suffixes.findSome? fun suffix =>
      (suffix.toList.isSuffixOf? s).filter fun rest =>
        !rest.isEmpty && rest.getLast? != some '_' with
  | none => rfl
  | some kept =>
    obtain ⟨suffix, hmem, hkept⟩ := List.exists_of_findSome?_eq_some hfound
    obtain ⟨hcut, -⟩ := Option.filter_eq_some_iff.mp hkept
    obtain ⟨more, hmore⟩ : ['_'] <+: suffix.toList := List.isPrefixOf_iff_prefix.mp (h suffix hmem)
    rw [Option.getD_some, ← List.isSuffixOf?_eq_some_iff_append_eq.mp hcut, ← hmore]
    exact (firstWord_append kept more).symm

-- A suffix without an underscore in front counts.
example : firstWord (withoutSuffix ["Test"] "WidgetTest".toList) ≠ firstWord "WidgetTest".toList := by
  decide

/-- The linker with other suffixes for the names of tests. -/
def withSuffixes (l : Linker) (suffixes : List String) : Linker :=
  { l with functionSuffixes := suffixes }

section
variable (hl : AtUnderscore l.functionSuffixes) (h : AtUnderscore suffixes)
include hl h

theorem namePortion?_withSuffixes (function : String) :
    (l.withSuffixes suffixes).namePortion? function = l.namePortion? function := by
  simp only [namePortion?, withSuffixes, firstWord_withoutSuffix hl, firstWord_withoutSuffix h]

theorem matchByFunctionName_withSuffixes (function : String) :
    (l.withSuffixes suffixes).matchByFunctionName function = l.matchByFunctionName function := by
  rw [matchByFunctionName, matchByFunctionName, namePortion?_withSuffixes hl h]
  rfl

theorem matchBySimilarity_withSuffixes (function : String) :
    (l.withSuffixes suffixes).matchBySimilarity function = l.matchBySimilarity function := by
  rw [matchBySimilarity, matchBySimilarity, namePortion?_withSuffixes hl h]
  rfl

theorem matchTest_withSuffixes (t : AcceptanceTest) :
    (l.withSuffixes suffixes).matchTest t = l.matchTest t := by
  rw [matchTest, matchTest, matchByFunctionName_withSuffixes hl h,
    matchBySimilarity_withSuffixes hl h]
  rfl

end

/-- Linking depends on the matches of the tests alone. -/
theorem linkIds_congr (h : ∀ t, l.matchTest t = l'.matchTest t) (ids : List TestId) (r : Registry)
    (n : Nat) : l.linkIds ids r n = l'.linkIds ids r n := by
  induction ids generalizing r n with
  | nil => rfl
  | cons id ids ih => simp only [linkIds, ih, h]

theorem ofRegistry_withSuffixes (r : Registry) (s : Settings) (suffixes : List String)
    (rounding : Rounding) : ofRegistry r (s.withSuffixes suffixes) rounding =
      (ofRegistry r s rounding).map (·.withSuffixes (s.withSuffixes suffixes).suffixes) := by
  have hfiles : FileFilter.ofSettings (s.withSuffixes suffixes) = FileFilter.ofSettings s := rfl
  have hprefixes : (s.withSuffixes suffixes).prefixConventions = s.prefixConventions := rfl
  have hsuffixes : (s.withSuffixes suffixes).suffixConventions = s.suffixConventions := rfl
  rw [ofRegistry, ofRegistry, hfiles, hprefixes, hsuffixes]
  cases FileFilter.ofSettings s with
  | error e => rfl
  | ok files =>
    cases s.prefixConventions with
    | error e => rfl
    | ok prefixes => cases s.suffixConventions <;> rfl

/-- Settings that differ in the suffixes for the names of tests give the same match for every test
and the same result of linking, as long as all suffixes in effect begin with an underscore: the
usual ones, none, or others. -/
theorem matchTest_withSuffixes_eq {s : Settings} (hs : AtUnderscore s.suffixes)
    (h : AtUnderscore (s.withSuffixes suffixes).suffixes) (r : Registry) (rounding : Rounding) :
    (∀ t, (ofRegistry r (s.withSuffixes suffixes) rounding).map (·.matchTest t) =
      (ofRegistry r s rounding).map (·.matchTest t)) ∧
    ∀ r', (ofRegistry r (s.withSuffixes suffixes) rounding).map (·.linkAll r') =
      (ofRegistry r s rounding).map (·.linkAll r') := by
  rw [ofRegistry_withSuffixes]
  cases hl : ofRegistry r s rounding with
  | error e => exact ⟨fun t => rfl, fun r' => rfl⟩
  | ok l =>
    have hconfigured : AtUnderscore l.functionSuffixes := by
      rwa [(isConfigured_of_ofRegistry hl).functionSuffixes]
    have hmatch : ∀ t, (l.withSuffixes (s.withSuffixes suffixes).suffixes).matchTest t =
        l.matchTest t := matchTest_withSuffixes hconfigured h
    refine ⟨fun t => ?_, fun r' => ?_⟩
    · exact congrArg Except.ok (hmatch t)
    · exact congrArg Except.ok (linkIds_congr hmatch r'.testIds r' 0)

/-- No suffixes at all instead of the usual ones. -/
theorem matchTest_withoutSuffixes_widget :
    AtUnderscore Settings.default.suffixes ∧
    AtUnderscore (Settings.default.withSuffixes ["-"]).suffixes ∧
    ((ofRegistry (Registry.empty.run untestedWidget) (Settings.default.withSuffixes ["-"])
        Binary64.nearest).map (·.matchTest widgetTest)).toOption =
      some (some ⟨⟨.resource, "widget"⟩, .functionName, 1⟩) := by
  have hs : AtUnderscore Settings.default.suffixes := by decide
  have h : AtUnderscore (Settings.default.withSuffixes ["-"]).suffixes := by decide
  refine ⟨hs, h, ?_⟩
  rw [(matchTest_withSuffixes_eq hs h (Registry.empty.run untestedWidget) Binary64.nearest).1
    widgetTest]
  decide +kernel

end Linker
end ProviderCoverage

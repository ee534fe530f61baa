import ProviderCoverage.Proofs.Lists
import ProviderCoverage.Proofs.Unicode.Ascii

/-! The underscore belongs to no case, and no other character has one in its upper-case or
lower-case image. -/

namespace ProviderCoverage.Unicode

theorem eq_of_ofNat_eq_underscore {n : Nat} (h : Char.ofNat n = '_') : n = 95 := by
  have hnat := congrArg Char.toNat h
  rw [Char.ofNat] at hnat
  by_cases hvalid : n.isValidChar
  · rw [dif_pos hvalid] at hnat
    exact hnat
  · rw [dif_neg hvalid] at hnat
    cases hnat

/-- No character of the table is shifted to the underscore. -/
def SparesUnderscore (shifts : List Shift) : Prop :=
  ∀ s ∈ shifts, ¬ (s.target ≤ 95 ∧ 95 ≤ s.target + (s.last - s.first))

theorem sparesUnderscore_upperShifts : SparesUnderscore upperShifts := by
  unfold SparesUnderscore
  decide +kernel

theorem sparesUnderscore_lowerShifts : SparesUnderscore lowerShifts := by
  unfold SparesUnderscore
  decide +kernel

theorem upperExpansions_notMem_underscore : ∀ p ∈ upperExpansions, 95 ∉ p.2 := by
  decide

theorem toUpper_ne_underscore {c : Char} : c.toNat < 128 → c ≠ '_' → c.toUpper ≠ '_' :=
  forall_ascii (p := fun c => c ≠ '_' → c.toUpper ≠ '_') (by decide)

theorem toLower_ne_underscore {c : Char} : c.toNat < 128 → c ≠ '_' → c.toLower ≠ '_' :=
  forall_ascii (p := fun c => c ≠ '_' → c.toLower ≠ '_') (by decide)

theorem SparesUnderscore.shifted?_ne {shifts : List Shift} (h : SparesUnderscore shifts) (n : Nat) :
    shifted? shifts n ≠ some 95 := by
  intro hshift
  obtain ⟨s, hs, himage⟩ := List.exists_of_findSome?_eq_some hshift
  rw [Shift.image?] at himage
  split at himage
  · next hcontains =>
    simp only [Span.contains, Bool.and_eq_true, decide_eq_true_eq] at hcontains
    refine h s hs ?_
    have htarget := Option.some.inj himage
    omega
  · cases himage

theorem SparesUnderscore.image_ne {shifts : List Shift} (h : SparesUnderscore shifts) {c : Char}
    (hc : c ≠ '_') : ((shifted? shifts c.toNat).map Char.ofNat).getD c ≠ '_' := by
  cases hshift : shifted? shifts c.toNat with
  | none => exact hc
  | some n =>
    intro heq
    rw [eq_of_ofNat_eq_underscore heq] at hshift
    exact h.shifted?_ne _ hshift

theorem underscore_notMem_uppercase {c : Char} (hc : c ≠ '_') : '_' ∉ uppercase c := by
  rw [uppercase]
  split
  · next hascii =>
    rw [List.mem_singleton]
    exact (toUpper_ne_underscore hascii hc).symm
  · split
    · next image himage =>
      intro hmem
      obtain ⟨n, hn, heq⟩ := List.mem_map.mp hmem
      rw [eq_of_ofNat_eq_underscore heq] at hn
      exact upperExpansions_notMem_underscore _ (Lookup.mem_of_eq_some himage) hn
    · rw [List.mem_singleton]
      exact (sparesUnderscore_upperShifts.image_ne hc).symm

theorem underscore_notMem_lowercase {c : Char} (hc : c ≠ '_') : '_' ∉ lowercase c := by
  rw [lowercase]
  split
  · next hascii =>
    rw [List.mem_singleton]
    exact (toLower_ne_underscore hascii hc).symm
  · split
    · decide
    · rw [List.mem_singleton]
      exact (sparesUnderscore_lowerShifts.image_ne hc).symm

theorem ne_underscore_of_isUppercase {c : Char} (h : isUppercase c = true) : c ≠ '_' := by
  rintro rfl
  exact absurd h (by decide)

end ProviderCoverage.Unicode

import ProviderCoverage.Unicode.Case

/-! Case among the first 128 characters is that of the 26 letters, and both images of a character
are one character of the same range. -/

namespace ProviderCoverage.Unicode

variable {c : Char}

/-- What holds of the first 128 characters one by one. -/
theorem forall_ascii {p : Char → Prop} (h : ∀ n < 128, p (Char.ofNat n)) (hc : c.toNat < 128) :
    p c := by
  have hp := h c.toNat hc
  rwa [Char.ofNat_toNat] at hp

theorem isUppercase_of_ascii (h : c.toNat < 128) : isUppercase c = c.isUpper :=
  if_pos h

theorem isLowercase_of_ascii (h : c.toNat < 128) : isLowercase c = c.isLower :=
  if_pos h

theorem lowercase_of_ascii (h : c.toNat < 128) : lowercase c = [c.toLower] :=
  if_pos h

theorem uppercase_of_ascii (h : c.toNat < 128) : uppercase c = [c.toUpper] :=
  if_pos h

theorem ascii_toLower : c.toNat < 128 → c.toLower.toNat < 128 :=
  forall_ascii (p := fun c => c.toLower.toNat < 128) (by decide)

theorem ascii_toUpper : c.toNat < 128 → c.toUpper.toNat < 128 :=
  forall_ascii (p := fun c => c.toUpper.toNat < 128) (by decide)

theorem isUpper_toLower : c.toNat < 128 → c.toLower.isUpper = false :=
  forall_ascii (p := fun c => c.toLower.isUpper = false) (by decide)

theorem toLower_eq_self : c.toNat < 128 → c.isUpper = false → c.toLower = c :=
  forall_ascii (p := fun c => c.isUpper = false → c.toLower = c) (by decide)

theorem ascii_of_isLower (h : c.isLower = true) : c.toNat < 128 := by
  obtain ⟨-, hlast⟩ := Bool.and_eq_true_iff.mp h
  exact Nat.lt_of_le_of_lt (UInt32.le_iff_toNat_le.mp (of_decide_eq_true hlast)) (by decide)

theorem ascii_of_isDigit (h : c.isDigit = true) : c.toNat < 128 := by
  obtain ⟨-, hlast⟩ := Bool.and_eq_true_iff.mp h
  exact Nat.lt_of_le_of_lt (UInt32.le_iff_toNat_le.mp (of_decide_eq_true hlast)) (by decide)

/-- No digit is a letter. -/
theorem isAlpha_of_isDigit (h : c.isDigit = true) : c.isAlpha = false :=
  forall_ascii (p := fun c => c.isDigit = true → c.isAlpha = false) (by decide)
    (ascii_of_isDigit h) h

theorem isDigit_of_isAlpha (h : c.isAlpha = true) : c.isDigit = false := by
  cases hdigit : c.isDigit with
  | false => rfl
  | true =>
    rw [isAlpha_of_isDigit hdigit] at h
    cases h

end ProviderCoverage.Unicode

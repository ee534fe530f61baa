import Mathlib.Algebra.Order.Field.Basic
import Mathlib.Algebra.Order.Field.Rat
import Mathlib.Data.Nat.Log
import ProviderCoverage.Number.Binary64

/-! Rounding between zero and one. Both ends can be represented, so no number between them is
rounded to one outside (`Binary64.nearest_keepsUnit`). -/

namespace ProviderCoverage

/-- What lies between zero and one stays there. -/
def Rounding.KeepsUnit (round : Rounding) : Prop :=
  ∀ q : Rat, 0 ≤ q → q ≤ 1 → 0 ≤ round q ∧ round q ≤ 1

theorem roundDiv_le {num den bound : Nat} (hden : 0 < den) (h : num ≤ bound * den) :
    roundDiv num den ≤ bound := by
  have hquotient : num / den ≤ bound := Nat.div_le_of_le_mul (Nat.mul_comm bound den ▸ h)
  have hparts : den * (num / den) + num % den = num := Nat.div_add_mod num den
  -- A quotient that is the bound leaves no remainder, and is not rounded up.
  have hexact : num / den = bound → num % den = 0 := by
    intro heq
    rw [heq, Nat.mul_comm] at hparts
    omega
  rw [roundDiv]
  split
  · exact hquotient
  · have hlt : num / den < bound := by
      refine Nat.lt_of_le_of_ne hquotient fun heq => ?_
      have hremainder := hexact heq
      omega
    split <;> omega

namespace Binary64

/-- A number that is not above one has no exponent above zero. -/
theorem exponent_nonpos {num den : Nat} (h : num ≤ den) : exponent num den ≤ 0 := by
  have hlog : num.log2 ≤ den.log2 := by
    rw [Nat.log2_eq_log_two, Nat.log2_eq_log_two]
    exact Nat.log_mono_right h
  rw [exponent]
  split <;> omega

theorem lastPlace_neg {e : Int} (h : e ≤ 0) : lastPlace e < 0 := by
  rw [lastPlace]
  omega

theorem roundTo_mem_unit {p : Int} {num den : Nat} (hp : p < 0) (hden : 0 < den)
    (h : num ≤ den) : 0 ≤ roundTo p num den ∧ roundTo p num den ≤ 1 := by
  have hscale : 0 < Nat.pow 2 (-p).toNat := Nat.two_pow_pos _
  have hle : roundDiv (num * Nat.pow 2 (-p).toNat) den ≤ Nat.pow 2 (-p).toNat :=
    roundDiv_le hden (Nat.mul_comm num _ ▸ Nat.mul_le_mul_left _ h)
  have hscale' : (0 : Rat) < (Nat.pow 2 (-p).toNat : Rat) := Nat.cast_pos.mpr hscale
  rw [roundTo, if_neg (by omega), Rat.mkRat_eq_div]
  exact ⟨div_nonneg (Nat.cast_nonneg _) hscale'.le,
    (div_le_one hscale').mpr (Nat.cast_le.mpr hle)⟩

theorem nearest_keepsUnit : Rounding.KeepsUnit nearest := by
  intro q hnonneg hle
  rw [nearest]
  split
  · exact ⟨le_refl 0, zero_le_one⟩
  · have hnum : 0 ≤ q.num := Rat.num_nonneg.mpr hnonneg
    have hparts : q.num.natAbs ≤ q.den := by
      have hnumden : q.num ≤ q.den := by simpa using Rat.num_le_denom_iff.mpr hle
      omega
    rw [if_neg (by omega)]
    exact roundTo_mem_unit (lastPlace_neg (exponent_nonpos hparts)) q.den_pos hparts

end Binary64
end ProviderCoverage

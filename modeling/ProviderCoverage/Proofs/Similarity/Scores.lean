import ProviderCoverage.Proofs.Number.Rounding
import ProviderCoverage.Similarity

/-! Scores lie between zero and one, as no distance is longer than the longer of two texts. A score
of one is that of equal texts. -/

namespace ProviderCoverage

theorem editDistance_le (xs ys : List Char) :
    editDistance xs ys ≤ max xs.length ys.length := by
  induction xs generalizing ys with
  | nil => simp
  | cons x xs ih =>
    cases ys with
    | nil => simp
    | cons y ys =>
      -- Replacing every character in turn is one way to turn the one into the other.
      have hrest := ih ys
      rw [editDistance_cons_cons, List.length_cons, List.length_cons]
      split <;> omega

theorem editDistance_eq_zero_iff {xs ys : List Char} : editDistance xs ys = 0 ↔ xs = ys := by
  induction xs generalizing ys with
  | nil => simp [eq_comm]
  | cons x xs ih =>
    cases ys with
    | nil => simp
    | cons y ys =>
      rw [editDistance_cons_cons, List.cons.injEq, ← ih]
      split
      · next heq =>
        simp only [heq, true_and]
        omega
      · next hne =>
        simp only [hne, false_and, iff_false]
        omega

theorem editDistance_pos {a b : List Char} (h : a ≠ b) : 0 < editDistance a b :=
  Nat.pos_of_ne_zero fun hzero => h (editDistance_eq_zero_iff.mp hzero)

/-- Of two different texts one is not empty. -/
theorem max_length_pos {a b : List Char} (h : a ≠ b) : 0 < max a.length b.length :=
  (editDistance_pos h).trans_le (editDistance_le a b)

/-- With exact scores, only equal texts are wholly similar. -/
theorem similarity_lt_one {a b : List Char} (h : a ≠ b) : similarity id a b < 1 := by
  rw [similarity, if_neg h]
  exact sub_lt_self 1
    (div_pos (Nat.cast_pos.mpr (editDistance_pos h)) (Nat.cast_pos.mpr (max_length_pos h)))

theorem similarity_mem_unit {round : Rounding} (hround : round.KeepsUnit) (a b : List Char) :
    0 ≤ similarity round a b ∧ similarity round a b ≤ 1 := by
  rw [similarity]
  split
  · exact ⟨zero_le_one, le_refl 1⟩
  · have hdistance : (editDistance a b : Rat) ≤ (max a.length b.length : Nat) := by
      exact_mod_cast editDistance_le a b
    obtain ⟨hnonneg, hle⟩ := hround (editDistance a b / (max a.length b.length : Nat))
      (div_nonneg (Nat.cast_nonneg _) (Nat.cast_nonneg _))
      (div_le_one_of_le₀ hdistance (Nat.cast_nonneg _))
    exact hround _ (sub_nonneg.mpr hle) (sub_le_self 1 hnonneg)

/-- What is kept is one of the candidates. -/
theorem foldl_better_mem {candidates : List Scored} {kept : Option Scored} {best : Scored}
    (h : candidates.foldl Scored.better kept = some best) :
    best ∈ candidates ∨ kept = some best := by
  induction candidates generalizing kept with
  | nil => exact .inr h
  | cons c candidates ih =>
    rcases ih h with hmem | hbetter
    · exact .inl (List.mem_cons_of_mem _ hmem)
    · cases kept with
      | none => exact .inl (Option.some.inj hbetter ▸ List.mem_cons_self ..)
      | some k =>
        rw [Scored.better] at hbetter
        split at hbetter
        · exact .inr hbetter
        · exact .inl (Option.some.inj hbetter ▸ List.mem_cons_self ..)

theorem score_bestMatch {round : Rounding} {needle : String} {candidates : List String}
    {threshold : Binary64} {best : Scored}
    (h : bestMatch round needle candidates threshold = some best) :
    best.score = similarity round needle.toList best.name.toList := by
  rcases foldl_better_mem h with hmem | hnone
  · obtain ⟨c, -, rfl⟩ := List.mem_map.mp (List.mem_filter.mp hmem).1
    rfl
  · cases hnone

theorem not_exceeds_bestMatch {round : Rounding} {needle : String} {candidates : List String}
    {threshold : Binary64} {best : Scored}
    (h : bestMatch round needle candidates threshold = some best) :
    threshold.exceeds best.score = false := by
  rcases foldl_better_mem h with hmem | hnone
  · simpa using (List.mem_filter.mp hmem).2
  · cases hnone

end ProviderCoverage

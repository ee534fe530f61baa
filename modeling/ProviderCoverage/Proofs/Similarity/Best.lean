import ProviderCoverage.Proofs.Similarity.Scores

/-! The best of some candidates outranks all of them, and there is one unless all of them are below
the threshold. So none of them is more similar (`score_le_bestMatch`), and more candidates never
make it worse (`bestMatch_of_subset`). -/

namespace ProviderCoverage

namespace Binary64

variable {v : Binary64} {q q' floor : Rat}

/-- What is below a value is below all that is not. -/
theorem lt_of_exceeds (h : v.exceeds q = true) (h' : v.exceeds q' = false) : q < q' := by
  cases v with
  | nan | negInfinity => cases h
  | infinity => cases h'
  | negZero => exact (of_decide_eq_true h).trans_le (not_lt.mp (of_decide_eq_false h'))
  | finite v => exact (of_decide_eq_true h).trans_le (not_lt.mp (of_decide_eq_false h'))

/-- A number is below the larger of two if it is below one of them. -/
theorem exceeds_atLeast (hfloor : 0 ≤ floor) (v : Binary64) (q : Rat) :
    (v.atLeast floor).exceeds q = (v.exceeds q || decide (q < floor)) := by
  cases v with
  | nan | negInfinity | infinity => rfl
  | negZero =>
    have himp : q < 0 → q < floor := fun h => h.trans_le hfloor
    simpa [atLeast, exceeds] using himp
  | finite v =>
    rw [atLeast]
    split
    · next hlt =>
      have himp : q < v → q < floor := fun h => h.trans hlt
      simpa [exceeds] using himp
    · next hle =>
      have himp : q < floor → q < v := fun h => h.trans_le (not_lt.mp hle)
      simpa [exceeds] using himp

end Binary64

namespace Scored

variable {a b c : Scored} {candidates : List Scored}

theorem outranks_iff : a.outranks b = true ↔
    b.score < a.score ∨ a.score = b.score ∧ a.name ≤ b.name := by
  simp [outranks]

theorem outranks_self (a : Scored) : a.outranks a = true :=
  outranks_iff.mpr (.inr ⟨rfl, String.le_refl _⟩)

theorem outranks_trans (hab : a.outranks b = true) (hbc : b.outranks c = true) :
    a.outranks c = true := by
  rw [outranks_iff] at hab hbc ⊢
  rcases hab with hab | ⟨hscore, hname⟩
  · rcases hbc with hbc | ⟨hscore', -⟩
    · exact .inl (hbc.trans hab)
    · exact .inl (hscore' ▸ hab)
  · rcases hbc with hbc | ⟨hscore', hname'⟩
    · exact .inl (hscore ▸ hbc)
    · exact .inr ⟨hscore.trans hscore', String.le_trans hname hname'⟩

theorem outranks_total (h : ¬ a.outranks b = true) : b.outranks a = true := by
  rw [outranks_iff, not_or, not_lt, not_and] at h
  rw [outranks_iff]
  rcases h.1.lt_or_eq with hlt | heq
  · exact .inl hlt
  · exact .inr ⟨heq.symm, (String.le_total _ _).resolve_left (h.2 heq)⟩

theorem score_le_of_outranks (h : a.outranks b = true) : b.score ≤ a.score := by
  rcases outranks_iff.mp h with hlt | ⟨heq, -⟩
  · exact hlt.le
  · exact heq.ge

/-- What is kept after a candidate outranks it, and what was kept before. -/
theorem exists_better (kept next : Scored) : ∃ k, better (some kept) next = some k ∧
    k.outranks kept = true ∧ k.outranks next = true := by
  rw [better]
  split
  · next h => exact ⟨kept, rfl, outranks_self kept, h⟩
  · next h => exact ⟨next, rfl, outranks_total h, outranks_self next⟩

theorem exists_foldl_better (kept : Scored) (candidates : List Scored) :
    ∃ best, candidates.foldl better (some kept) = some best ∧ best.outranks kept = true ∧
      ∀ c ∈ candidates, best.outranks c = true := by
  induction candidates generalizing kept with
  | nil => exact ⟨kept, rfl, outranks_self kept, nofun⟩
  | cons next candidates ih =>
    obtain ⟨k, hk, hkept, hnext⟩ := exists_better kept next
    obtain ⟨best, hbest, hfirst, hall⟩ := ih k
    refine ⟨best, ?_, outranks_trans hfirst hkept, fun c hc => ?_⟩
    · rw [List.foldl_cons, hk, hbest]
    · rcases List.mem_cons.mp hc with rfl | hc
      · exact outranks_trans hfirst hnext
      · exact hall c hc

/-- Of some candidates there is a best one, which outranks them all. -/
theorem exists_best (h : candidates ≠ []) : ∃ best, candidates.foldl better none = some best ∧
    ∀ c ∈ candidates, best.outranks c = true := by
  cases candidates with
  | nil => exact absurd rfl h
  | cons next candidates =>
    obtain ⟨best, hbest, hfirst, hall⟩ := exists_foldl_better next candidates
    exact ⟨best, hbest, List.forall_mem_cons.mpr ⟨hfirst, hall⟩⟩

end Scored

variable {round : Rounding} {needle : String} {candidates candidates' : List String}
  {threshold : Binary64} {best : Scored} {c : String}

/-- A candidate that is not below the threshold has its match, if not a better one. -/
theorem exists_bestMatch (hc : c ∈ candidates)
    (h : threshold.exceeds (similarity round needle.toList c.toList) = false) :
    ∃ best, bestMatch round needle candidates threshold = some best ∧
      best.outranks ⟨c, similarity round needle.toList c.toList⟩ = true := by
  have hmem : (⟨c, similarity round needle.toList c.toList⟩ : Scored) ∈
      (candidates.map fun c => ⟨c, similarity round needle.toList c.toList⟩).filter
        (!threshold.exceeds ·.score) :=
    List.mem_filter.mpr ⟨List.mem_map_of_mem hc, by rw [h]; rfl⟩
  obtain ⟨best, hbest, hall⟩ := Scored.exists_best (List.ne_nil_of_mem hmem)
  exact ⟨best, hbest, hall _ hmem⟩

theorem name_mem_of_bestMatch (h : bestMatch round needle candidates threshold = some best) :
    best.name ∈ candidates := by
  rcases foldl_better_mem h with hmem | hnone
  · obtain ⟨c, hc, rfl⟩ := List.mem_map.mp (List.mem_filter.mp hmem).1
    exact hc
  · cases hnone

/-- No candidate is more similar than the best, whether it is below the threshold or not. -/
theorem score_le_bestMatch (h : bestMatch round needle candidates threshold = some best)
    (hc : c ∈ candidates) : similarity round needle.toList c.toList ≤ best.score := by
  cases hexceeds : threshold.exceeds (similarity round needle.toList c.toList) with
  | true => exact (Binary64.lt_of_exceeds hexceeds (not_exceeds_bestMatch h)).le
  | false =>
    obtain ⟨best', hbest', houtranks⟩ := exists_bestMatch hc hexceeds
    cases h.symm.trans hbest'
    exact Scored.score_le_of_outranks houtranks

/-- Among more candidates the best is no worse. -/
theorem bestMatch_of_subset (hsubset : candidates ⊆ candidates')
    (h : bestMatch round needle candidates threshold = some best) :
    ∃ best', bestMatch round needle candidates' threshold = some best' ∧
      best.score ≤ best'.score := by
  have hscore : best.score = similarity round needle.toList best.name.toList := score_bestMatch h
  have hexceeds := not_exceeds_bestMatch h
  rw [hscore] at hexceeds ⊢
  obtain ⟨best', hbest', houtranks⟩ :=
    exists_bestMatch (hsubset (name_mem_of_bestMatch h)) hexceeds
  exact ⟨best', hbest', Scored.score_le_of_outranks houtranks⟩

end ProviderCoverage

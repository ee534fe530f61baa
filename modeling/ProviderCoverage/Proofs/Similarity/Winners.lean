import ProviderCoverage.Proofs.Similarity.Best

/-! Which candidate wins. There is none exactly if all are below the threshold. Otherwise it is the
one that scores highest among those that are not, and of several the smallest (`BestOf`): there is
one such candidate at most (`BestOf.unique`), and only the members of the list count, not their
order or number (`bestMatch_decided`). -/

namespace ProviderCoverage

/-- The winner: a candidate with its score, not below the threshold. No candidate that is not below
it either scores higher, and none that scores as high is smaller. -/
structure BestOf (round : Rounding) (needle : String) (candidates : List String)
    (threshold : Binary64) (best : Scored) : Prop where
  mem : best.name ∈ candidates
  score : best.score = similarity round needle.toList best.name.toList
  reaches : threshold.exceeds best.score = false
  highest : ∀ c ∈ candidates,
    threshold.exceeds (similarity round needle.toList c.toList) = false →
      similarity round needle.toList c.toList ≤ best.score
  smallest : ∀ c ∈ candidates,
    similarity round needle.toList c.toList = best.score → best.name ≤ c

variable {round : Rounding} {needle : String} {candidates candidates' : List String}
  {threshold : Binary64} {best best' : Scored}

theorem bestOf_of_bestMatch (h : bestMatch round needle candidates threshold = some best) :
    BestOf round needle candidates threshold best where
  mem := name_mem_of_bestMatch h
  score := score_bestMatch h
  reaches := not_exceeds_bestMatch h
  highest _ hc _ := score_le_bestMatch h hc
  smallest c hc heq := by
    obtain ⟨best', hbest', houtranks⟩ :=
      exists_bestMatch hc (heq.symm ▸ not_exceeds_bestMatch h)
    cases h.symm.trans hbest'
    rcases Scored.outranks_iff.mp houtranks with hlt | ⟨-, hname⟩
    · exact absurd heq hlt.ne
    · exact hname

/-- Two winners score no higher than each other, and neither is smaller. -/
theorem BestOf.unique (h : BestOf round needle candidates threshold best)
    (h' : BestOf round needle candidates threshold best') : best = best' := by
  have hle := h'.highest _ h.mem (h.score ▸ h.reaches)
  have hge := h.highest _ h'.mem (h'.score ▸ h'.reaches)
  rw [← h.score] at hle
  rw [← h'.score] at hge
  have hscore : best.score = best'.score := le_antisymm hle hge
  have hname : best.name = best'.name :=
    String.le_antisymm (h.smallest _ h'.mem (h'.score ▸ hscore.symm))
      (h'.smallest _ h.mem (h.score ▸ hscore))
  cases best
  cases best'
  exact congr (congrArg Scored.mk hname) hscore

theorem bestMatch_eq_none_iff : bestMatch round needle candidates threshold = none ↔
    ∀ c ∈ candidates, threshold.exceeds (similarity round needle.toList c.toList) = true := by
  constructor
  · intro hnone c hc
    by_contra hreaches
    obtain ⟨best, hbest, -⟩ := exists_bestMatch hc (Bool.eq_false_iff.mpr hreaches)
    cases hnone.symm.trans hbest
  · intro hbelow
    cases hbest : bestMatch round needle candidates threshold with
    | none => rfl
    | some best =>
      have hreaches := not_exceeds_bestMatch hbest
      rw [score_bestMatch hbest, hbelow _ (name_mem_of_bestMatch hbest)] at hreaches
      cases hreaches

theorem bestMatch_eq_some_iff : bestMatch round needle candidates threshold = some best ↔
    BestOf round needle candidates threshold best := by
  refine ⟨bestOf_of_bestMatch, fun h => ?_⟩
  obtain ⟨best', hbest', -⟩ := exists_bestMatch h.mem (h.score ▸ h.reaches)
  rw [hbest', (bestOf_of_bestMatch hbest').unique h]

theorem BestOf.of_mem_iff (hsame : ∀ c, c ∈ candidates' ↔ c ∈ candidates)
    (h : BestOf round needle candidates threshold best) :
    BestOf round needle candidates' threshold best where
  mem := (hsame _).mpr h.mem
  score := h.score
  reaches := h.reaches
  highest c hc := h.highest c ((hsame c).mp hc)
  smallest c hc := h.smallest c ((hsame c).mp hc)

/-- No candidate wins exactly if all are below the threshold, and the one that does is the winner.
Lists with the same members have the same. -/
theorem bestMatch_decided (round : Rounding) (needle : String) (candidates : List String)
    (threshold : Binary64) :
    (bestMatch round needle candidates threshold = none ↔
      ∀ c ∈ candidates, threshold.exceeds (similarity round needle.toList c.toList) = true) ∧
    (∀ best, bestMatch round needle candidates threshold = some best ↔
      BestOf round needle candidates threshold best) ∧
    ∀ candidates', (∀ c, c ∈ candidates' ↔ c ∈ candidates) →
      bestMatch round needle candidates' threshold =
        bestMatch round needle candidates threshold := by
  refine ⟨bestMatch_eq_none_iff, fun _ => bestMatch_eq_some_iff, fun candidates' hsame => ?_⟩
  refine Option.ext fun best => ?_
  rw [bestMatch_eq_some_iff, bestMatch_eq_some_iff]
  exact ⟨.of_mem_iff fun c => (hsame c).symm, .of_mem_iff hsame⟩

/-- Of two names that score alike the smaller one wins, wherever it stands. -/
theorem bestMatch_decided_widgets :
    let threshold := Binary64.finite (7 / 10)
    bestMatch id "widget" ["widgetz", "gadget", "widgets", "widgetz"] threshold =
      some ⟨"widgets", 6 / 7⟩ ∧
    bestMatch id "widget" ["widgets", "gadget", "widgetz"] threshold =
      bestMatch id "widget" ["widgetz", "gadget", "widgets", "widgetz"] threshold := by
  intro threshold
  obtain ⟨-, hwinner, hsame⟩ := bestMatch_decided id "widget"
    ["widgetz", "gadget", "widgets", "widgetz"] threshold
  refine ⟨(hwinner _).mpr ⟨by decide, by decide +kernel, by decide +kernel, by decide +kernel,
    by decide +kernel⟩, hsame _ fun c => ?_⟩
  simp only [List.mem_cons, List.not_mem_nil, or_false]
  tauto

end ProviderCoverage

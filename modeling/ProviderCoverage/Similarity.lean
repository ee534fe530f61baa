import ProviderCoverage.EditDistance
import ProviderCoverage.Number.Binary64

/-! Similarity of two names: one less the edit distance as a share of the longer name. The score
is a rational; the rounding after the division and after the subtraction is a parameter. -/

namespace ProviderCoverage

def similarity (round : Rounding) (a b : List Char) : Rat :=
  if a = b then 1
  else round (1 - round (editDistance a b / (max a.length b.length : Nat)))

/-- A candidate with its score. -/
structure Scored where
  name : String
  score : Rat

namespace Scored

/-- Whether the first is to be kept when the second comes after it: it scores higher, or as high
and its name is no larger. -/
def outranks (kept next : Scored) : Bool :=
  next.score < kept.score || (kept.score == next.score && kept.name ≤ next.name)

def better (kept : Option Scored) (next : Scored) : Option Scored :=
  match kept with
  | some k => if k.outranks next then some k else some next
  | none => some next

end Scored

/-- The candidate of the highest score that is not below the threshold; of several the smallest,
so that the order of the candidates does not matter. -/
def bestMatch (round : Rounding) (needle : String) (candidates : List String)
    (threshold : Binary64) : Option Scored :=
  ((candidates.map fun c => (⟨c, similarity round needle.toList c.toList⟩ : Scored)).filter
    (!threshold.exceeds ·.score)).foldl Scored.better none

end ProviderCoverage

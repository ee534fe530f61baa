import Mathlib.Data.List.Flatten
import ProviderCoverage.Glob.Basic

/-! What is left of a text after the tokens of a glob, and the texts that a glob accepts: those of
which nothing may be left. -/

namespace ProviderCoverage

namespace GlobToken

variable {whole : Bool} {token : GlobToken} {tokens : List GlobToken} {p : UInt8 → Bool} {b : UInt8}
  {bytes s rest : List UInt8}

theorem mem_afterByte : rest ∈ afterByte p s ↔ ∃ b, p b = true ∧ s = b :: rest := by
  cases s with
  | nil => simp [afterByte]
  | cons c s =>
    rw [afterByte]
    split
    · next hc =>
      rw [List.mem_singleton]
      constructor
      · rintro rfl
        exact ⟨c, hc, rfl⟩
      · rintro ⟨_, -, heq⟩
        exact (List.cons.inj heq).2.symm
    · next hc =>
      refine iff_of_false (List.not_mem_nil) ?_
      rintro ⟨_, hb, heq⟩
      exact hc ((List.cons.inj heq).1 ▸ hb)

theorem mem_afterBytes :
    rest ∈ afterBytes p s ↔ ∃ taken, (∀ b ∈ taken, p b = true) ∧ s = taken ++ rest := by
  induction s with
  | nil =>
    rw [afterBytes, List.mem_singleton]
    constructor
    · rintro rfl
      exact ⟨[], by simp, rfl⟩
    · rintro ⟨taken, -, heq⟩
      exact (List.nil_eq_append_iff.mp heq).2
  | cons c s ih =>
    rw [afterBytes, List.mem_cons]
    constructor
    · rintro (rfl | hrest)
      · exact ⟨[], by simp, rfl⟩
      · split at hrest
        · next hc =>
          obtain ⟨taken, htaken, rfl⟩ := ih.mp hrest
          exact ⟨c :: taken, List.forall_mem_cons.mpr ⟨hc, htaken⟩, rfl⟩
        · cases hrest
    · rintro ⟨_ | ⟨d, taken⟩, htaken, heq⟩
      · exact .inl heq.symm
      · obtain ⟨rfl, rfl⟩ := List.cons.inj heq
        obtain ⟨hc, htaken⟩ := List.forall_mem_cons.mp htaken
        rw [if_pos hc]
        exact .inr (ih.mpr ⟨taken, htaken, rfl⟩)

theorem mem_remaindersOfAll_nil : rest ∈ remaindersOfAll whole [] s ↔ s = rest := by
  rw [remaindersOfAll, List.mem_singleton, eq_comm]

/-- What a sequence leaves is what its rest leaves of what its first token leaves. -/
theorem mem_remaindersOfAll_cons : rest ∈ remaindersOfAll whole (token :: tokens) s ↔
    ∃ left ∈ token.remainders whole s, rest ∈ remaindersOfAll whole tokens left := by
  rw [remaindersOfAll, List.mem_eraseDups, List.mem_flatMap]
  simp only [List.mem_eraseDups]

theorem mem_remainders_byte : rest ∈ (byte b).remainders whole s ↔ s = b :: rest := by
  rw [remainders, mem_afterByte]
  simp

/-- `*` takes any text without slashes, and with `whole` any text. -/
theorem mem_remainders_anyBytes : rest ∈ anyBytes.remainders whole s ↔
    ∃ taken, (whole = false → slash ∉ taken) ∧ s = taken ++ rest := by
  rw [remainders, mem_afterBytes]
  refine exists_congr fun taken => and_congr_left' ?_
  cases whole with
  | true => simp [takes]
  | false => simp [takes, List.forall_mem_ne']

theorem mem_remaindersOfAll_bytes :
    rest ∈ remaindersOfAll whole (bytes.map byte ++ tokens) s ↔
      ∃ left, s = bytes ++ left ∧ rest ∈ remaindersOfAll whole tokens left := by
  induction bytes generalizing s with
  | nil => simp
  | cons b bytes ih =>
    rw [List.map_cons, List.cons_append, mem_remaindersOfAll_cons]
    simp only [mem_remainders_byte]
    constructor
    · rintro ⟨left, rfl, hleft⟩
      obtain ⟨left', rfl, hrest⟩ := ih.mp hleft
      exact ⟨left', rfl, hrest⟩
    · rintro ⟨left, rfl, hrest⟩
      exact ⟨bytes ++ left, rfl, ih.mpr ⟨left, rfl, hrest⟩⟩

end GlobToken

@[simp] theorem utf8_append (s t : List Char) : utf8 (s ++ t) = utf8 s ++ utf8 t :=
  List.flatMap_append

namespace Glob

open GlobToken

theorem accepts_iff {g : Glob} {s : String} :
    g.accepts s = true ↔ [] ∈ remaindersOfAll g.whole g.tokens (utf8 s.toList) := by
  simp [accepts]

end Glob
end ProviderCoverage

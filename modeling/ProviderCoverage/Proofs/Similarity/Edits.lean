import Mathlib.Data.List.Nodup
import Mathlib.Order.Bounds.Basic
import Mathlib.Tactic.NormNum.Inv
import ProviderCoverage.Proofs.Similarity.Scores

/-! Scores and edits. The distance of two texts is the least number of edits of one character that
lead from one to the other (`isLeast_editDistance`). So it is the same in both directions, and that
of texts with no character in common is the length of the longer one; the scores follow
(`similarity_laws`). -/

namespace ProviderCoverage

/-- One character comes in, goes or is replaced. -/
inductive Edit : List Char → List Char → Prop
  | insert (c : Char) (s : List Char) : Edit s (c :: s)
  | delete (c : Char) (s : List Char) : Edit (c :: s) s
  | replace (c d : Char) (s : List Char) : Edit (c :: s) (d :: s)
  | later (c : Char) {s t : List Char} (h : Edit s t) : Edit (c :: s) (c :: t)

/-- So many edits one after the other. -/
inductive Edits : Nat → List Char → List Char → Prop
  | done (s : List Char) : Edits 0 s s
  | first {n : Nat} {s t u : List Char} (h : Edit s t) (more : Edits n t u) : Edits (n + 1) s u

variable {m n : Nat} {s t u xs ys : List Char}

theorem Edits.cons (c : Char) (h : Edits n s t) : Edits n (c :: s) (c :: t) := by
  induction h with
  | done s => exact .done _
  | first hedit _ ih => exact .first (.later c hedit) ih

theorem Edits.min (h : Edits m s t) (h' : Edits n s t) : Edits (min m n) s t := by
  rcases min_choice m n with heq | heq
  · rwa [heq]
  · rwa [heq]

/-! ### No more edits than the distance are needed -/

/-- The three ways in which the recursion goes on are three first edits, apart from equal
characters, which need none. -/
theorem edits_editDistance (xs ys : List Char) : Edits (editDistance xs ys) xs ys := by
  induction xs generalizing ys with
  | nil =>
    induction ys with
    | nil => exact .done []
    | cons y ys ih =>
      rw [editDistance_nil_left] at ih ⊢
      exact .first (.insert y []) (ih.cons y)
  | cons x xs ihx =>
    induction ys with
    | nil =>
      have hdelete := Edits.first (.delete x xs) (ihx [])
      rwa [editDistance_nil_right] at hdelete ⊢
    | cons y ys ihy =>
      have hdelete := Edits.first (.delete x xs) (ihx (y :: ys))
      have hinsert := Edits.first (.insert y (x :: xs)) (ihy.cons y)
      have hreplace : Edits (editDistance xs ys + if x = y then 0 else 1) (x :: xs) (y :: ys) := by
        split
        · next heq => exact heq ▸ (ihx ys).cons x
        · exact .first (.replace x y xs) ((ihx ys).cons y)
      rw [editDistance_cons_cons]
      exact (hdelete.min hinsert).min hreplace

/-! ### An edit changes distances by one at most -/

theorem editDistance_cons_le (x : Char) (xs ys : List Char) :
    editDistance (x :: xs) ys ≤ editDistance xs ys + 1 := by
  cases ys with
  | nil => simp
  | cons y ys =>
    rw [editDistance_cons_cons]
    omega

theorem editDistance_le_cons_right (y : Char) (xs ys : List Char) :
    editDistance xs (y :: ys) ≤ editDistance xs ys + 1 := by
  cases xs with
  | nil => simp
  | cons x xs =>
    rw [editDistance_cons_cons]
    omega

theorem editDistance_le_cons (x : Char) (xs ys : List Char) :
    editDistance xs ys ≤ editDistance (x :: xs) ys + 1 := by
  induction ys with
  | nil =>
    rw [editDistance_nil_right, editDistance_nil_right, List.length_cons]
    omega
  | cons y ys ih =>
    have hright := editDistance_le_cons_right y xs ys
    rw [editDistance_cons_cons]
    omega

theorem editDistance_replace_le (c d : Char) (s t : List Char) :
    editDistance (c :: s) t ≤ editDistance (d :: s) t + 1 := by
  induction t with
  | nil => simp
  | cons y t ih =>
    rw [editDistance_cons_cons, editDistance_cons_cons]
    split <;> split <;> omega

/-- What holds of two texts holds with the same character before both. -/
theorem editDistance_later_le (c : Char)
    (h : ∀ u, editDistance s u ≤ editDistance t u + 1) (u : List Char) :
    editDistance (c :: s) u ≤ editDistance (c :: t) u + 1 := by
  induction u with
  | nil =>
    have hnil := h []
    simp only [editDistance_nil_right, List.length_cons] at hnil ⊢
    omega
  | cons y u ih =>
    have hdelete := h (y :: u)
    have hreplace := h u
    rw [editDistance_cons_cons, editDistance_cons_cons]
    omega

theorem Edit.editDistance_le (h : Edit s t) (u : List Char) :
    editDistance s u ≤ editDistance t u + 1 := by
  induction h generalizing u with
  | insert c s => exact editDistance_le_cons c s u
  | delete c s => exact editDistance_cons_le c s u
  | replace c d s => exact editDistance_replace_le c d s u
  | later c _ ih => exact editDistance_later_le c ih u

theorem Edits.editDistance_le (h : Edits n s t) : editDistance s t ≤ n := by
  induction h with
  | done s => exact (editDistance_eq_zero_iff.mpr rfl).le
  | first hedit _ ih => exact (hedit.editDistance_le _).trans (Nat.add_le_add_right ih 1)

/-- The distance is that of the definition: no fewer edits do. -/
theorem isLeast_editDistance (xs ys : List Char) :
    IsLeast {n | Edits n xs ys} (editDistance xs ys) :=
  ⟨edits_editDistance xs ys, fun _ h => h.editDistance_le⟩

/-! ### Both directions -/

theorem Edit.symm (h : Edit s t) : Edit t s := by
  induction h with
  | insert c s => exact .delete c s
  | delete c s => exact .insert c s
  | replace c d s => exact .replace d c s
  | later c _ ih => exact .later c ih

theorem Edits.concat (h : Edits n s t) (hedit : Edit t u) : Edits (n + 1) s u := by
  induction h with
  | done s => exact .first hedit (.done u)
  | first hfirst _ ih => exact .first hfirst (ih hedit)

theorem Edits.symm (h : Edits n s t) : Edits n t s := by
  induction h with
  | done s => exact .done s
  | first hedit _ ih => exact ih.concat hedit.symm

theorem editDistance_comm (xs ys : List Char) : editDistance xs ys = editDistance ys xs :=
  Nat.le_antisymm (edits_editDistance ys xs).symm.editDistance_le
    (edits_editDistance xs ys).symm.editDistance_le

/-- Scores do not depend on the order of the two texts, however they are rounded. -/
theorem similarity_comm (round : Rounding) (a b : List Char) :
    similarity round a b = similarity round b a := by
  rw [similarity, similarity, editDistance_comm, max_comm]
  simp only [eq_comm]

/-! ### Texts with no character in common -/

/-- No character can be kept. -/
theorem editDistance_of_disjoint (h : xs.Disjoint ys) :
    editDistance xs ys = max xs.length ys.length := by
  induction xs generalizing ys with
  | nil => simp
  | cons x xs ihx =>
    induction ys with
    | nil => simp
    | cons y ys ihy =>
      obtain ⟨hx, hxs⟩ := List.disjoint_cons_left.mp h
      obtain ⟨hne, hx⟩ := not_or.mp (mt List.mem_cons.mpr hx)
      have hys := (List.disjoint_cons_right.mp h).2
      rw [editDistance_cons_cons, if_neg hne, ihx hxs, ihy hys,
        ihx (List.disjoint_cons_right.mp hxs).2]
      simp only [List.length_cons]
      omega

theorem similarity_of_disjoint {a b : List Char} (h : a.Disjoint b) :
    similarity id a b = if a = [] ∧ b = [] then 1 else 0 := by
  by_cases heq : a = b
  · subst heq
    have hnil : a = [] := List.eq_nil_iff_forall_not_mem.mpr fun c hc => h hc hc
    rw [similarity, if_pos rfl, if_pos ⟨hnil, hnil⟩]
  · have hnil : ¬ (a = [] ∧ b = []) := fun hnil => heq (hnil.1.trans hnil.2.symm)
    have hlength : ((max a.length b.length : Nat) : Rat) ≠ 0 :=
      Nat.cast_ne_zero.mpr (max_length_pos heq).ne'
    rw [similarity, if_neg heq, if_neg hnil, editDistance_of_disjoint h, id, id,
      div_self hlength, sub_self]

/-! ### The laws of exact scores -/

/-- Exact scores lie between zero and one and do not depend on the order of the two texts. One is
the score of equal texts alone, and zero that of texts with no character in common, unless both are
empty. Where there is a division, it is not by zero. -/
theorem similarity_laws (a b : List Char) :
    IsLeast {n | Edits n a b} (editDistance a b) ∧
    (a ≠ b → 0 < max a.length b.length ∧
      similarity id a b = 1 - editDistance a b / (max a.length b.length : Nat)) ∧
    0 ≤ similarity id a b ∧ similarity id a b ≤ 1 ∧
    similarity id a b = similarity id b a ∧
    (similarity id a b = 1 ↔ a = b) ∧
    (a.Disjoint b → similarity id a b = if a = [] ∧ b = [] then 1 else 0) := by
  obtain ⟨hnonneg, hle⟩ := similarity_mem_unit (fun _ h h' => ⟨h, h'⟩) a b
  have hone : similarity id a b = 1 → a = b := by
    intro hone
    by_contra hne
    exact (similarity_lt_one hne).ne hone
  exact ⟨isLeast_editDistance a b, fun hne => ⟨max_length_pos hne, if_neg hne⟩, hnonneg, hle,
    similarity_comm id a b, ⟨hone, fun heq => if_pos heq⟩, similarity_of_disjoint⟩

/-- Two names without a common character, and two that differ in one place of three. -/
theorem similarity_laws_vpc : similarity id "vpc".toList "dns".toList = 0 ∧
    similarity id "vpc".toList "vpn".toList = 2 / 3 := by
  obtain ⟨-, -, -, -, -, -, hdisjoint⟩ := similarity_laws "vpc".toList "dns".toList
  obtain ⟨-, hdivision, -⟩ := similarity_laws "vpc".toList "vpn".toList
  have hdistance : editDistance "vpc".toList "vpn".toList = 1 := by decide
  have hlength : max "vpc".toList.length "vpn".toList.length = 3 := by decide
  refine ⟨hdisjoint (by simp), ?_⟩
  rw [(hdivision (by decide)).2, hdistance, hlength]
  norm_num

end ProviderCoverage

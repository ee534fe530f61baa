import Mathlib.Data.List.Nodup

/-! Lists with something at their end, values that are all there, runs at the front of a list, lists
without repetitions, and looking up in lists of keys with values: in a list that has every key once,
a value is found exactly if it is there. -/

namespace ProviderCoverage

namespace Lists

variable {α : Type} {l : List α} {a b : α}

theorem nodup_concat (hl : l.Nodup) (ha : a ∉ l) : (l ++ [a]).Nodup := by
  rw [← List.concat_eq_append]
  exact hl.concat ha

theorem getElem?_concat {i : Nat} (h : (l ++ [a])[i]? = some b) :
    l[i]? = some b ∨ i = l.length ∧ b = a := by
  rcases Nat.lt_trichotomy i l.length with hi | hi | hi
  · exact .inl (List.getElem?_append_left hi ▸ h)
  · subst hi
    rw [List.getElem?_concat_length] at h
    exact .inr ⟨rfl, (Option.some.inj h).symm⟩
  · rw [List.getElem?_eq_none (by simp; omega)] at h
    cases h

/-- The last member, or else what came before the first. -/
theorem getLast?_cons_or (a : α) (l : List α) (before : Option α) :
    (a :: l).getLast?.or before = l.getLast?.or (some a) := by
  rw [List.getLast?_cons]
  cases l.getLast? <;> rfl

theorem modify_concat (f : α → α) : (l ++ [a]).modify l.length f = l ++ [f a] := by
  rw [List.modify_eq_take_cons_drop (by simp)]
  simp

/-- A function that only changes what a predicate refuses keeps the rest. -/
theorem filter_sublist_map {p : α → Bool} {f : α → α}
    (h : ∀ a ∈ l, p a = true → f a = a) : (l.filter p).Sublist (l.map f) := by
  have hsame : (l.filter p).map f = l.filter p := by
    rw [List.map_congr_left (g := id), List.map_id]
    intro a ha
    obtain ⟨hmem, hp⟩ := List.mem_filter.mp ha
    exact h a hmem hp
  rw [← hsame]
  exact List.filter_sublist.map f

/-- Nothing is lost if there is a value everywhere. -/
theorem map_some_filterMap {β : Type} {f : α → Option β} (h : ∀ a ∈ l, (f a).isSome) :
    (l.filterMap f).map some = l.map f := by
  induction l with
  | nil => rfl
  | cons a l ih =>
    obtain ⟨b, hb⟩ := Option.isSome_iff_exists.mp (h a (List.mem_cons_self ..))
    rw [List.filterMap_cons_some hb, List.map_cons, List.map_cons, hb,
      ih fun a ha => h a (List.mem_cons_of_mem _ ha)]

/-- The run at the front ends where the rest begins with something else. -/
theorem takeWhile_append_of_head {p : α → Bool} {rest : List α} (hl : ∀ a ∈ l, p a = true)
    (hrest : ∀ a ∈ rest.head?, p a = false) : (l ++ rest).takeWhile p = l := by
  rw [List.takeWhile_append_of_pos hl]
  cases rest with
  | nil => simp
  | cons a rest => simp [hrest a rfl]

theorem dropWhile_append_of_head {p : α → Bool} {rest : List α} (hl : ∀ a ∈ l, p a = true)
    (hrest : ∀ a ∈ rest.head?, p a = false) : (l ++ rest).dropWhile p = rest := by
  rw [List.dropWhile_append_of_pos hl]
  cases rest with
  | nil => rfl
  | cons a rest => simp [hrest a rfl]

theorem take_length_takeWhile {p : α → Bool} : l.take (l.takeWhile p).length = l.takeWhile p :=
  (List.prefix_iff_eq_take.mp (List.takeWhile_prefix p)).symm

theorem drop_length_takeWhile {p : α → Bool} : l.drop (l.takeWhile p).length = l.dropWhile p := by
  have hsplit := List.take_append_drop (l.takeWhile p).length l
  rw [take_length_takeWhile] at hsplit
  exact List.append_cancel_left (hsplit.trans List.takeWhile_append_dropWhile.symm)

/-- What begins the rest has ended the run. -/
theorem head?_dropWhile_eq_false {p : α → Bool} : ∀ a ∈ (l.dropWhile p).head?, p a = false := by
  intro a ha
  have := List.head?_dropWhile_not p l
  rw [ha] at this
  simpa using this

section
variable [BEq α] [LawfulBEq α]

theorem nodup_eraseDups : (l : List α) → l.eraseDups.Nodup
  | [] => List.nodup_nil
  | a :: l => by
    rw [List.eraseDups_cons, List.nodup_cons]
    have hlength : (l.filter fun b => !b == a).length ≤ l.length := List.length_filter_le ..
    have hfresh : a ∉ (l.filter fun b => !b == a).eraseDups := by simp
    exact ⟨hfresh, nodup_eraseDups _⟩
termination_by l => l.length
decreasing_by exact Nat.lt_succ_of_le hlength

theorem idxOf_cons_lt_idxOf_cons {x : α} : (x :: l).idxOf a < (x :: l).idxOf b ↔
    b ≠ x ∧ (a = x ∨ l.idxOf a < l.idxOf b) := by
  by_cases hb : x = b
  · subst hb
    simp
  · rw [List.idxOf_cons_ne _ hb, and_iff_right (Ne.symm hb)]
    by_cases ha : x = a
    · subst ha
      simp
    · rw [List.idxOf_cons_ne _ ha, or_iff_right (Ne.symm ha), Nat.succ_lt_succ_iff]

/-- Leaving out others does not change which of two comes first. -/
theorem idxOf_filter_lt_idxOf_filter {p : α → Bool} (ha : p a = true) (hb : p b = true) :
    (l.filter p).idxOf a < (l.filter p).idxOf b ↔ l.idxOf a < l.idxOf b := by
  induction l with
  | nil => rfl
  | cons x l ih =>
    rw [idxOf_cons_lt_idxOf_cons]
    by_cases hx : p x = true
    · rw [List.filter_cons_of_pos hx, idxOf_cons_lt_idxOf_cons, ih]
    · have hax : a ≠ x := fun h => hx (h ▸ ha)
      have hbx : b ≠ x := fun h => hx (h ▸ hb)
      rw [List.filter_cons_of_neg hx, ih, and_iff_right hbx, or_iff_right hax]

/-- Without repetitions a list keeps the order of first occurrences. -/
theorem idxOf_eraseDups_lt_idxOf_eraseDups : (l : List α) →
    (l.eraseDups.idxOf a < l.eraseDups.idxOf b ↔ l.idxOf a < l.idxOf b)
  | [] => Iff.rfl
  | x :: l => by
    have hlength : (l.filter fun b => !b == x).length ≤ l.length := List.length_filter_le ..
    rw [List.eraseDups_cons, idxOf_cons_lt_idxOf_cons, idxOf_cons_lt_idxOf_cons,
      idxOf_eraseDups_lt_idxOf_eraseDups]
    refine and_congr_right fun hb => ?_
    by_cases ha : a = x
    · simp [ha]
    · rw [or_iff_right ha, or_iff_right ha]
      exact idxOf_filter_lt_idxOf_filter (by simpa using ha) (by simpa using hb)
termination_by l => l.length
decreasing_by exact Nat.lt_succ_of_le hlength

end

end Lists

namespace Lookup

variable {α β : Type} [BEq α] [LawfulBEq α] {l : List (α × β)} {a : α} {b : β}

theorem mem_of_eq_some (h : l.lookup a = some b) : (a, b) ∈ l := by
  obtain ⟨before, after, rfl, -⟩ := List.lookup_eq_some_iff.mp h
  simp

theorem eq_some_iff_mem (hl : (l.map (·.1)).Nodup) : l.lookup a = some b ↔ (a, b) ∈ l := by
  refine ⟨mem_of_eq_some, fun hm => ?_⟩
  induction l with
  | nil => cases hm
  | cons p l ih =>
    obtain ⟨hp, hl⟩ := List.nodup_cons.mp hl
    rcases List.mem_cons.mp hm with rfl | hm
    · exact List.lookup_cons_self
    · have hne : a ≠ p.1 := fun he => hp (List.mem_map.mpr ⟨(a, b), hm, he⟩)
      rw [List.lookup_cons, beq_eq_false_iff_ne.mpr hne]
      exact ih hl hm

theorem eq_none_iff_notMem : l.lookup a = none ↔ a ∉ l.map (·.1) := by
  rw [List.lookup_eq_none_iff]
  simp only [List.mem_map, not_exists, not_and, bne_iff_ne, ne_comm]

/-- Look-up among the entries of all keys but one. -/
theorem filter_ne (x y : α) (l : List (α × β)) :
    (l.filter (·.1 != x)).lookup y = if y == x then none else l.lookup y := by
  induction l with
  | nil => simp
  | cons p l ih =>
    obtain ⟨k, v⟩ := p
    by_cases hk : k = x
    · subst hk
      rw [List.filter_cons_of_neg (by simp), ih, List.lookup_cons]
      by_cases hy : y = k
      · simp [hy]
      · simp [beq_false_of_ne hy]
    · rw [List.filter_cons_of_pos (by simpa using hk), List.lookup_cons, List.lookup_cons, ih]
      by_cases hy : y = k
      · simp [hy, hk]
      · simp [beq_false_of_ne hy]

end Lookup
end ProviderCoverage

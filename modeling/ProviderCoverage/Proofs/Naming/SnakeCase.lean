import Mathlib.Data.List.Flatten
import ProviderCoverage.Naming

/-! What snake case keeps of a text: all its letters, in their order. Only underscores are added, so
nothing but the empty text becomes empty. -/

namespace ProviderCoverage.Naming

open Unicode

/-- The text in lower case, without underscores. -/
def letters (s : List Char) : List Char :=
  (s.flatMap lowercase).filter (· != '_')

@[simp] theorem letters_append (s t : List Char) : letters (s ++ t) = letters s ++ letters t := by
  rw [letters, List.flatMap_append, List.filter_append]
  rfl

theorem letters_sublist {s t : List Char} (h : s.Sublist t) : (letters s).Sublist (letters t) :=
  (h.flatMap lowercase).filter _

theorem filter_snakeFrom (previous : Option Char) (s : List Char) :
    (snakeFrom previous s).filter (· != '_') = letters s := by
  induction s generalizing previous with
  | nil => rfl
  | cons c rest ih =>
    have hmark : ∀ b : Bool, (if b then ['_'] else []).filter (· != '_') = [] := by decide
    have hone : letters [c] = (lowercase c).filter (· != '_') := by simp [letters]
    rw [snakeFrom, List.filter_append, List.filter_append, ih, hmark, List.nil_append, ← hone,
      ← letters_append]
    rfl

/-- Without its underscores, a name in snake case has the letters of the text. -/
theorem filter_snakeCase (s : List Char) : (snakeCase s).filter (· != '_') = letters s :=
  filter_snakeFrom none s

theorem lowercase_ne_nil (c : Char) : lowercase c ≠ [] := by
  rw [lowercase]
  split
  · simp
  · split <;> simp

theorem snakeCase_ne_nil {s : List Char} (h : s ≠ []) : snakeCase s ≠ [] := by
  cases s with
  | nil => exact absurd rfl h
  | cons c rest =>
    rw [snakeCase, snakeFrom]
    exact List.append_ne_nil_of_left_ne_nil
      (List.append_ne_nil_of_right_ne_nil _ (lowercase_ne_nil c)) _

end ProviderCoverage.Naming

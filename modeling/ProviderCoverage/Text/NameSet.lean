/-! Sets of names, as strictly increasing lists. -/

namespace ProviderCoverage.NameSet

def insert (name : String) : List String → List String
  | [] => [name]
  | x :: xs =>
    if name < x then name :: x :: xs
    else if name = x then x :: xs
    else x :: insert name xs

def ofList (names : List String) : List String :=
  names.foldl (fun set name => insert name set) []

theorem mem_insert {name x : String} {set : List String} :
    x ∈ insert name set ↔ x = name ∨ x ∈ set := by
  induction set with
  | nil => simp [insert]
  | cons y ys ih =>
    rw [insert]
    split
    · simp
    · split
      · next h => simp [h]
      · rw [List.mem_cons, ih, List.mem_cons]; grind

theorem mem_foldl_insert {x : String} {names set : List String} :
    x ∈ names.foldl (fun set name => insert name set) set ↔ x ∈ names ∨ x ∈ set := by
  induction names generalizing set with
  | nil => simp
  | cons name names ih => rw [List.foldl_cons, ih, mem_insert, List.mem_cons]; grind

@[simp] theorem mem_ofList {x : String} {names : List String} : x ∈ ofList names ↔ x ∈ names := by
  simp [ofList, mem_foldl_insert]

theorem pairwise_insert {name : String} {set : List String} (h : set.Pairwise (· < ·)) :
    (insert name set).Pairwise (· < ·) := by
  induction set with
  | nil => simp [insert]
  | cons x xs ih =>
    obtain ⟨hx, hxs⟩ := List.pairwise_cons.mp h
    rw [insert]
    split
    · next hlt =>
      refine List.pairwise_cons.mpr ⟨fun y hy => ?_, h⟩
      rcases List.mem_cons.mp hy with rfl | hy
      · exact hlt
      · exact String.lt_trans hlt (hx y hy)
    · next hnlt =>
      split
      · exact h
      · next hne =>
        refine List.pairwise_cons.mpr ⟨fun y hy => ?_, ih hxs⟩
        rcases mem_insert.mp hy with rfl | hy
        · grind
        · exact hx y hy

theorem pairwise_ofList (names : List String) : (ofList names).Pairwise (· < ·) := by
  have hfoldl : ∀ set : List String, set.Pairwise (· < ·) →
      (names.foldl (fun set name => insert name set) set).Pairwise (· < ·) := by
    induction names with
    | nil => exact fun _ h => h
    | cons name names ih => exact fun set h => ih _ (pairwise_insert h)
  exact hfoldl [] .nil

end ProviderCoverage.NameSet

/-! Edit distance: the least number of insertions, deletions and substitutions of one character
that turn one text into another, computed row by row over the suffixes of the second text. -/

namespace ProviderCoverage

/-- The distances of the empty text to every suffix of `ys`, longest suffix first. -/
def EditDistance.firstRow : List Char → List Nat
  | [] => [0]
  | _ :: ys => (ys.length + 1) :: firstRow ys

/-- The distances of `x :: xs` to every suffix of `ys`, given those of `xs`. -/
def EditDistance.nextRow (x : Char) : List Char → List Nat → List Nat
  | [], row => [row.headD 0 + 1]
  | y :: ys, row =>
    let shorter := nextRow x ys row.tail
    let replaced := row.tail.headD 0 + if x = y then 0 else 1
    min (min (row.headD 0 + 1) (shorter.headD 0 + 1)) replaced :: shorter

def EditDistance.row (xs ys : List Char) : List Nat :=
  xs.foldr (fun x row => nextRow x ys row) (firstRow ys)

def editDistance (xs ys : List Char) : Nat :=
  (EditDistance.row xs ys).headD 0

namespace EditDistance

theorem row_cons (x : Char) (xs ys : List Char) :
    row (x :: xs) ys = nextRow x ys (row xs ys) := rfl

/-- The rows of a shorter text are the ends of those of a longer one. -/
theorem tail_row (xs : List Char) (y : Char) (ys : List Char) :
    (row xs (y :: ys)).tail = row xs ys := by
  induction xs with
  | nil => rfl
  | cons x xs ih => rw [row_cons, nextRow, List.tail_cons, ih, ← row_cons]

end EditDistance

open EditDistance

@[simp] theorem editDistance_nil_left (ys : List Char) : editDistance [] ys = ys.length := by
  cases ys <;> rfl

@[simp] theorem editDistance_nil_right (xs : List Char) : editDistance xs [] = xs.length := by
  induction xs with
  | nil => rfl
  | cons x xs ih =>
    have h : editDistance (x :: xs) [] = editDistance xs [] + 1 := rfl
    rw [h, ih, List.length_cons]

/-- The recursion that the rows compute: delete, insert, or keep and replace. -/
theorem editDistance_cons_cons (x y : Char) (xs ys : List Char) :
    editDistance (x :: xs) (y :: ys) =
      min (min (editDistance xs (y :: ys) + 1) (editDistance (x :: xs) ys + 1))
        (editDistance xs ys + if x = y then 0 else 1) := by
  simp only [editDistance, row_cons, nextRow, List.headD_cons, tail_row]

end ProviderCoverage

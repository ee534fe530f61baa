import ProviderCoverage.Text.Quoted

/-! The BLAKE3 hash, as far as a prefix of its first output block. The input is cut into chunks of
1024 bytes and blocks of 64; the chunks are the leaves of a binary tree that is filled from the
left. -/

namespace ProviderCoverage.Digest

abbrev Words := Array UInt32

def initialWords : Words :=
  #[0x6A09E667, 0xBB67AE85, 0x3C6EF372, 0xA54FF53A, 0x510E527F, 0x9B05688C, 0x1F83D9AB, 0x5BE0CD19]

/-- The order in which the next round reads the words of the block. -/
def permutation : List Nat :=
  [2, 6, 3, 10, 7, 0, 4, 13, 1, 11, 12, 5, 9, 14, 15, 8]

def chunkStart : UInt32 := 1
def chunkEnd : UInt32 := 2
def parentNode : UInt32 := 4
def rootNode : UInt32 := 8

def rotateRight (x n : UInt32) : UInt32 :=
  (x >>> n) ||| (x <<< (32 - n))

/-- Mix two words of the block into four words of the state. -/
def mix (v : Words) (a b c d : Nat) (x y : UInt32) : Words :=
  let at' (i : Nat) : UInt32 := v.getD i 0
  let a1 := at' a + at' b + x
  let d1 := rotateRight (at' d ^^^ a1) 16
  let c1 := at' c + d1
  let b1 := rotateRight (at' b ^^^ c1) 12
  let a2 := a1 + b1 + y
  let d2 := rotateRight (d1 ^^^ a2) 8
  let c2 := c1 + d2
  let b2 := rotateRight (b1 ^^^ c2) 7
  (((v.setIfInBounds a a2).setIfInBounds b b2).setIfInBounds c c2).setIfInBounds d d2

/-- The columns and diagonals of the state, with the words of the block for each. -/
def quarters : List (Nat × Nat × Nat × Nat × Nat) :=
  [(0, 4, 8, 12, 0), (1, 5, 9, 13, 2), (2, 6, 10, 14, 4), (3, 7, 11, 15, 6),
   (0, 5, 10, 15, 8), (1, 6, 11, 12, 10), (2, 7, 8, 13, 12), (3, 4, 9, 14, 14)]

def roundOf (block v : Words) : Words :=
  quarters.foldl
    (fun v (a, b, c, d, i) => mix v a b c d (block.getD i 0) (block.getD (i + 1) 0)) v

def permute (block : Words) : Words :=
  (permutation.map fun i => block.getD i 0).toArray

/-- The given number of rounds, with the block permuted in between. -/
def rounds : Nat → Words → Words → Words
  | 0, _, v => v
  | n + 1, block, v => rounds n (permute block) (roundOf block v)

/-- A node whose hash is still to be taken, so that the root can be marked. -/
structure TreeNode where
  chaining : Words
  block : Words
  counter : Nat
  length : Nat
  flags : UInt32

/-- The first eight words that a node hashes to. -/
def TreeNode.compress (n : TreeNode) : Words :=
  let v := n.chaining ++ initialWords.extract 0 4 ++
    #[UInt32.ofNat n.counter, UInt32.ofNat (n.counter / Nat.pow 2 32), UInt32.ofNat n.length, n.flags]
  let v := rounds 7 n.block v
  ((List.range 8).map fun i => v.getD i 0 ^^^ v.getD (i + 8) 0).toArray

/-- Consecutive runs of `n + 1` items, the last one perhaps shorter. -/
def runs {α : Type} (n : Nat) (xs : List α) : List (List α) :=
  match xs with
  | [] => []
  | x :: rest => (x :: rest.take n) :: runs n (rest.drop n)
termination_by xs.length
decreasing_by simp only [List.length_drop, List.length_cons]; omega

def wordOfBytes (bytes : List UInt8) : UInt32 :=
  bytes.foldr (fun b w => w <<< 8 ||| b.toUInt32) 0

/-- The words of a block, filled up with zeros. -/
def wordsOfBytes (bytes : List UInt8) : Words :=
  let bytes := bytes ++ List.replicate (64 - bytes.length) 0
  ((runs 3 bytes).map wordOfBytes).toArray

/-- The node of a chunk, from the chaining value so far and the blocks that remain. -/
def chunkNode (counter : Nat) (chaining : Words) (flags : UInt32) : List (List UInt8) → TreeNode
  | [] => ⟨chaining, wordsOfBytes [], counter, 0, flags ||| chunkEnd⟩
  | [last] => ⟨chaining, wordsOfBytes last, counter, last.length, flags ||| chunkEnd⟩
  | block :: rest =>
    let node : TreeNode := ⟨chaining, wordsOfBytes block, counter, block.length, flags⟩
    chunkNode counter node.compress 0 rest

def parent (left right : TreeNode) : TreeNode :=
  ⟨initialWords, left.compress ++ right.compress, 0, 64, parentNode⟩

/-- Join neighbours; an odd last node stays. -/
def joinPairs : List TreeNode → List TreeNode
  | a :: b :: rest => parent a b :: joinPairs rest
  | rest => rest

theorem length_joinPairs_le (nodes : List TreeNode) : (joinPairs nodes).length ≤ nodes.length := by
  fun_induction joinPairs nodes with
  | case1 a b rest ih => simp only [List.length_cons]; omega
  | case2 rest _ => exact Nat.le_refl _

/-- The root over the leaves. -/
def root (nodes : List TreeNode) : Option TreeNode :=
  match nodes with
  | [] => none
  | [n] => some n
  | a :: b :: rest => root (parent a b :: joinPairs rest)
termination_by nodes.length
decreasing_by
  have := length_joinPairs_le rest
  simp only [List.length_cons]; omega

def leaves (bytes : List UInt8) : List TreeNode :=
  let chunks := if bytes.isEmpty then [[]] else runs 1023 bytes
  chunks.mapIdx fun i chunk => chunkNode i initialWords chunkStart (runs 63 chunk)

def hexOfByte (n : Nat) : List Char :=
  let ds := Text.hexDigits n
  List.replicate (2 - ds.length) '0' ++ ds

def bytesOfWord (w : UInt32) : List Nat :=
  (List.range 4).map fun i => w.toNat / Nat.pow 256 i % 256

/-- The first sixteen hexadecimal digits of the hash of a text. -/
def fingerprint (s : String) : String :=
  match root (leaves s.toUTF8.toList) with
  | none => ""
  | some n =>
    let out := { n with flags := n.flags ||| rootNode }.compress
    String.ofList ((out.toList.take 2).flatMap fun w => (bytesOfWord w).flatMap hexOfByte)

/-! ### No fingerprint is empty -/

theorem root_isSome {nodes : List TreeNode} (h : nodes ≠ []) : (root nodes).isSome := by
  fun_induction root nodes with
  | case1 => exact absurd rfl h
  | case2 n => rfl
  | case3 a b rest ih => exact ih (List.cons_ne_nil _ _)

theorem runs_ne_nil {α : Type} (n : Nat) {xs : List α} (h : xs ≠ []) : runs n xs ≠ [] := by
  cases xs with
  | nil => exact absurd rfl h
  | cons x rest =>
    rw [runs]
    exact List.cons_ne_nil _ _

theorem leaves_ne_nil (bytes : List UInt8) : leaves bytes ≠ [] := by
  rw [leaves, ne_eq, List.mapIdx_eq_nil_iff]
  split
  · exact List.cons_ne_nil _ _
  · next h => exact runs_ne_nil 1023 (by simpa using h)

theorem hexOfByte_ne_nil (n : Nat) : hexOfByte n ≠ [] := by
  intro h
  obtain ⟨hfill, hdigits⟩ := List.append_eq_nil_iff.mp h
  rw [hdigits] at hfill
  cases hfill

theorem fingerprint_ne_empty (s : String) : fingerprint s ≠ "" := by
  obtain ⟨n, hn⟩ := Option.isSome_iff_exists.mp (root_isSome (leaves_ne_nil s.toUTF8.toList))
  rw [fingerprint, hn]
  intro h
  have hdigits := String.ofList_inj.mp h
  -- The first word of the output has a first byte, and that has digits.
  simp only [TreeNode.compress, List.range, List.range.loop, List.map_cons, List.take_succ_cons,
    List.flatMap_cons, bytesOfWord, List.append_assoc] at hdigits
  exact hexOfByte_ne_nil _ (List.append_eq_nil_iff.mp hdigits).1

end ProviderCoverage.Digest

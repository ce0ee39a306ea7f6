/-
This file is a binary hash tree that is kept level by level, with the leaves at the
bottom and one digest on top.

A level is determined by the one below it, so the whole tree is determined by its
leaves. Replacing a leaf changes one digest on every level, the one above the leaf:
every other digest hashes the pair it hashed before. The digests beside that path are
the proof of a leaf, and hashing the leaf with them, from below, ends at the top.
-/

import Zkdeal.Library.Binding

namespace LevelTree

open Binding

variable {Message Digest : Type} (hash : Message → Digest) (node : Digest → Digest → Message)

/-- A level and those above it, while more than one digest is left, for at most `fuel` of
them. -/
def levelsFrom : Nat → List Digest → List (List Digest)
  | 0, level => [level]
  | fuel + 1, level =>
    if 1 < level.length then level :: levelsFrom fuel (pairUp hash node level) else [level]

/-- Hash a digest with the digests beside its path; the bits of its position say on which
side it stands. -/
def foldBranch : Nat → Digest → List Digest → Digest
  | _, digest, [] => digest
  | index, digest, sibling :: rest =>
    foldBranch (index / 2)
      (if index % 2 = 0 then hash (node digest sibling) else hash (node sibling digest)) rest

/-! ### Levels -/

section Levels

variable {hash node}

theorem getElem?_pairUp (level : List Digest) (index : Nat) :
    (pairUp hash node level)[index]? = (level[2 * index]?).bind fun left =>
      (level[2 * index + 1]?).map fun right => hash (node left right) := by
  induction index generalizing level with
  | zero =>
    match level with
    | [] => rfl
    | [_] => rfl
    | left :: right :: rest => rfl
  | succ index inductionHypothesis =>
    have shifted : 2 * (index + 1) = 2 * index + 1 + 1 := by omega
    match level with
    | [] => rfl
    | [_] => rw [shifted]; rfl
    | left :: right :: rest =>
      rw [pairUp, List.getElem?_cons_succ, inductionHypothesis, shifted]
      simp only [List.getElem?_cons_succ]

theorem length_pairUp_of_perfect {depth : Nat} {level : List Digest}
    (perfect : level.length = 2 ^ (depth + 1)) : (pairUp hash node level).length = 2 ^ depth :=
  length_pairUp hash node _ level (by rw [perfect, Nat.pow_succ, Nat.mul_comm])

theorem levelsFrom_succ {depth fuel : Nat} {level : List Digest}
    (perfect : level.length = 2 ^ (depth + 1)) :
    levelsFrom hash node (fuel + 1) level =
      level :: levelsFrom hash node fuel (pairUp hash node level) := by
  have large : 1 < level.length := by
    rw [perfect]
    exact Nat.one_lt_two_pow (by omega)
  rw [levelsFrom, if_pos large]

/-- The top of a tree is one digest. -/
theorem levelsFrom_one {fuel : Nat} {level : List Digest} (single : level.length = 1) :
    levelsFrom hash node fuel level = [level] := by
  cases fuel with
  | zero => rfl
  | succ fuel => rw [levelsFrom, if_neg (by omega)]

theorem length_ascend {depth height : Nat} {leaves : List Digest}
    (perfect : leaves.length = 2 ^ depth) (below : height ≤ depth) :
    (ascend hash node height leaves).length = 2 ^ (depth - height) := by
  have above := above_ascend hash node height (depth - height) leaves
    (by rw [perfect, Nat.add_sub_cancel' below])
  exact above.perfect

theorem ascend_succ (height : Nat) (leaves : List Digest) :
    ascend hash node (height + 1) leaves = pairUp hash node (ascend hash node height leaves) :=
  Function.iterate_succ_apply' _ _ _

/-- The levels of a tree over a power of two of leaves, bottom up. -/
theorem levelsFrom_eq {depth fuel : Nat} {leaves : List Digest}
    (perfect : leaves.length = 2 ^ depth) (enough : depth ≤ fuel) :
    levelsFrom hash node fuel leaves =
      (List.range (depth + 1)).map fun height => ascend hash node height leaves := by
  induction depth generalizing fuel leaves with
  | zero =>
    rw [levelsFrom_one perfect]
    rfl
  | succ depth inductionHypothesis =>
    obtain ⟨fuel, rfl⟩ : ∃ smaller, fuel = smaller + 1 := ⟨fuel - 1, by omega⟩
    rw [levelsFrom_succ perfect, inductionHypothesis (length_pairUp_of_perfect perfect) (by omega)]
    conv_rhs => rw [List.range_succ_eq_map, List.map_cons, List.map_map]
    rfl

end Levels

/-! ### Replacing a leaf -/

section Replacing

variable {hash node}

/-- Replacing a digest replaces the one above it, and no other. -/
theorem pairUp_set {half index : Nat} {level : List Digest} {digest left right : Digest}
    (even : level.length = 2 * half) (inside : index < level.length)
    (hasLeft : (level.set index digest)[2 * (index / 2)]? = some left)
    (hasRight : (level.set index digest)[2 * (index / 2) + 1]? = some right) :
    pairUp hash node (level.set index digest) =
      (pairUp hash node level).set (index / 2) (hash (node left right)) := by
  refine List.ext_getElem? fun position => ?_
  by_cases own : index / 2 = position
  · subst own
    have within : index / 2 < (pairUp hash node level).length := by
      rw [length_pairUp hash node half level even]
      omega
    rw [getElem?_pairUp, hasLeft, hasRight, List.getElem?_set_self within]
    rfl
  · have beside : index ≠ 2 * position ∧ index ≠ 2 * position + 1 := by omega
    rw [List.getElem?_set_ne own, getElem?_pairUp, getElem?_pairUp,
      List.getElem?_set_ne beside.1, List.getElem?_set_ne beside.2]

/-- A level of an even length has both digests of a pair. -/
theorem exists_pair {half index : Nat} {level : List Digest} (even : level.length = 2 * half)
    (inside : index < level.length) :
    ∃ left right, level[2 * (index / 2)]? = some left ∧
      level[2 * (index / 2) + 1]? = some right :=
  ⟨_, _, List.getElem?_eq_getElem (by omega), List.getElem?_eq_getElem (by omega)⟩

theorem length_ascend_eq_double {depth height : Nat} {leaves : List Digest}
    (perfect : leaves.length = 2 ^ depth) (below : height < depth) :
    (ascend hash node height leaves).length = 2 * 2 ^ (depth - (height + 1)) := by
  have split : depth - height = depth - (height + 1) + 1 := by omega
  rw [length_ascend perfect below.le, split, Nat.pow_succ, Nat.mul_comm]

theorem div_pow_lt {depth index height : Nat} (inside : index < 2 ^ depth)
    (below : height ≤ depth) : index / 2 ^ height < 2 ^ (depth - height) := by
  rw [Nat.div_lt_iff_lt_mul (Nat.two_pow_pos height), ← Nat.pow_add, Nat.sub_add_cancel below]
  exact inside

section Leaf

variable {depth index : Nat} {leaves : List Digest} {leaf : Digest}
  (perfect : leaves.length = 2 ^ depth) (inside : index < 2 ^ depth)

include perfect inside

/-- One level up from a level in which only the digest above the leaf was replaced. -/
theorem ascend_succ_set {height : Nat} (below : height < depth) {digest left right : Digest}
    (replaced : ascend hash node height (leaves.set index leaf) =
      (ascend hash node height leaves).set (index / 2 ^ height) digest)
    (hasLeft : (ascend hash node height (leaves.set index leaf))[2 *
      (index / 2 ^ (height + 1))]? = some left)
    (hasRight : (ascend hash node height (leaves.set index leaf))[2 *
      (index / 2 ^ (height + 1)) + 1]? = some right) :
    ascend hash node (height + 1) (leaves.set index leaf) =
      (ascend hash node (height + 1) leaves).set (index / 2 ^ (height + 1))
        (hash (node left right)) := by
  have even : (ascend hash node height leaves).length = 2 * 2 ^ (depth - (height + 1)) :=
    length_ascend_eq_double perfect below
  have within : index / 2 ^ height < (ascend hash node height leaves).length := by
    rw [length_ascend perfect below.le]
    exact div_pow_lt inside below.le
  have parent : index / 2 ^ height / 2 = index / 2 ^ (height + 1) := by
    rw [Nat.div_div_eq_div_mul, Nat.pow_succ]
  rw [replaced, ← parent] at hasLeft hasRight
  rw [ascend_succ, ascend_succ, replaced, pairUp_set even within hasLeft hasRight, parent]

/-- The pair above which the path of a leaf goes on. -/
theorem exists_pair_above {height : Nat} (below : height < depth) :
    ∃ left right, (ascend hash node height leaves)[2 * (index / 2 ^ (height + 1))]? = some left ∧
      (ascend hash node height leaves)[2 * (index / 2 ^ (height + 1)) + 1]? = some right := by
  have even : (ascend hash node height leaves).length = 2 * 2 ^ (depth - (height + 1)) :=
    length_ascend_eq_double perfect below
  have within : index / 2 ^ height < (ascend hash node height leaves).length := by
    rw [length_ascend perfect below.le]
    exact div_pow_lt inside below.le
  have pair := exists_pair even within
  rwa [Nat.div_div_eq_div_mul, ← Nat.pow_succ] at pair

variable (hash node) in
/-- Replacing a leaf replaces one digest on every level, and the pair below it is hashed for
it. -/
theorem ascend_set (leaf : Digest) {height : Nat} (below : height < depth) :
    ∃ left right,
      (ascend hash node height (leaves.set index leaf))[2 * (index / 2 ^ (height + 1))]? =
        some left ∧
      (ascend hash node height (leaves.set index leaf))[2 * (index / 2 ^ (height + 1)) + 1]? =
        some right ∧
      ascend hash node (height + 1) (leaves.set index leaf) =
        (ascend hash node (height + 1) leaves).set (index / 2 ^ (height + 1))
          (hash (node left right)) := by
  have updated : (leaves.set index leaf).length = 2 ^ depth := by rw [List.length_set, perfect]
  obtain ⟨left, right, hasLeft, hasRight⟩ := exists_pair_above updated inside below
  refine ⟨left, right, hasLeft, hasRight, ?_⟩
  induction height generalizing left right with
  | zero =>
    have replaced : ascend hash node 0 (leaves.set index leaf) =
        (ascend hash node 0 leaves).set (index / 2 ^ 0) leaf := by
      rw [pow_zero, Nat.div_one]
      rfl
    exact ascend_succ_set perfect inside below replaced hasLeft hasRight
  | succ height inductionHypothesis =>
    obtain ⟨lower, other, hasLower, hasOther⟩ :=
      exists_pair_above updated inside (Nat.lt_of_succ_lt below)
    have replaced := inductionHypothesis (Nat.lt_of_succ_lt below) lower other hasLower hasOther
    exact ascend_succ_set perfect inside below replaced hasLeft hasRight

end Leaf

end Replacing

/-! ### Proofs of leaves -/

section Branches

variable {hash node}

/-- The digest beside a position. -/
theorem exists_sibling {half index : Nat} {level : List Digest} (even : level.length = 2 * half)
    (inside : index < level.length) : ∃ sibling, level[index ^^^ 1]? = some sibling := by
  refine ⟨_, List.getElem?_eq_getElem (i := index ^^^ 1) ?_⟩
  rcases Nat.even_or_odd index with left | right
  · rw [Nat.xor_one_of_even left]
    obtain ⟨pair, rfl⟩ := left
    omega
  · rw [Nat.xor_one_of_odd right]
    omega

/-- Hashing a digest with the one beside it gives the digest above them. -/
theorem getElem?_parent {level : List Digest} {index : Nat} {digest sibling : Digest}
    (own : level[index]? = some digest) (beside : level[index ^^^ 1]? = some sibling) :
    (pairUp hash node level)[index / 2]? = some
      (if index % 2 = 0 then hash (node digest sibling) else hash (node sibling digest)) := by
  rw [getElem?_pairUp]
  rcases Nat.even_or_odd index with left | right
  · have position : 2 * (index / 2) = index := Nat.two_mul_div_two_of_even left
    rw [Nat.xor_one_of_even left] at beside
    rw [position, own, beside, if_pos (Nat.even_iff.mp left)]
    rfl
  · have position : 2 * (index / 2) + 1 = index := Nat.two_mul_div_two_add_one_of_odd right
    have before : 2 * (index / 2) = index - 1 := by omega
    rw [Nat.xor_one_of_odd right] at beside
    rw [position, own, before, beside, if_neg (by omega)]
    rfl

end Branches

end LevelTree

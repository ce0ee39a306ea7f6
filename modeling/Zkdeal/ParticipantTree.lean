/-
This file is the participant tree of the batch fixtures: it is built once over all
leaves and then kept up to date in place, one path for every leaf that changes.

The tree that is kept and the tree that is built again over the changed leaves are one:
on the way up, the levels below the loop are those of the new tree and the levels above
it still those of the old one. Indexing that leaves a level is a panic, which is `none`.
-/

import Zkdeal.Commitments
import Zkdeal.Library.LevelTree

namespace Zkdeal

open Words Binding LevelTree

section Tree

variable (keccak256 : Bytes → B256)

def participantLeaf (index registeredParticipants : U64) : B256 :=
  if registeredParticipants ≤ index then 0
  else keccak256 (ascii "zkdeal/v5/registered-participant" ++ wordBytes 8 index)

/-- What two digests are hashed as. -/
def participantNode (left right : B256) : Bytes := wordBytes 32 left ++ wordBytes 32 right

/-- The leaves of a fresh tree. -/
def participantLeaves (capacity registeredParticipants : U64) : List B256 :=
  (List.range capacity.toNat).map fun index =>
    participantLeaf keccak256 (BitVec.ofNat 64 index) registeredParticipants

/-- Hash some leaves from scratch, level by level. -/
def hashLevels (leaves : List B256) : List (List B256) :=
  levelsFrom keccak256 participantNode leaves.length leaves

def participantTree (capacity registeredParticipants : U64) : List (List B256) :=
  hashLevels keccak256 (participantLeaves keccak256 capacity registeredParticipants)

/-- One level of the loop of `participantProof`. -/
def proveLevel (state : List B256 × Nat) (level : List B256) : Option (List B256 × Nat) := do
  let sibling ← level[state.2 ^^^ 1]?
  pure (state.1 ++ [sibling], state.2 >>> 1)

def participantProof (levels : List (List B256)) (index : Nat) : Option (List B256) := do
  let state ← (levels.take (levels.length - 1)).foldlM proveLevel ([], index)
  pure state.1

/-- `levels[level][index] = digest`. -/
def writeDigest (levels : List (List B256)) (level index : Nat) (digest : B256) :
    Option (List (List B256)) := do
  let digests ← levels[level]?
  if index < digests.length then some (levels.set level (digests.set index digest)) else none

/-- One level of the loop of `updateParticipantTree`. -/
def rehashLevel (state : List (List B256) × Nat) (level : Nat) :
    Option (List (List B256) × Nat) := do
  let parent := state.2 >>> 1
  let digests ← state.1[level]?
  let left ← digests[parent * 2]?
  let right ← digests[parent * 2 + 1]?
  let levels ← writeDigest state.1 (level + 1) parent (keccak256 (participantNode left right))
  pure (levels, parent)

def updateParticipantTree (levels : List (List B256)) (index : Nat) (newLeaf : B256) :
    Option (List (List B256)) := do
  let written ← writeDigest levels 0 index newLeaf
  let state ← (List.range (written.length - 1)).foldlM (rehashLevel keccak256) (written, index)
  pure state.1

end Tree

section Updates

variable {keccak256 : Bytes → B256} {depth : Nat} {leaves : List B256}

theorem hashLevels_eq (perfect : leaves.length = 2 ^ depth) :
    hashLevels keccak256 leaves = (List.range (depth + 1)).map fun height =>
      ascend keccak256 participantNode height leaves :=
  levelsFrom_eq perfect (perfect ▸ Nat.lt_two_pow_self.le)

/-- The tree over the old leaves with the new levels up to a height. -/
def patchedLevels (keccak256 : Bytes → B256) (depth height : Nat) (leaves updated : List B256) :
    List (List B256) :=
  (List.range (depth + 1)).map fun level =>
    ascend keccak256 participantNode level (if level ≤ height then updated else leaves)

theorem getElem?_patchedLevels {height level : Nat} {updated : List B256} (within : level ≤ depth) :
    (patchedLevels keccak256 depth height leaves updated)[level]? = some
      (ascend keccak256 participantNode level (if level ≤ height then updated else leaves)) := by
  rw [patchedLevels, List.getElem?_map, List.getElem?_range (by omega)]
  rfl

/-- Writing the digest above the patched levels patches one level more. -/
theorem patchedLevels_succ {height : Nat} {updated : List B256} (below : height < depth) :
    (patchedLevels keccak256 depth height leaves updated).set (height + 1)
        (ascend keccak256 participantNode (height + 1) updated) =
      patchedLevels keccak256 depth (height + 1) leaves updated := by
  refine List.ext_getElem? fun level => ?_
  have length (top : Nat) :
      (patchedLevels keccak256 depth top leaves updated).length = depth + 1 := by
    rw [patchedLevels, List.length_map, List.length_range]
  by_cases within : level ≤ depth
  · rw [getElem?_patchedLevels within]
    by_cases own : height + 1 = level
    · subst own
      rw [List.getElem?_set_self (by rw [length]; omega), if_pos le_rfl]
    · rw [List.getElem?_set_ne own, getElem?_patchedLevels within]
      have same : level ≤ height ↔ level ≤ height + 1 := by omega
      simp only [same]
  · rw [List.getElem?_eq_none (by rw [List.length_set, length]; omega),
      List.getElem?_eq_none (by rw [length]; omega)]

section Leaf

variable {index : Nat} {leaf : B256} (perfect : leaves.length = 2 ^ depth)
  (inside : index < 2 ^ depth)

include perfect inside

/-- One turn of the loop. -/
theorem rehashLevel_eq {height : Nat} (below : height < depth) :
    rehashLevel keccak256
        (patchedLevels keccak256 depth height leaves (leaves.set index leaf), index / 2 ^ height)
        height =
      some (patchedLevels keccak256 depth (height + 1) leaves (leaves.set index leaf),
        index / 2 ^ (height + 1)) := by
  obtain ⟨left, right, hasLeft, hasRight, above⟩ :=
    ascend_set keccak256 participantNode perfect inside leaf below
  have parent : (index / 2 ^ height) >>> 1 = index / 2 ^ (height + 1) := by
    rw [Nat.shiftRight_one, Nat.div_div_eq_div_mul, Nat.pow_succ]
  have room : index / 2 ^ (height + 1) <
      (ascend keccak256 participantNode (height + 1) leaves).length := by
    rw [length_ascend perfect below]
    exact div_pow_lt inside below
  unfold rehashLevel writeDigest
  dsimp only
  rw [parent, Nat.mul_comm, getElem?_patchedLevels below.le, if_pos le_rfl,
    getElem?_patchedLevels below, if_neg (Nat.not_succ_le_self height)]
  simp only [Option.bind_eq_bind, Option.bind_some, hasLeft, hasRight, if_pos room]
  rw [← above, patchedLevels_succ below]
  rfl

/-- The loop up to a height. -/
theorem foldlM_rehashLevel {height : Nat} (below : height ≤ depth) :
    (List.range height).foldlM (rehashLevel keccak256)
        (patchedLevels keccak256 depth 0 leaves (leaves.set index leaf), index) =
      some (patchedLevels keccak256 depth height leaves (leaves.set index leaf),
        index / 2 ^ height) := by
  induction height with
  | zero =>
    rw [pow_zero, Nat.div_one]
    rfl
  | succ height inductionHypothesis =>
    rw [List.range_succ, List.foldlM_append, inductionHypothesis (by omega)]
    show (List.foldlM (rehashLevel keccak256) _ [height]) = _
    rw [List.foldlM_cons, rehashLevel_eq perfect inside below]
    rfl

/-- An update in place gives the tree over the updated leaves. -/
theorem updateParticipantTree_hashLevels :
    updateParticipantTree keccak256 (hashLevels keccak256 leaves) index leaf =
      some (hashLevels keccak256 (leaves.set index leaf)) := by
  have updated : (leaves.set index leaf).length = 2 ^ depth := by rw [List.length_set, perfect]
  have written : writeDigest (hashLevels keccak256 leaves) 0 index leaf =
      some (patchedLevels keccak256 depth 0 leaves (leaves.set index leaf)) := by
    rw [hashLevels_eq perfect, List.range_succ_eq_map, List.map_cons]
    show (if index < leaves.length then some _ else none) = _
    rw [if_pos (perfect ▸ inside), patchedLevels, List.range_succ_eq_map, List.map_cons,
      List.map_map, List.map_map]
    rfl
  have length : (patchedLevels keccak256 depth 0 leaves (leaves.set index leaf)).length - 1 =
      depth := by
    rw [patchedLevels, List.length_map, List.length_range, Nat.add_sub_cancel]
  have all : patchedLevels keccak256 depth depth leaves (leaves.set index leaf) =
      hashLevels keccak256 (leaves.set index leaf) := by
    rw [hashLevels_eq updated]
    refine List.map_congr_left fun level listed => ?_
    rw [if_pos (Nat.lt_succ_iff.mp (List.mem_range.mp listed))]
  rw [updateParticipantTree, written, Option.bind_eq_bind, Option.bind_some, length,
    foldlM_rehashLevel perfect inside le_rfl, all]
  rfl

end Leaf

/-- Leaves after some updates. -/
def updateLeaves (leaves : List B256) (updates : List (Nat × B256)) : List B256 :=
  updates.foldl (fun leaves update => leaves.set update.1 update.2) leaves

theorem length_updateLeaves (leaves : List B256) (updates : List (Nat × B256)) :
    (updateLeaves leaves updates).length = leaves.length := by
  induction updates generalizing leaves with
  | nil => rfl
  | cons update rest inductionHypothesis =>
    rw [updateLeaves, List.foldl_cons, ← updateLeaves, inductionHypothesis, List.length_set]

/-- Any number of updates in place. -/
theorem foldlM_updateParticipantTree (perfect : leaves.length = 2 ^ depth)
    {updates : List (Nat × B256)} (inside : ∀ update ∈ updates, update.1 < 2 ^ depth) :
    updates.foldlM (fun levels update => updateParticipantTree keccak256 levels update.1 update.2)
        (hashLevels keccak256 leaves) =
      some (hashLevels keccak256 (updateLeaves leaves updates)) := by
  induction updates generalizing leaves with
  | nil => rfl
  | cons update rest inductionHypothesis =>
    obtain ⟨first, others⟩ := List.forall_mem_cons.mp inside
    rw [List.foldlM_cons, updateParticipantTree_hashLevels perfect first]
    exact inductionHypothesis (by rw [List.length_set, perfect]) others

/-! ### Proofs -/

/-- The loop of a proof, from any level up: it collects a digest on every level below the top,
and hashing with them ends at the top. -/
theorem foldlM_proveLevel (perfect : leaves.length = 2 ^ depth) {index : Nat} {leaf : B256}
    (placed : leaves[index]? = some leaf) {fuel : Nat} (enough : depth ≤ fuel)
    (collected : List B256) :
    ∃ siblings, siblings.length = depth ∧
      (∃ rest, ((levelsFrom keccak256 participantNode fuel leaves).take depth).foldlM proveLevel
        (collected, index) = some (collected ++ siblings, rest)) ∧
      (levelsFrom keccak256 participantNode fuel leaves).length = depth + 1 ∧
      (levelsFrom keccak256 participantNode fuel leaves).getLast? =
        some [foldBranch keccak256 participantNode index leaf siblings] := by
  induction depth generalizing leaves index leaf fuel collected with
  | zero =>
    obtain ⟨only, rfl⟩ := List.length_eq_one_iff.mp perfect
    rw [levelsFrom_one perfect]
    obtain ⟨rfl, rfl⟩ : index = 0 ∧ only = leaf := by
      cases index with
      | zero => exact ⟨rfl, Option.some.inj placed⟩
      | succ index => cases placed
    exact ⟨[], rfl, ⟨0, by rw [List.append_nil]; rfl⟩, rfl, rfl⟩
  | succ depth inductionHypothesis =>
    obtain ⟨fuel, rfl⟩ : ∃ smaller, fuel = smaller + 1 := ⟨fuel - 1, by omega⟩
    have even : leaves.length = 2 * 2 ^ depth := by rw [perfect, Nat.pow_succ, Nat.mul_comm]
    have within : index < leaves.length := (List.getElem?_eq_some_iff.mp placed).1
    obtain ⟨sibling, beside⟩ := exists_sibling even within
    obtain ⟨siblings, count, ⟨rest, ran⟩, length, top⟩ :=
      inductionHypothesis (length_pairUp_of_perfect perfect) (getElem?_parent placed beside)
        (Nat.le_of_succ_le_succ enough) (collected ++ [sibling])
    rw [levelsFrom_succ perfect]
    refine ⟨sibling :: siblings, by rw [List.length_cons, count], ⟨rest, ?_⟩,
      by rw [List.length_cons, length], ?_⟩
    · have first : proveLevel (collected, index) leaves =
          some (collected ++ [sibling], index / 2) := by
        rw [proveLevel, beside]
        rfl
      rw [List.take_succ_cons, List.foldlM_cons, first]
      show List.foldlM proveLevel _ _ = _
      rw [ran, List.append_assoc]
      rfl
    · rw [List.getLast?_cons_of_ne_nil (List.ne_nil_of_length_pos (by omega)), top]
      rfl

theorem participantProof_hashLevels (perfect : leaves.length = 2 ^ depth) {index : Nat}
    {leaf : B256} (placed : leaves[index]? = some leaf) :
    ∃ proof, participantProof (hashLevels keccak256 leaves) index = some proof ∧
      proof.length = depth ∧ (hashLevels keccak256 leaves).getLast? =
        some [foldBranch keccak256 participantNode index leaf proof] := by
  obtain ⟨siblings, count, ⟨rest, ran⟩, length, top⟩ :=
    foldlM_proveLevel perfect placed (perfect ▸ Nat.lt_two_pow_self.le) []
  refine ⟨siblings, ?_, count, top⟩
  rw [participantProof, hashLevels, length, Nat.add_sub_cancel, ran]
  rfl

end Updates

/-- A tree that is updated in place is the tree that is built over the updated leaves, and
every leaf has a proof of one digest a level that leads to the root. -/
theorem participant_tree_incremental (keccak256 : Bytes → B256)
    (capacity registeredParticipants : U64) (power : IsPowerOfTwo capacity.toNat)
    (updates : List (Nat × B256)) (inside : ∀ update ∈ updates, update.1 < capacity.toNat) :
    ∃ levels,
      updates.foldlM (fun levels update =>
          updateParticipantTree keccak256 levels update.1 update.2)
        (participantTree keccak256 capacity registeredParticipants) = some levels ∧
      levels = hashLevels keccak256
        (updateLeaves (participantLeaves keccak256 capacity registeredParticipants) updates) ∧
      ∀ index < capacity.toNat, ∃ proof leaf root,
        participantProof levels index = some proof ∧
        proof.length = capacity.toNat.log2 ∧
        (updateLeaves (participantLeaves keccak256 capacity registeredParticipants)
          updates)[index]? = some leaf ∧
        levels.getLast? = some [root] ∧
        foldBranch keccak256 participantNode index leaf proof = root := by
  have fresh : (participantLeaves keccak256 capacity registeredParticipants).length =
      2 ^ capacity.toNat.log2 := by
    rw [participantLeaves, List.length_map, List.length_range, power]
  have updated := length_updateLeaves
    (participantLeaves keccak256 capacity registeredParticipants) updates
  refine ⟨_, foldlM_updateParticipantTree fresh fun update listed => ?_, rfl,
    fun index below => ?_⟩
  · rw [power]
    exact inside update listed
  · have placed := List.getElem?_eq_getElem (i := index) (by
      rw [updated, fresh, power]
      exact below)
    obtain ⟨proof, proved, length, top⟩ :=
      participantProof_hashLevels (updated.trans fresh) placed
    exact ⟨proof, _, _, proved, length, placed, top, rfl⟩

/-- Four places, three of them taken, and two of them given away. -/
theorem participant_tree_incremental_sample :
    ∃ levels,
      [((1 : Nat), (7 : B256)), (3, 9)].foldlM (fun levels update =>
          updateParticipantTree sampleDigest levels update.1 update.2)
        (participantTree sampleDigest 4 3) = some levels ∧
      levels = hashLevels sampleDigest (updateLeaves (participantLeaves sampleDigest 4 3)
        [(1, 7), (3, 9)]) ∧
      ∃ proof, participantProof levels 2 = some proof ∧ proof.length = 2 := by
  obtain ⟨levels, ran, same, proofs⟩ :=
    participant_tree_incremental sampleDigest 4 3 (by decide) [(1, 7), (3, 9)] (by decide)
  obtain ⟨proof, leaf, root, proved, length, -⟩ := proofs 2 (by decide)
  exact ⟨levels, ran, same, proof, proved, length⟩

end Zkdeal

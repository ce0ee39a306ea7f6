/-
This file proves that the two roots with sorted pairs bind what is under them: the
claims root of a settlement, and the root of the seven roster slots.

Such a root says which messages are under it, and neither their order nor how often
each occurs. For a list in canonical order that is everything: claims are ordered by
slot and asset, and a slot carries its own number. What a message leaves open is
settled by the rules the list was accepted under: a slot that was never retired and
one retired at batch zero are written alike, but their states differ.
-/

import Zkdeal.ExitClaims
import Zkdeal.PositionalTrees
import Zkdeal.Settlement.Roster

namespace Zkdeal

open Words Binding Guard

/-! ### Pairs -/

theorem sortedPair_unordered (first second third fourth : B256)
    (same : sortedPair first second = sortedPair third fourth) :
    (first = third ∧ second = fourth) ∨ (first = fourth ∧ second = third) := by
  unfold sortedPair at same
  split_ifs at same
  · exact .inl (pairNode_injective _ _ _ _ same)
  · exact .inr (pairNode_injective _ _ _ _ same)
  · exact .inr (pairNode_injective _ _ _ _ same).symm
  · exact .inl (pairNode_injective _ _ _ _ same).symm

theorem length_sortedPair (first second : B256) : (sortedPair first second).length = 64 := by
  unfold sortedPair
  split <;> exact length_pairNode _ _

/-- Leaves of one size are told from pairs by it. -/
theorem sortedPair_forgetful {size : Nat} (other : size ≠ 64) :
    SortedPairs.Forgetful sortedPair fun message => message.length = size where
  unordered := sortedPair_unordered
  separate message first second sized same := by
    have lengths := congrArg List.length same
    rw [length_sortedPair, sized] at lengths
    exact other lengths

/-! ### Claim roots -/

/-- A message too long for a pair. -/
def ClaimSized (message : Bytes) : Prop := message.length = 224

section Roots

variable (keccak256 : Bytes → B256)

/-- Every message hashed for the root of a list of claims. -/
def claimRootMessages (deploymentId : B256) (roomId : U64) (allocations : List ExitAllocationV4) :
    List Bytes :=
  if allocations.isEmpty then [emptyClaims]
  else SortedPairs.rootMessages keccak256 sortedPair
    (claimLeaves keccak256 deploymentId roomId allocations)

variable {keccak256}

theorem claimLeaves_ne_nil {deploymentId : B256} {roomId : U64}
    {allocations : List ExitAllocationV4} (nonempty : allocations ≠ []) :
    claimLeaves keccak256 deploymentId roomId allocations ≠ [] :=
  mt List.map_eq_nil_iff.mp nonempty

theorem claimSized_of_mem_claimLeaves {deploymentId : B256} {roomId : U64}
    {allocations : List ExitAllocationV4} {message : Bytes}
    (member : message ∈ claimLeaves keccak256 deploymentId roomId allocations) :
    ClaimSized message := by
  obtain ⟨allocation, -, rfl⟩ := List.mem_map.mp member
  exact length_encodeWords _

/-- The message of a claim determines the claim and its domain. -/
theorem claimLeafWords_injective {deploymentId otherDeployment : B256} {roomId otherRoom : U64}
    {first second : ExitAllocationV4}
    (same : encodeWords (claimLeafWords keccak256 deploymentId roomId first) =
      encodeWords (claimLeafWords keccak256 otherDeployment otherRoom second)) :
    first = second ∧ deploymentId = otherDeployment ∧ roomId = otherRoom := by
  have words := encodeWords_injective same
  simp only [claimLeafWords, List.cons.injEq, and_true, true_and] at words
  obtain ⟨deployment, room, slot, assetId, recipient, amount⟩ := words
  refine ⟨?_, deployment, u256Word_injective room⟩
  cases first
  cases second
  obtain rfl := u8Word_injective slot
  obtain rfl := u8Word_injective assetId
  obtain rfl := addressWord_injective recipient
  obtain rfl := amount
  rfl

theorem mem_claimLeaves {deploymentId otherDeployment : B256} {roomId otherRoom : U64}
    {allocations : List ExitAllocationV4} {allocation : ExitAllocationV4} :
    encodeWords (claimLeafWords keccak256 deploymentId roomId allocation) ∈
        claimLeaves keccak256 otherDeployment otherRoom allocations →
      allocation ∈ allocations ∧ deploymentId = otherDeployment ∧ roomId = otherRoom := by
  intro member
  obtain ⟨other, listed, same⟩ := List.mem_map.mp member
  obtain ⟨rfl, deployment, room⟩ := claimLeafWords_injective same.symm
  exact ⟨listed, deployment, room⟩

variable (keccak256) in
/-- The digest of the root of claims is that of some message hashed for it, which is the message
of an empty list only for the empty list. -/
theorem claimMerkleRootV4_message (deploymentId : B256) (roomId : U64)
    {allocations : List ExitAllocationV4} (nonempty : allocations ≠ []) :
    ∃ message ∈ claimRootMessages keccak256 deploymentId roomId allocations,
      claimMerkleRootV4 keccak256 deploymentId roomId allocations = keccak256 message ∧
        message ≠ emptyClaims := by
  obtain ⟨tree, root, messages, members⟩ := SortedPairs.exists_tree keccak256 sortedPair
    (claimLeaves_ne_nil nonempty)
  rw [claimMerkleRootV4, claimRootMessages, List.isEmpty_eq_false_iff.mpr nonempty, root, messages]
  cases tree with
  | leaf message =>
    refine ⟨message, List.mem_cons_self, rfl, fun same => ?_⟩
    have sized := claimSized_of_mem_claimLeaves ((members message).mp List.mem_cons_self)
    rw [same] at sized
    exact absurd sized (by unfold ClaimSized; decide +kernel)
  | node left right =>
    refine ⟨_, List.mem_cons_self, rfl, fun same => ?_⟩
    have lengths := congrArg List.length same
    rw [length_sortedPair] at lengths
    exact absurd lengths (by decide +kernel)

/-- The root of some claims is the root of the tree over their messages. -/
theorem root_claimLeaves (deploymentId : B256) (roomId : U64)
    {allocations : List ExitAllocationV4} (nonempty : allocations ≠ []) :
    SortedPairs.root keccak256 sortedPair (claimLeaves keccak256 deploymentId roomId allocations) =
      some (claimMerkleRootV4 keccak256 deploymentId roomId allocations) := by
  obtain ⟨tree, root, -⟩ := SortedPairs.exists_tree keccak256 sortedPair
    (claimLeaves_ne_nil nonempty)
  rw [claimMerkleRootV4, List.isEmpty_eq_false_iff.mpr nonempty, root]
  rfl

section Binding

variable {deploymentId otherDeployment : B256} {roomId otherRoom : U64}
  {first second : List ExitAllocationV4} {messages : List Bytes}

/-- Without a collision only the empty list has the root of the empty list. -/
theorem eq_nil_of_claimMerkleRootV4_eq (clean : ¬ Collides keccak256 messages)
    (emptyHashed : emptyClaims ∈ messages)
    (hashed : claimRootMessages keccak256 deploymentId roomId first ⊆ messages)
    (same : claimMerkleRootV4 keccak256 deploymentId roomId first = keccak256 emptyClaims) :
    first = [] := by
  by_contra nonempty
  obtain ⟨message, member, root, other⟩ :=
    claimMerkleRootV4_message keccak256 deploymentId roomId nonempty
  exact other (eq_of_hash_eq clean (hashed member) emptyHashed (root.symm.trans same))

/-- Equal roots of claims are over the same messages, unless messages hashed for them collide. -/
theorem mem_claimLeaves_iff (clean : ¬ Collides keccak256 messages)
    (firstNonempty : first ≠ []) (secondNonempty : second ≠ [])
    (firstHashed : claimRootMessages keccak256 deploymentId roomId first ⊆ messages)
    (secondHashed : claimRootMessages keccak256 otherDeployment otherRoom second ⊆ messages)
    (same : claimMerkleRootV4 keccak256 deploymentId roomId first =
      claimMerkleRootV4 keccak256 otherDeployment otherRoom second) (message : Bytes) :
    message ∈ claimLeaves keccak256 deploymentId roomId first ↔
      message ∈ claimLeaves keccak256 otherDeployment otherRoom second := by
  rw [claimRootMessages, List.isEmpty_eq_false_iff.mpr firstNonempty] at firstHashed
  rw [claimRootMessages, List.isEmpty_eq_false_iff.mpr secondNonempty] at secondHashed
  have roots := (root_claimLeaves deploymentId roomId firstNonempty).trans
    ((congrArg some same).trans (root_claimLeaves otherDeployment otherRoom secondNonempty).symm)
  exact SortedPairs.mem_iff_of_root_eq keccak256 sortedPair
    (sortedPair_forgetful (by decide : 224 ≠ 64)) (claimLeaves_ne_nil firstNonempty)
    (claimLeaves_ne_nil secondNonempty) (fun _ member => claimSized_of_mem_claimLeaves member)
    (fun _ member => claimSized_of_mem_claimLeaves member) clean firstHashed secondHashed roots
    message

/-- Equal roots are over the same claims, unless messages hashed for them collide. -/
theorem mem_iff_of_claimMerkleRootV4_eq (clean : ¬ Collides keccak256 messages)
    (firstHashed : claimRootMessages keccak256 deploymentId roomId first ⊆ messages)
    (secondHashed : claimRootMessages keccak256 otherDeployment otherRoom second ⊆ messages)
    (same : claimMerkleRootV4 keccak256 deploymentId roomId first =
      claimMerkleRootV4 keccak256 otherDeployment otherRoom second)
    (allocation : ExitAllocationV4) : allocation ∈ first ↔ allocation ∈ second := by
  by_cases firstEmpty : first = []
  · subst firstEmpty
    rw [eq_nil_of_claimMerkleRootV4_eq clean (firstHashed List.mem_cons_self) secondHashed
      same.symm]
  · by_cases secondEmpty : second = []
    · subst secondEmpty
      exact absurd (eq_nil_of_claimMerkleRootV4_eq clean (secondHashed List.mem_cons_self)
        firstHashed same) firstEmpty
    · have leaves := mem_claimLeaves_iff clean firstEmpty secondEmpty firstHashed secondHashed same
      constructor
      · intro member
        exact (mem_claimLeaves ((leaves _).mp (List.mem_map_of_mem member))).1
      · intro member
        exact (mem_claimLeaves ((leaves _).mpr (List.mem_map_of_mem member))).1

end Binding

end Roots

/-- Claims in canonical order are determined by which there are. -/
theorem ClaimsIncreasing.eq_of_mem_iff {first second : List ExitAllocationV4}
    (firstSorted : ClaimsIncreasing first) (secondSorted : ClaimsIncreasing second)
    (same : ∀ claim, claim ∈ first ↔ claim ∈ second) : first = second := by
  have ascending : KeySort.Ascending sortingKey first := firstSorted
  exact ascending.eq_of_mem_iff secondSorted same

/-- Strictly increasing order of slot and asset. -/
def StrictlyIncreasing (claims : List ExitAllocationV4) : Prop :=
  claims.Pairwise fun earlier later =>
    earlier.slot < later.slot ∨ earlier.slot = later.slot ∧ earlier.assetId < later.assetId

theorem StrictlyIncreasing.claimsIncreasing {claims : List ExitAllocationV4}
    (increasing : StrictlyIncreasing claims) : ClaimsIncreasing claims :=
  increasing.imp fun below => pairKey_lt_iff.mpr below

/-- The claims root binds a list in strictly increasing order, and with it, unless the list is
empty, the deployment and the room. -/
theorem claim_root_binding (keccak256 : Bytes → B256) (deploymentId otherDeployment : B256)
    (roomId otherRoom : U64) (first second : List ExitAllocationV4)
    (firstSorted : StrictlyIncreasing first) (secondSorted : StrictlyIncreasing second)
    (same : claimMerkleRootV4 keccak256 deploymentId roomId first =
      claimMerkleRootV4 keccak256 otherDeployment otherRoom second) :
    Collides keccak256 (claimRootMessages keccak256 deploymentId roomId first ++
        claimRootMessages keccak256 otherDeployment otherRoom second) ∨
      first = second ∧
        (first ≠ [] → deploymentId = otherDeployment ∧ roomId = otherRoom) := by
  by_cases clean : Collides keccak256 (claimRootMessages keccak256 deploymentId roomId first ++
      claimRootMessages keccak256 otherDeployment otherRoom second)
  · exact .inl clean
  have firstHashed := List.subset_append_left
    (claimRootMessages keccak256 deploymentId roomId first)
    (claimRootMessages keccak256 otherDeployment otherRoom second)
  have secondHashed := List.subset_append_right
    (claimRootMessages keccak256 deploymentId roomId first)
    (claimRootMessages keccak256 otherDeployment otherRoom second)
  have equal : first = second := firstSorted.claimsIncreasing.eq_of_mem_iff
    secondSorted.claimsIncreasing
    (mem_iff_of_claimMerkleRootV4_eq clean firstHashed secondHashed same)
  refine .inr ⟨equal, fun nonempty => ?_⟩
  obtain ⟨allocation, member⟩ := List.exists_mem_of_ne_nil first nonempty
  have leaves := mem_claimLeaves_iff clean nonempty (equal ▸ nonempty) firstHashed secondHashed
    same
  exact (mem_claimLeaves ((leaves _).mp (List.mem_map_of_mem member))).2

/-- Two claims of one slot. -/
def sampleClaims (account : Address) (amount : U256) : List ExitAllocationV4 :=
  [⟨0, 1, account, amount⟩, ⟨0, 2, 11, 6⟩]

/-- Claims that the sum of bytes cannot tell apart. -/
theorem claim_root_binding_sample :
    claimMerkleRootV4 sampleSum 1 2 (sampleClaims 11 5) =
        claimMerkleRootV4 sampleSum 1 2 (sampleClaims 12 4) ∧
      Collides sampleSum (claimRootMessages sampleSum 1 2 (sampleClaims 11 5) ++
        claimRootMessages sampleSum 1 2 (sampleClaims 12 4)) := by
  have sorted : ∀ account amount, StrictlyIncreasing (sampleClaims account amount) := by
    intro account amount
    simp [StrictlyIncreasing, sampleClaims]
  have same : claimMerkleRootV4 sampleSum 1 2 (sampleClaims 11 5) =
      claimMerkleRootV4 sampleSum 1 2 (sampleClaims 12 4) := by decide +kernel
  refine ⟨same, (claim_root_binding sampleSum 1 1 2 2 _ _ (sorted 11 5) (sorted 12 4)
    same).resolve_right fun equal => ?_⟩
  exact absurd equal.1 (by decide)

/-! ### Roster roots -/

/-- Every message hashed for the root of a roster. -/
def rosterRootMessages (keccak256 : Bytes → B256) (slots : List MemberSlotWitnessV4) :
    List Bytes :=
  SortedPairs.rootMessages keccak256 sortedPair
    (slots.map fun slot => encodeWords (memberSlotWords keccak256 slot))

/-- The state of a slot says whether it has a retirement batch. -/
theorem MemberSlotWitnessV4.Formed.retired_iff {slot : MemberSlotWitnessV4} (formed : slot.Formed) :
    slot.retiredAtBatch.isSome = true ↔ slot.state = memberRetired := by
  cases formed with
  | unused state free unjoined unretired =>
    rw [unretired, state]
    decide
  | active state occupied unretired =>
    rw [unretired, state]
    decide
  | retired state occupied batch stamped later =>
    rw [stamped]
    exact iff_of_true rfl state

/-- The message of a slot determines it among slots whose fields fit their states. -/
theorem memberSlotWords_injective {keccak256 : Bytes → B256} {first second : MemberSlotWitnessV4}
    (firstFormed : first.Formed) (secondFormed : second.Formed)
    (same : encodeWords (memberSlotWords keccak256 first) =
      encodeWords (memberSlotWords keccak256 second)) : first = second := by
  have words := encodeWords_injective same
  simp only [memberSlotWords, List.cons.injEq, and_true, true_and] at words
  obtain ⟨slots, states, accounts, joined, retired⟩ := words
  have sameState := u8Word_injective states
  have sameRetired := u256Word_injective retired
  have stamps : first.retiredAtBatch = second.retiredAtBatch := by
    have kinds := firstFormed.retired_iff.trans
      ((by rw [sameState] : first.state = memberRetired ↔ second.state = memberRetired).trans
        secondFormed.retired_iff.symm)
    cases atFirst : first.retiredAtBatch with
    | none =>
      rw [atFirst] at kinds
      exact (Option.not_isSome_iff_eq_none.mp (mt kinds.mpr Bool.false_ne_true)).symm
    | some batch =>
      rw [atFirst] at kinds sameRetired
      obtain ⟨other, atSecond⟩ := Option.isSome_iff_exists.mp (kinds.mp rfl)
      rw [atSecond] at sameRetired ⊢
      exact congrArg some sameRetired
  cases first
  cases second
  obtain rfl := u8Word_injective slots
  obtain rfl := sameState
  obtain rfl := addressWord_injective accounts
  obtain rfl := u256Word_injective joined
  obtain rfl := stamps
  rfl

theorem length_memberSlotMessage {keccak256 : Bytes → B256} {slots : List MemberSlotWitnessV4}
    {message : Bytes}
    (member : message ∈ slots.map fun slot => encodeWords (memberSlotWords keccak256 slot)) :
    message.length = 192 := by
  obtain ⟨slot, -, rfl⟩ := List.mem_map.mp member
  exact length_encodeWords _

/-- The root of a roster binds all its slots, for rosters that were accepted under any masks. -/
theorem roster_root_binding (keccak256 : Bytes → B256) (first second : List MemberSlotWitnessV4)
    (firstRoot secondRoot : B256) (firstActive firstUsed secondActive secondUsed : U8)
    (firstLabel secondLabel : String)
    (firstShaped : validateRosterShape keccak256 first firstRoot firstActive firstUsed firstLabel =
      .ok ())
    (secondShaped : validateRosterShape keccak256 second secondRoot secondActive secondUsed
      secondLabel = .ok ())
    (same : memberRosterRootV4 keccak256 first = memberRosterRootV4 keccak256 second) :
    Collides keccak256 (rosterRootMessages keccak256 first ++ rosterRootMessages keccak256 second) ∨
      first = second := by
  by_cases clean : Collides keccak256
      (rosterRootMessages keccak256 first ++ rosterRootMessages keccak256 second)
  · exact .inl clean
  obtain ⟨firstSeated, -, -⟩ := validateRosterShape_eq_ok.mp firstShaped
  obtain ⟨secondSeated, -, -⟩ := validateRosterShape_eq_ok.mp secondShaped
  have nonempty : ∀ slots : List MemberSlotWitnessV4, slots.length = maxMembers → slots ≠ [] :=
    fun slots seven empty => absurd (seven.symm.trans (congrArg List.length empty)) (by decide)
  have firstNonempty := nonempty first firstSeated.length
  have secondNonempty := nonempty second secondSeated.length
  rw [memberRosterRootV4, memberRosterRootV4, List.isEmpty_eq_false_iff.mpr firstNonempty,
    List.isEmpty_eq_false_iff.mpr secondNonempty] at same
  have messages := SortedPairs.mem_iff_of_root_eq keccak256 sortedPair
    (sortedPair_forgetful (by decide : 192 ≠ 64)) (mt List.map_eq_nil_iff.mp firstNonempty)
    (mt List.map_eq_nil_iff.mp secondNonempty) (fun _ member => length_memberSlotMessage member)
    (fun _ member => length_memberSlotMessage member) clean
    (fun _ member => List.mem_append_left _ member)
    (fun _ member => List.mem_append_right _ member) same
  refine .inr (List.ext_getElem (firstSeated.length.trans secondSeated.length.symm)
    fun index firstInside secondInside => ?_)
  have listed := (messages _).mp (List.mem_map_of_mem (List.getElem_mem firstInside))
  obtain ⟨other, member, alike⟩ := List.mem_map.mp listed
  have equal := memberSlotWords_injective (secondSeated.formed other member)
    (firstSeated.formed _ (List.getElem_mem firstInside)) alike
  obtain ⟨place, placeInside, found⟩ := List.getElem_of_mem member
  have firstPlaced := firstSeated.placed index _ (List.getElem?_eq_getElem firstInside)
  have otherPlaced := secondSeated.placed place _ (List.getElem?_eq_getElem placeInside)
  rw [found, equal, firstPlaced] at otherPlaced
  subst otherPlaced
  rw [found, equal]

/-- Seven slots with one active member and one that was retired at batch zero. -/
def sampleRetiredRoster (account : Address) (joinedAtBatch : U64) : List MemberSlotWitnessV4 :=
  ⟨0, memberActive, account, joinedAtBatch, none⟩ :: ⟨1, memberRetired, 12, 0, some 0⟩ ::
    [2, 3, 4, 5, 6].map fun slot => ⟨slot, memberUnused, 0, 0, none⟩

/-- Rosters that the sum of bytes cannot tell apart. -/
theorem roster_root_binding_sample :
    ∃ root, validateRosterShape sampleSum (sampleRetiredRoster 11 0) root 1 3 "roster" = .ok () ∧
      validateRosterShape sampleSum (sampleRetiredRoster 10 1) root 1 3 "roster" = .ok () ∧
      Collides sampleSum (rosterRootMessages sampleSum (sampleRetiredRoster 11 0) ++
        rosterRootMessages sampleSum (sampleRetiredRoster 10 1)) := by
  have shaped : validateRosterShape sampleSum (sampleRetiredRoster 11 0)
      ((memberRosterRootV4 sampleSum (sampleRetiredRoster 11 0)).getD 0) 1 3 "roster" = .ok () := by
    decide +kernel
  have otherShaped : validateRosterShape sampleSum (sampleRetiredRoster 10 1)
      ((memberRosterRootV4 sampleSum (sampleRetiredRoster 11 0)).getD 0) 1 3 "roster" = .ok () := by
    decide +kernel
  refine ⟨_, shaped, otherShaped, (roster_root_binding sampleSum _ _ _ _ _ _ _ _ _ _ shaped
    otherShaped (by decide +kernel)).resolve_right fun equal => ?_⟩
  exact absurd equal (by decide)

end Zkdeal

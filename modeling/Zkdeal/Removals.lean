/-
This file compares the withdrawals of a unanimous batch with its remove
operations. Every removal finds the withdrawal that pays it, but the search runs
from the removals to the withdrawals only: nothing asks what a withdrawal is for,
and an index that is removed, taken again and removed again finds the same
withdrawal twice. The two lists correspond exactly when neither happens.
-/

import Zkdeal.RosterLifecycle
import Zkdeal.Escrow

namespace Zkdeal

open Words Guard

variable {keccak256 : Bytes → B256} {input : BatchInputV5}

/-- The remove operations of a batch. -/
def removals (input : BatchInputV5) : List RosterChangeV5 :=
  input.rosterChanges.filter fun change => change.action == 1

/-- What a withdrawal pays: its index, its recipient and its leaf. -/
def payout (keccak256 : Bytes → B256) (input : BatchInputV5) (withdrawal : WithdrawalV5) :
    U64 × Address × B256 :=
  (withdrawal.index, withdrawal.recipient,
    withdrawalLeafV5 keccak256 input.journal.deploymentDomain input.journal.roomId
      input.journal.outboxEpoch withdrawal)

/-- What a remove operation commits to. -/
def allocation (change : RosterChangeV5) : U64 × Address × B256 :=
  (change.index, change.member, change.withdrawalCommitment)

/-- The withdrawals of a batch are its removals' payouts, one to one. -/
def PaysRemovals (keccak256 : Bytes → B256) (input : BatchInputV5) : Prop :=
  (input.withdrawals.map (payout keccak256 input)).Perm ((removals input).map allocation)

theorem Pays.payout_eq {change : RosterChangeV5} {withdrawal : WithdrawalV5}
    (pays : Pays keccak256 input change withdrawal) :
    payout keccak256 input withdrawal = allocation change := by
  rw [payout, allocation, pays.index, pays.recipient, pays.leaf]

/-- The withdrawal tree takes one withdrawal an index. -/
theorem withdrawals_indices_nodup (accepted : validateLiabilitiesV5 keccak256 input = .ok ()) :
    (input.withdrawals.map WithdrawalV5.index).Nodup := by
  obtain ⟨totals, computed⟩ := validateLiabilitiesV5_totals accepted
  by_cases empty : input.withdrawals = []
  · rw [empty]
    exact List.nodup_nil
  · obtain ⟨leaves, tree⟩ := withdrawalRootV5_rooted empty computed.rooted
    exact nodup_of_increasing tree.placed.sorted

theorem withdrawal_eq_of_index (accepted : validateLiabilitiesV5 keccak256 input = .ok ())
    {first second : WithdrawalV5} (firstListed : first ∈ input.withdrawals)
    (secondListed : second ∈ input.withdrawals) (same : first.index = second.index) :
    first = second :=
  List.inj_on_of_nodup_map (withdrawals_indices_nodup accepted) firstListed secondListed same

/-- The withdrawals of an accepted unanimous batch are its removals' payouts, one to one,
exactly when every withdrawal is at the index of a remove operation and no index is removed
twice. -/
theorem withdrawals_pay_removals_iff (keccak256 : Bytes → B256) (input : BatchInputV5)
    (callers : BTreeSet Address) (unanimous : input.journal.authorizationMode = 0)
    (rosterAccepted : validateRosterTransitionV5 keccak256 input = .ok callers)
    (liabilitiesAccepted : validateLiabilitiesV5 keccak256 input = .ok ()) :
    PaysRemovals keccak256 input ↔
      (∀ withdrawal ∈ input.withdrawals, ∃ change ∈ input.rosterChanges,
        change.action = 1 ∧ change.index = withdrawal.index) ∧
      ((removals input).map RosterChangeV5.index).Nodup := by
  have distinct := withdrawals_indices_nodup liabilitiesAccepted
  have paid := (validateRosterTransitionV5_unanimous unanimous rosterAccepted).2
  have mem_removals : ∀ change, change ∈ removals input ↔
      change ∈ input.rosterChanges ∧ change.action = 1 := by
    intro change
    rw [removals, List.mem_filter, beq_iff_eq]
  have payoutIndices : (input.withdrawals.map (payout keccak256 input)).map Prod.fst =
      input.withdrawals.map WithdrawalV5.index := List.map_map
  have allocationIndices : ((removals input).map allocation).map Prod.fst =
      (removals input).map RosterChangeV5.index := List.map_map
  constructor
  · intro corresponds
    have indices := corresponds.map Prod.fst
    rw [payoutIndices, allocationIndices] at indices
    refine ⟨fun withdrawal listed => ?_, indices.nodup_iff.mp distinct⟩
    obtain ⟨change, removal, same⟩ :=
      List.mem_map.mp (indices.mem_iff.mp (List.mem_map_of_mem listed))
    obtain ⟨queued, action⟩ := (mem_removals change).mp removal
    exact ⟨change, queued, action, same⟩
  · rintro ⟨needed, once⟩
    rw [← payoutIndices] at distinct
    rw [← allocationIndices] at once
    refine (List.perm_ext_iff_of_nodup distinct.of_map once.of_map).mpr fun entry => ?_
    constructor
    · intro paying
      obtain ⟨withdrawal, listed, rfl⟩ := List.mem_map.mp paying
      obtain ⟨change, queued, action, same⟩ := needed withdrawal listed
      obtain ⟨chosen, pays⟩ := paid change queued action
      have unique : chosen = withdrawal :=
        withdrawal_eq_of_index liabilitiesAccepted pays.listed listed (pays.index.trans same)
      rw [← unique, pays.payout_eq]
      exact List.mem_map_of_mem ((mem_removals change).mpr ⟨queued, action⟩)
    · intro removing
      obtain ⟨change, removal, rfl⟩ := List.mem_map.mp removing
      obtain ⟨queued, action⟩ := (mem_removals change).mp removal
      obtain ⟨chosen, pays⟩ := paid change queued action
      rw [← pays.payout_eq]
      exact List.mem_map_of_mem pays.listed

/-- The one removal of a batch is paid by its one withdrawal. -/
theorem withdrawals_pay_removals_iff_sample :
    (removals sampleLeaving.input).length = 1 ∧ sampleLeaving.input.withdrawals.length = 1 ∧
      PaysRemovals sampleDigest sampleLeaving.input :=
  ⟨by decide, by decide, (withdrawals_pay_removals_iff sampleDigest sampleLeaving.input
    sampleLeaving.callers rfl sampleLeaving.accepted (by decide +kernel)).mpr
    ⟨by decide, by decide⟩⟩

/-- No change is queued, and yet an account that is no approver is paid. -/
def sampleUncommitted : BatchInputV5 :=
  sampleUnanimousBatch 1 5 [sampleFounder] [sampleFounder] []
    [{ index := 3, rosterEpoch := 1, recipient := 0xbb, asset := 0, amount := 40 }]

/-- One approver leaves, joins again and leaves again, and is paid once. -/
def sampleSharedPayout : BatchInputV5 :=
  let payout : WithdrawalV5 :=
    { index := 1, rosterEpoch := 3, recipient := 0xa2, asset := 0, amount := 5 }
  sampleUnanimousBatch 2 6 [sampleFounder, sampleJoiner] [sampleFounder]
    [sampleRemoval 7 2 payout, sampleAddition 8 1 3 0xa2, sampleRemoval 9 3 payout] [payout]

/-- Both batches are accepted, and in neither do the withdrawals correspond to the removals:
the first has a withdrawal too many, the second one too few. -/
theorem withdrawals_without_removals :
    (∃ callers, validateRosterTransitionV5 sampleDigest sampleUncommitted = .ok callers) ∧
      validateLiabilitiesV5 sampleDigest sampleUncommitted = .ok () ∧
      removals sampleUncommitted = [] ∧ sampleUncommitted.withdrawals ≠ [] ∧
      ¬ PaysRemovals sampleDigest sampleUncommitted ∧
    (∃ callers, validateRosterTransitionV5 sampleDigest sampleSharedPayout = .ok callers) ∧
      validateLiabilitiesV5 sampleDigest sampleSharedPayout = .ok () ∧
      (removals sampleSharedPayout).length = 2 ∧ sampleSharedPayout.withdrawals.length = 1 ∧
      ¬ PaysRemovals sampleDigest sampleSharedPayout := by
  refine ⟨⟨Std.ExtTreeSet.ofList [0xa1] compare, by decide +kernel⟩, by decide +kernel, rfl,
    List.cons_ne_nil _ _, ?_, ⟨Std.ExtTreeSet.ofList [0xa1, 0xa2] compare, by decide +kernel⟩,
    by decide +kernel, by decide +kernel, rfl, ?_⟩
  · exact fun corresponds => absurd corresponds.length_eq (by decide +kernel)
  · exact fun corresponds => absurd corresponds.length_eq (by decide +kernel)

end Zkdeal

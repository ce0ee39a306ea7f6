/-
This file is the positional approver roster of unanimous rooms and its queued
add and remove transitions. A validity-only room carries no approvers at all.
-/

import Zkdeal.Commitments
import Zkdeal.Library.Guard

namespace Zkdeal

open Words Guard

variable (keccak256 : Bytes → B256)

/-- Enter one member under its index; neither the index nor the account may repeat. -/
def enterMember (entered : BTreeMap U64 RosterMemberV5 × BTreeSet Address)
    (member : RosterMemberV5) :
    Except StfError (BTreeMap U64 RosterMemberV5 × BTreeSet Address) := do
  refuse (entered.2.contains member.member ∨ entered.1.contains member.index)
    (.longLivedRoom "active roster contains a duplicate index or account")
  pure (entered.1.insert member.index member, entered.2.insert member.member)

/-- The roster by index, authenticated against the journal's root. -/
def activeRosterMapV5 (members : List RosterMemberV5) (capacity : U64) (expectedRoot : B256) :
    Except StfError (BTreeMap U64 RosterMemberV5) := do
  let computed ← orRefuse (rosterRootV5 keccak256 members capacity)
    (.longLivedRoom "invalid positional roster preimage")
  refuse (computed ≠ expectedRoot)
    (.longLivedRoom "positional roster preimage does not match journal root")
  let entered ← members.foldlM enterMember (∅, ∅)
  pure entered.1

/-- Add a member at a free index. -/
def addMember (journal : BatchJournalV5) (expected : BTreeMap U64 RosterMemberV5)
    (change : RosterChangeV5) : Except StfError (BTreeMap U64 RosterMemberV5) := do
  refuse (change.member = 0 ∨ change.joinedEpoch ≠ journal.postRosterEpoch ∨
      change.withdrawalCommitment ≠ 0 ∨
      (∃ member ∈ expected.values, member.member = change.member) ∨
      expected.contains change.index)
    (.longLivedRoom "invalid add-member transition")
  pure (expected.insert change.index ⟨change.index, change.member, change.joinedEpoch⟩)

/-- Remove the member at an index, who is paid exactly the committed withdrawal. -/
def removeMember (input : BatchInputV5) (expected : BTreeMap U64 RosterMemberV5)
    (change : RosterChangeV5) : Except StfError (BTreeMap U64 RosterMemberV5) := do
  let journal := input.journal
  let removed ← orRefuse expected[change.index]?
    (.longLivedRoom "remove operation names an inactive index")
  refuse (removed.member ≠ change.member ∨ removed.joinedEpoch ≠ change.joinedEpoch ∨
      change.withdrawalCommitment = 0)
    (.longLivedRoom "remove operation does not match the active member")
  let withdrawal ← orRefuse
    (input.withdrawals.find? fun withdrawal => withdrawal.index == change.index)
    (.longLivedRoom "removed member has no withdrawal allocation")
  refuse (withdrawal.recipient ≠ change.member ∨
      withdrawal.rosterEpoch ≠ journal.postRosterEpoch ∨
      withdrawalLeafV5 keccak256 journal.deploymentDomain journal.roomId journal.outboxEpoch
        withdrawal ≠ change.withdrawalCommitment)
    (.longLivedRoom "removed member allocation commitment is invalid")
  pure (expected.erase change.index)

/-- Apply one queued operation. -/
def applyRosterChange (input : BatchInputV5) (expected : BTreeMap U64 RosterMemberV5)
    (item : RosterChangeV5 × Nat) : Except StfError (BTreeMap U64 RosterMemberV5) := do
  let journal := input.journal
  let change := item.1
  let requestId ← orRefuse (checkedAdvance journal.rosterChangeCursorBefore (item.2 + 1))
    (.longLivedRoom "roster request id overflow")
  refuse (change.requestId ≠ requestId ∨ change.deadline < journal.l1InclusionDeadline)
    (.longLivedRoom "roster operation request id or deadline is invalid")
  if change.action = 0 then addMember journal expected change
  else if change.action = 1 then removeMember keccak256 input expected change
  else .error (.longLivedRoom "unknown roster action")

/-- A validity-only batch carries no approver data. -/
def refuseApprovers (input : BatchInputV5) : Except StfError (BTreeSet Address) := do
  let journal := input.journal
  refuse (journal.preRosterRoot ≠ 0 ∨ journal.postRosterRoot ≠ 0 ∨ journal.preActiveCount ≠ 0 ∨
      journal.postActiveCount ≠ 0 ∨ journal.preRosterEpoch ≠ journal.postRosterEpoch ∨
      journal.rosterChangeCursorBefore ≠ journal.rosterChangeCursorAfter ∨
      input.preRoster ≠ [] ∨ input.postRoster ≠ [] ∨ input.rosterChanges ≠ [] ∨
      journal.rosterChangesHash ≠ rosterChangesHashV5 keccak256 [])
    (.longLivedRoom "validity-only rooms cannot carry checkpoint approvers")
  pure ∅

/-- Check the roster of a batch and return its authenticated callers. -/
def validateRosterTransitionV5 (input : BatchInputV5) : Except StfError (BTreeSet Address) :=
  let journal := input.journal
  if journal.authorizationMode = 1 then refuseApprovers keccak256 input
  else do
    refuse (journal.authorizationMode ≠ 0) (.longLivedRoom "unknown room authorization mode")
    let start ← activeRosterMapV5 keccak256 input.preRoster input.rosterCapacity
      journal.preRosterRoot
    let post ← activeRosterMapV5 keccak256 input.postRoster input.rosterCapacity
      journal.postRosterRoot
    refuse (start.size ≠ journal.preActiveCount.toNat ∨
        post.size ≠ journal.postActiveCount.toNat)
      (.longLivedRoom "roster active count does not match its complete preimage")
    let changeCount ← orRefuse
      (checkedSub journal.rosterChangeCursorAfter journal.rosterChangeCursorBefore)
      (.longLivedRoom "roster cursor moved backwards")
    refuse (changeCount.toNat ≠ input.rosterChanges.length ∨
        rosterChangesHashV5 keccak256 input.rosterChanges ≠ journal.rosterChangesHash)
      (.longLivedRoom "roster operations do not match cursor range or journal hash")
    let expectedPostEpoch ← orRefuse
      (checkedAdd journal.preRosterEpoch (if input.rosterChanges.isEmpty then 0 else 1))
      (.longLivedRoom "roster epoch overflow")
    refuse (journal.postRosterEpoch ≠ expectedPostEpoch)
      (.longLivedRoom "roster epoch does not match the proved transition")
    let expected ← input.rosterChanges.zipIdx.foldlM (applyRosterChange keccak256 input) start
    refuse (expected ≠ post)
      (.longLivedRoom "post-roster preimage is not the result of queued operations")
    pure (Std.ExtTreeSet.ofList (input.preRoster.map RosterMemberV5.member) compare)

end Zkdeal

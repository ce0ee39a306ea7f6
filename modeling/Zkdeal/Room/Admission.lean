/-
This file accounts for the operator's admission receipts and for the
transactions forced through L1.

A forced transaction that is recorded as rejected carries a reason the guest
derives itself, from the raw transaction, the certified policy of the batch and
its terminal state. An admission carries no raw transaction, so for it only the
contradiction with the executed transactions is refused.
-/

import Zkdeal.Execution

namespace Zkdeal

open Words Guard

/-- The executed transactions of a batch, block by block. -/
abbrev ExecutedBlocks := List (U64 × List TransactionOutcome)

/-- The hashes of all transactions executed in all blocks. -/
def executedHashes (executed : ExecutedBlocks) : List B256 :=
  executed.flatMap fun block => block.2.map TransactionOutcome.transactionHash

def validateProcessedOutcomeV5 (blocks : ExecutedBlocks) (transactionHash : B256) (status : U8)
    (l2BlockNumber : U64) (transactionIndex : U32) (reasonHash : B256) :
    Except StfError Unit :=
  if status = 2 then
    refuse (l2BlockNumber ≠ 0 ∨ transactionIndex ≠ 0 ∨ reasonHash = 0)
      (.longLivedRoom "rejected admission has invalid location or reason")
  else do
    refuse (1 < status ∨ reasonHash ≠ 0)
      (.longLivedRoom "processed admission status or reason is invalid")
    let block ← orRefuse (blocks.find? fun block => block.1 == l2BlockNumber)
      (.longLivedRoom "admission names an absent L2 block")
    let outcome ← orRefuse block.2[transactionIndex.toNat]?
      (.longLivedRoom "admission names an absent transaction")
    refuse (outcome.transactionHash ≠ transactionHash ∨ outcome.status ≠ status)
      (.longLivedRoom "admission outcome differs from proved EVM execution")

section Forced

variable (externals : Externals)

/-- The nonce and balance of an account; an absent one has neither. -/
def senderAccount (terminal : StateMap) (caller : Address) : U64 × U256 :=
  match terminal.accounts[caller]? with
  | some account => (account.nonce, account.balance)
  | none => (0, 0)

/-- The reason a forced transaction could not be part of this batch, or none when the batch
could have carried it. -/
def forcedRejectionReasonV5 (raw : Bytes) (chainId : U64) (policy : ExecutionPolicyV4)
    (terminal : StateMap) : Option U8 :=
  match txEnvFromRaw externals raw chainId with
  | .error _ => some forcedRejectionUndecodableV5
  | .ok tx =>
    match policy.validateTransactionEntry externals.toPrimitives tx.caller tx.kind tx.data with
    | .error _ => some forcedRejectionPolicyV5
    | .ok _ =>
      if (senderAccount terminal tx.caller).1 ≠ tx.nonce ∨
          (senderAccount terminal tx.caller).2 < tx.value then
        some forcedRejectionSenderV5
      else none

/-- The deposit an admission references, when this batch crosses it. -/
def checkAdmissionDeposit (deposits : List DepositV5) (receipt : AdmissionReceiptV5) :
    Except StfError Unit :=
  if receipt.depositInboxId = 0 then
    refuse (receipt.admissionFee ≠ 0 ∨ receipt.depositContentHash ≠ 0)
      (.longLivedRoom "unfunded admission carries a fee or deposit content hash")
  else do
    refuse (receipt.depositContentHash = 0)
      (.longLivedRoom "funded admission omits its deposit content hash")
    forEach (deposits.find? fun deposit => deposit.inboxId == receipt.depositInboxId).toList
      fun deposit =>
        refuse (deposit.refunded ∨ deposit.consumed ∨
            depositContentHashV5 externals.keccak256 deposit ≠ receipt.depositContentHash ∨
            deposit.amount < receipt.admissionFee)
          (.longLivedRoom "admission deposit content or fee does not match the L1 inbox record")

/-- One admission record. -/
def validateAdmission (input : BatchInputV5) (executed : ExecutedBlocks)
    (item : AdmissionRecordV5 × Nat) : Except StfError Unit := do
  let journal := input.journal
  let record := item.1
  let expected ← orRefuse (checkedAdvance journal.admissionCursorBefore (item.2 + 1))
    (.longLivedRoom "admission id overflow")
  refuse (record.receipt.admissionId ≠ expected ∨ record.outcome.admissionId ≠ expected ∨
      record.receipt.transactionHash ≠ record.outcome.transactionHash ∨
      record.receipt.maximumBatchIndex < journal.batchIndex ∨
      record.receipt.deadlineBlock < journal.l1InclusionDeadline ∨
      record.receipt.signature.length ≠ 65)
    (.longLivedRoom "admission receipt identity, deadline or signature shape is invalid")
  checkAdmissionDeposit externals input.deposits record.receipt
  refuse (record.outcome.status = 2 ∧
      record.outcome.transactionHash ∈ executedHashes executed)
    (.longLivedRoom "admission is marked rejected but the batch executed that transaction")
  validateProcessedOutcomeV5 executed record.outcome.transactionHash record.outcome.status
    record.outcome.l2BlockNumber record.outcome.transactionIndex record.outcome.reasonHash

/-- The reason commitment of a forced transaction recorded as rejected. -/
def checkForcedRejection (journal : BatchJournalV5) (policy : ExecutionPolicyV4)
    (terminal : StateMap) (forced : ForcedTransactionV5) : Except StfError Unit := do
  let reason ← orRefuse
    (forcedRejectionReasonV5 externals forced.rawTransaction
      (roomChainIdV5 externals.keccak256 journal.deploymentDomain journal.roomId) policy terminal)
    (.longLivedRoom "forced transaction is executable and cannot be deterministically rejected")
  refuse (forced.outcome.reasonHash ≠ forcedRejectionReasonHashV5 externals.keccak256
      (externals.keccak256 forced.rawTransaction) reason)
    (.longLivedRoom "forced rejection reason hash is not the proved reason")

/-- One forced-transaction record. -/
def validateForced (journal : BatchJournalV5) (executed : ExecutedBlocks)
    (policy : ExecutionPolicyV4) (terminal : StateMap) (item : ForcedTransactionV5 × Nat) :
    Except StfError Unit := do
  let forced := item.1
  let expected ← orRefuse (checkedAdvance journal.forcedCursorBefore (item.2 + 1))
    (.longLivedRoom "forced id overflow")
  let transactionHash := externals.keccak256 forced.rawTransaction
  refuse (forced.forcedId ≠ expected ∨ forced.outcome.admissionId ≠ expected ∨
      forced.outcome.transactionHash ≠ transactionHash)
    (.longLivedRoom "forced transaction identity or hash is invalid")
  checkWhen (forced.outcome.status = 2)
    (checkForcedRejection externals journal policy terminal forced)
  validateProcessedOutcomeV5 executed transactionHash forced.outcome.status
    forced.outcome.l2BlockNumber forced.outcome.transactionIndex forced.outcome.reasonHash

/-- The public bytes and the two record queues of a validity-only batch. -/
def validateOperatorRecords (input : BatchInputV5) (executed : ExecutedBlocks)
    (policy : ExecutionPolicyV4) (terminal : StateMap) : Except StfError Unit := do
  let journal := input.journal
  refuse (canonicalBatchDataV5 input.blocks journal.preStateRoot ≠ input.canonicalBatchData ∨
      externals.keccak256 input.canonicalBatchData ≠ journal.canonicalDataHash)
    (.longLivedRoom "public canonical batch data differs from proved blocks")
  forEach input.admissions.zipIdx (validateAdmission externals input executed)
  forEach input.forcedTransactions.zipIdx
    (validateForced externals journal executed policy terminal)

def validateAdmissionsV5 (input : BatchInputV5) (executed : ExecutedBlocks)
    (policy : ExecutionPolicyV4) (terminal : StateMap) : Except StfError Unit := do
  let journal := input.journal
  let admissionCount ← orRefuse
    (checkedSub journal.admissionCursorAfter journal.admissionCursorBefore)
    (.longLivedRoom "admission cursor moved backwards")
  refuse (admissionCount.toNat ≠ input.admissions.length ∨
      admissionRecordsHashV5 externals.keccak256 input.admissions ≠
        journal.admissionRecordsHash)
    (.longLivedRoom "admission records do not match cursor range or journal hash")
  let forcedCount ← orRefuse (checkedSub journal.forcedCursorAfter journal.forcedCursorBefore)
    (.longLivedRoom "forced cursor moved backwards")
  refuse (forcedCount.toNat ≠ input.forcedTransactions.length ∨
      forcedOutcomesHashV5 externals.keccak256 input.forcedTransactions ≠
        journal.forcedOutcomesHash)
    (.longLivedRoom "forced outcomes do not match cursor range or journal hash")
  if journal.authorizationMode = 0 then
    refuse (input.admissions ≠ [] ∨ input.forcedTransactions ≠ [] ∨
        input.canonicalBatchData ≠ [] ∨ journal.canonicalDataHash ≠ 0)
      (.longLivedRoom "unanimous rooms cannot carry operator admission data")
  else if journal.authorizationMode = 1 then
    validateOperatorRecords externals input executed policy terminal
  else .error (.longLivedRoom "unknown room authorization mode")

end Forced

end Zkdeal

/-
This file is about the two record queues of a validity-only room: the operator's
admissions and the transactions forced through L1. Over a run of batches every id
is accounted for exactly once, and what a record says about its transaction is
what happened to it in the batch that carries the record.

The checks of one record are collected first, for both ways a batch can be
authorized; a unanimous batch carries no records, so they hold of it for nothing.
-/

import Zkdeal.Library.Spans
import Zkdeal.Room.Batch

namespace Zkdeal

open Words Guard Spans

section Queues

variable {externals : Externals}

/-! ### One record -/

/-- What a checked outcome says: the transaction was rejected for a reason, or it was executed
in a block with that status. -/
inductive Processed (executed : ExecutedBlocks) (outcome : AdmissionOutcomeV5) : Prop
  | rejected (status : outcome.status = 2) (block : outcome.l2BlockNumber = 0)
      (index : outcome.transactionIndex = 0) (reason : outcome.reasonHash ≠ 0)
  | executed (status : outcome.status = 0 ∨ outcome.status = 1) (reason : outcome.reasonHash = 0)
      (entry : U64 × List TransactionOutcome) (listed : entry ∈ executed)
      (block : entry.1 = outcome.l2BlockNumber) (transaction : TransactionOutcome)
      (placed : entry.2[outcome.transactionIndex.toNat]? = some transaction)
      (hash : transaction.transactionHash = outcome.transactionHash)
      (sameStatus : transaction.status = outcome.status)

theorem validateProcessedOutcomeV5_spec {executed : ExecutedBlocks} {outcome : AdmissionOutcomeV5}
    {done : Unit}
    (checked : validateProcessedOutcomeV5 executed outcome.transactionHash outcome.status
      outcome.l2BlockNumber outcome.transactionIndex outcome.reasonHash = .ok done) :
    Processed executed outcome := by
  unfold validateProcessedOutcomeV5 at checked
  split at checked
  · rename_i rejected
    have located := refuse_eq_ok.mp checked
    simp only [not_or, not_not] at located
    exact .rejected rejected located.1 located.2.1 located.2.2
  · obtain ⟨plain, checked⟩ := refuse_bind_eq_ok.mp checked
    obtain ⟨entry, found, checked⟩ := bind_eq_ok.mp checked
    obtain ⟨transaction, placed, checked⟩ := bind_eq_ok.mp checked
    have same := refuse_eq_ok.mp checked
    simp only [not_or, not_not] at plain same
    have small : outcome.status = 0 ∨ outcome.status = 1 := by
      have bound := BitVec.le_def.mp (BitVec.not_lt.mp plain.1)
      have values : outcome.status.toNat = 0 ∨ outcome.status.toNat = 1 := by
        change _ ≤ 1 at bound
        omega
      exact values.imp BitVec.eq_of_toNat_eq BitVec.eq_of_toNat_eq
    have block := orRefuse_eq_ok.mp found
    exact .executed small plain.2 entry (List.mem_of_find?_eq_some block)
      (by simpa using List.find?_some block) transaction (orRefuse_eq_ok.mp placed) same.1 same.2

/-- The checks of an admission at a position of its batch. -/
structure AdmissionChecked (externals : Externals) (input : BatchInputV5)
    (executed : ExecutedBlocks) (record : AdmissionRecordV5) (position : Nat) : Prop where
  numbered : record.receipt.admissionId.toNat =
    input.journal.admissionCursorBefore.toNat + (position + 1)
  sameId : record.outcome.admissionId = record.receipt.admissionId
  sameHash : record.receipt.transactionHash = record.outcome.transactionHash
  funded : checkAdmissionDeposit externals input.deposits record.receipt = .ok ()
  unexecuted : record.outcome.status = 2 →
    record.outcome.transactionHash ∉ executedHashes executed
  processed : Processed executed record.outcome

theorem validateAdmission_spec {input : BatchInputV5} {executed : ExecutedBlocks}
    {item : AdmissionRecordV5 × Nat} {done : Unit}
    (checked : validateAdmission externals input executed item = .ok done) :
    AdmissionChecked externals input executed item.1 item.2 := by
  obtain ⟨expected, advanced, checked⟩ := bind_eq_ok.mp checked
  obtain ⟨identity, checked⟩ := refuse_bind_eq_ok.mp checked
  obtain ⟨⟨⟩, funded, checked⟩ := bind_eq_ok.mp checked
  obtain ⟨contradiction, processed⟩ := refuse_bind_eq_ok.mp checked
  simp only [not_or, ne_eq, not_not] at identity
  exact {
    numbered := by
      rw [identity.1]
      exact (checkedAdvance_eq_some.mp (orRefuse_eq_ok.mp advanced)).symm
    sameId := identity.2.1.trans identity.1.symm
    sameHash := identity.2.2.1
    funded := funded
    unexecuted := fun rejected executed => contradiction ⟨rejected, executed⟩
    processed := validateProcessedOutcomeV5_spec processed }

/-- The reason of a rejection is the one derived for the raw transaction. -/
structure ReasonProved (externals : Externals) (input : BatchInputV5) (policy : ExecutionPolicyV4)
    (terminal : StateMap) (forced : ForcedTransactionV5) (reason : U8) : Prop where
  derived : forcedRejectionReasonV5 externals forced.rawTransaction
    (batchChainId externals input) policy terminal = some reason
  committed : forced.outcome.reasonHash = forcedRejectionReasonHashV5 externals.keccak256
    (externals.keccak256 forced.rawTransaction) reason

/-- The checks of a forced transaction at a position of its batch. -/
structure ForcedChecked (externals : Externals) (input : BatchInputV5) (executed : ExecutedBlocks)
    (policy : ExecutionPolicyV4) (terminal : StateMap) (forced : ForcedTransactionV5)
    (position : Nat) : Prop where
  numbered : forced.forcedId.toNat = input.journal.forcedCursorBefore.toNat + (position + 1)
  sameId : forced.outcome.admissionId = forced.forcedId
  hash : forced.outcome.transactionHash = externals.keccak256 forced.rawTransaction
  proved : forced.outcome.status = 2 →
    ∃ reason, ReasonProved externals input policy terminal forced reason
  processed : Processed executed forced.outcome

theorem validateForced_spec {input : BatchInputV5} {executed : ExecutedBlocks}
    {policy : ExecutionPolicyV4} {terminal : StateMap} {item : ForcedTransactionV5 × Nat}
    {done : Unit}
    (checked : validateForced externals input.journal executed policy terminal item = .ok done) :
    ForcedChecked externals input executed policy terminal item.1 item.2 := by
  obtain ⟨expected, advanced, checked⟩ := bind_eq_ok.mp checked
  obtain ⟨identity, checked⟩ := refuse_bind_eq_ok.mp checked
  obtain ⟨⟨⟩, derivation, processed⟩ := bind_eq_ok.mp checked
  simp only [not_or, ne_eq, not_not] at identity
  rw [← identity.2.2] at processed
  exact {
    numbered := by
      rw [identity.1]
      exact (checkedAdvance_eq_some.mp (orRefuse_eq_ok.mp advanced)).symm
    sameId := identity.2.1.trans identity.1.symm
    hash := identity.2.2
    proved := by
      intro rejected
      obtain ⟨reason, found, derived⟩ := bind_eq_ok.mp (checkWhen_eq_ok.mp derivation rejected)
      exact ⟨reason, orRefuse_eq_ok.mp found, not_not.mp (refuse_eq_ok.mp derived)⟩
    processed := validateProcessedOutcomeV5_spec processed }

/-! ### One batch -/

/-- The record checks of a batch. -/
structure QueuesChecked (externals : Externals) (input : BatchInputV5) (executed : ExecutedBlocks)
    (policy : ExecutionPolicyV4) (terminal : StateMap) : Prop where
  admissionCursor : input.journal.admissionCursorAfter.toNat =
    input.journal.admissionCursorBefore.toNat + input.admissions.length
  forcedCursor : input.journal.forcedCursorAfter.toNat =
    input.journal.forcedCursorBefore.toNat + input.forcedTransactions.length
  admissions : ∀ item ∈ input.admissions.zipIdx,
    AdmissionChecked externals input executed item.1 item.2
  forced : ∀ item ∈ input.forcedTransactions.zipIdx,
    ForcedChecked externals input executed policy terminal item.1 item.2

theorem validateAdmissionsV5_spec {input : BatchInputV5} {executed : ExecutedBlocks}
    {policy : ExecutionPolicyV4} {terminal : StateMap} {done : Unit}
    (accepted : validateAdmissionsV5 externals input executed policy terminal = .ok done) :
    QueuesChecked externals input executed policy terminal := by
  unfold validateAdmissionsV5 at accepted
  dsimp only at accepted
  obtain ⟨admissionCount, admissionsCounted, accepted⟩ := bind_eq_ok.mp accepted
  obtain ⟨admissionRange, accepted⟩ := refuse_bind_eq_ok.mp accepted
  obtain ⟨forcedCount, forcedCounted, accepted⟩ := bind_eq_ok.mp accepted
  obtain ⟨forcedRange, accepted⟩ := refuse_bind_eq_ok.mp accepted
  simp only [not_or, ne_eq, not_not] at admissionRange forcedRange
  have admissionCursor := checkedSub_eq_some.mp (orRefuse_eq_ok.mp admissionsCounted)
  have forcedCursor := checkedSub_eq_some.mp (orRefuse_eq_ok.mp forcedCounted)
  rw [admissionRange.1] at admissionCursor
  rw [forcedRange.1] at forcedCursor
  suffices records : (∀ item ∈ input.admissions.zipIdx,
      AdmissionChecked externals input executed item.1 item.2) ∧
      ∀ item ∈ input.forcedTransactions.zipIdx,
        ForcedChecked externals input executed policy terminal item.1 item.2 from
    ⟨admissionCursor, forcedCursor, records.1, records.2⟩
  split at accepted
  · have bare := refuse_eq_ok.mp accepted
    simp only [not_or, ne_eq, not_not] at bare
    rw [bare.1, bare.2.1]
    exact ⟨fun item member => absurd member List.not_mem_nil,
      fun item member => absurd member List.not_mem_nil⟩
  · split at accepted
    · obtain ⟨-, accepted⟩ := refuse_bind_eq_ok.mp accepted
      obtain ⟨⟨⟩, admissions, forced⟩ := bind_eq_ok.mp accepted
      rw [forEach_eq_ok] at admissions forced
      exact ⟨fun item member => validateAdmission_spec (admissions item member),
        fun item member => validateForced_spec (forced item member)⟩
    · cases accepted

theorem AcceptedBatch.queues (batch : AcceptedBatch externals) :
    QueuesChecked externals batch.input batch.closed.executed batch.opened.policy
      batch.terminal :=
  validateAdmissionsV5_spec (settleBatch_spec batch.settles).admissions

/-- An executed outcome lies in a block of its own batch, at the index it names, with the raw
transaction and the status that were executed there. -/
structure ExecutedIn (batch : AcceptedBatch externals) (outcome : AdmissionOutcomeV5)
    (block : BatchBlockV5) (raw : Bytes) (transactions : List TransactionOutcome) : Prop where
  listed : ∃ position : Nat, batch.input.blocks[position]? = some block ∧
    batch.closed.executed[position]? = some (block.blockNumber, transactions)
  number : block.blockNumber = outcome.l2BlockNumber
  index : block.rawTxs[outcome.transactionIndex.toNat]? = some raw
  hash : externals.keccak256 raw = outcome.transactionHash
  status : transactions[outcome.transactionIndex.toNat]? =
    some ⟨outcome.transactionHash, outcome.status⟩

/-- What an accepted batch makes of the outcome of one record. -/
structure OutcomeProved (batch : AcceptedBatch externals) (outcome : AdmissionOutcomeV5) :
    Prop where
  status : outcome.status = 0 ∨ outcome.status = 1 ∨ outcome.status = 2
  executed : outcome.status ≠ 2 → outcome.reasonHash = 0 ∧
    ∃ block raw transactions, ExecutedIn batch outcome block raw transactions

/-- A block and what was executed for it, by what was executed. -/
theorem AcceptedBatch.exists_block (batch : AcceptedBatch externals)
    {entry : U64 × List TransactionOutcome} (listed : entry ∈ batch.closed.executed) :
    ∃ (position : Nat) (block : BatchBlockV5), batch.input.blocks[position]? = some block ∧
      batch.closed.executed[position]? = some entry ∧ RecordsBlock externals block entry := by
  obtain ⟨sameLength, pairwise⟩ := List.forall₂_iff_get.mp batch.records_blocks.1
  obtain ⟨position, inside, rfl⟩ := List.getElem_of_mem listed
  have blockInside : position < batch.input.blocks.length := sameLength ▸ inside
  exact ⟨position, batch.input.blocks[position], List.getElem?_eq_getElem blockInside,
    List.getElem?_eq_getElem inside, pairwise position blockInside inside⟩

theorem Processed.proved {batch : AcceptedBatch externals} {outcome : AdmissionOutcomeV5}
    (processed : Processed batch.closed.executed outcome) : OutcomeProved batch outcome := by
  cases processed with
  | rejected status block index reason =>
    exact ⟨.inr (.inr status), fun notRejected => absurd status notRejected⟩
  | executed status reason entry listed number transaction placed hash sameStatus =>
    refine ⟨status.imp_right .inl, fun _ => ⟨reason, ?_⟩⟩
    obtain ⟨position, block, blockPlaced, entryPlaced, records⟩ := batch.exists_block listed
    obtain ⟨blockNumber, transactions⟩ := entry
    have numbers : blockNumber = block.blockNumber := records.number
    subst numbers
    have hashed := congrArg (fun hashes => hashes[outcome.transactionIndex.toNat]?) records.hashes
    simp only [List.getElem?_map, placed, Option.map_some] at hashed
    obtain ⟨raw, rawPlaced, sameHash⟩ := Option.map_eq_some_iff.mp hashed.symm
    refine ⟨block, raw, transactions, ⟨position, blockPlaced, entryPlaced⟩, number, rawPlaced,
      sameHash.trans hash, ?_⟩
    rw [placed, ← hash, ← sameStatus]

/-! ### Runs -/

/-- A batch that begins with the queue cursors the one before it left. -/
def QueuesFollow (earlier later : AcceptedBatch externals) : Prop :=
  later.input.journal.admissionCursorBefore = earlier.input.journal.admissionCursorAfter ∧
    later.input.journal.forcedCursorBefore = earlier.input.journal.forcedCursorAfter

/-- The admission ids of a batch, in the order of its records. -/
def AcceptedBatch.admissionIds (batch : AcceptedBatch externals) : List Nat :=
  batch.input.admissions.map fun record => record.receipt.admissionId.toNat

/-- The forced ids of a batch, in the order of its records. -/
def AcceptedBatch.forcedIds (batch : AcceptedBatch externals) : List Nat :=
  batch.input.forcedTransactions.map fun forced => forced.forcedId.toNat

theorem AcceptedBatch.admissionIds_eq (batch : AcceptedBatch externals) :
    batch.admissionIds = List.range' (batch.input.journal.admissionCursorBefore.toNat + 1)
      batch.input.admissions.length := by
  refine map_eq_range' fun item member => ?_
  rw [(batch.queues.admissions item member).numbered]
  omega

theorem AcceptedBatch.forcedIds_eq (batch : AcceptedBatch externals) :
    batch.forcedIds = List.range' (batch.input.journal.forcedCursorBefore.toNat + 1)
      batch.input.forcedTransactions.length := by
  refine map_eq_range' fun item member => ?_
  rw [(batch.queues.forced item member).numbered]
  omega

/-- Over a chain of batches the records of both queues carry the ids of the crossed ranges, each
once and in order; every record says of its transaction what its own batch did with it. -/
theorem queues_accounted_over_runs (externals : Externals)
    (first last : AcceptedBatch externals) (rest : List (AcceptedBatch externals))
    (chained : (first :: rest).IsChain QueuesFollow)
    (ends : (first :: rest).getLast? = some last) :
    (first :: rest).flatMap AcceptedBatch.admissionIds =
        List.range' (first.input.journal.admissionCursorBefore.toNat + 1)
          (last.input.journal.admissionCursorAfter.toNat -
            first.input.journal.admissionCursorBefore.toNat) ∧
      (first :: rest).flatMap AcceptedBatch.forcedIds =
        List.range' (first.input.journal.forcedCursorBefore.toNat + 1)
          (last.input.journal.forcedCursorAfter.toNat -
            first.input.journal.forcedCursorBefore.toNat) ∧
      ∀ batch ∈ first :: rest,
        (∀ record ∈ batch.input.admissions,
          record.outcome.admissionId = record.receipt.admissionId ∧
            record.receipt.transactionHash = record.outcome.transactionHash ∧
            OutcomeProved batch record.outcome) ∧
        ∀ forced ∈ batch.input.forcedTransactions,
          forced.outcome.admissionId = forced.forcedId ∧
            forced.outcome.transactionHash = externals.keccak256 forced.rawTransaction ∧
            OutcomeProved batch forced.outcome ∧
            (forced.outcome.status = 2 → ∃ reason,
              ReasonProved externals batch.input batch.opened.policy batch.terminal forced
                reason) := by
  refine ⟨?_, ?_, fun batch _ => ⟨fun record member => ?_, fun forced member => ?_⟩⟩
  · have covered := flatMap_taken
      (fun batch => batch.input.journal.admissionCursorBefore.toNat + 1)
      (fun batch => batch.input.journal.admissionCursorAfter.toNat + 1)
      AcceptedBatch.admissionIds
      (fun batch _ => by rw [batch.queues.admissionCursor]; omega)
      (fun batch _ => by rw [batch.admissionIds_eq, batch.queues.admissionCursor]; congr 1; omega)
      (chained.imp fun _ _ follows => by rw [follows.1]) ends
    rw [covered, Nat.add_sub_add_right]
  · have covered := flatMap_taken
      (fun batch => batch.input.journal.forcedCursorBefore.toNat + 1)
      (fun batch => batch.input.journal.forcedCursorAfter.toNat + 1)
      AcceptedBatch.forcedIds
      (fun batch _ => by rw [batch.queues.forcedCursor]; omega)
      (fun batch _ => by rw [batch.forcedIds_eq, batch.queues.forcedCursor]; congr 1; omega)
      (chained.imp fun _ _ follows => by rw [follows.2]) ends
    rw [covered, Nat.add_sub_add_right]
  · obtain ⟨position, item⟩ := exists_mem_zipIdx member
    have checked := batch.queues.admissions _ item
    exact ⟨checked.sameId, checked.sameHash, checked.processed.proved⟩
  · obtain ⟨position, item⟩ := exists_mem_zipIdx member
    have checked := batch.queues.forced _ item
    exact ⟨checked.sameId, checked.hash, checked.processed.proved, checked.proved⟩

/-- The sample batch at a cursor of both queues: its transaction was admitted, and an octet that
is no transaction was forced. -/
def sampleQueueBatch (cursor : U64) : BatchInputV5 :=
  let transactionHash := sampleDigest (sampleCall 0 3 7 1)
  { sampleExitBatch with
    admissions := [⟨⟨cursor + 1, transactionHash, 0, 0, 1, 2, 0, 0, List.replicate 65 0⟩,
      ⟨cursor + 1, transactionHash, 0, 1, 0, 0⟩⟩]
    forcedTransactions := [⟨cursor + 1, [9], ⟨cursor + 1, sampleDigest [9], 2, 0, 0,
      forcedRejectionReasonHashV5 sampleDigest (sampleDigest [9])
        forcedRejectionUndecodableV5⟩⟩]
    journal := { sampleExitBatch.journal with
      admissionCursorBefore := cursor
      forcedCursorBefore := cursor } }

theorem queues_accounted_over_runs_sample :
    ∃ first last : AcceptedBatch sampleExternals,
      first.input = sampleComposed (sampleQueueBatch 0) ∧
        last.input = sampleComposed (sampleQueueBatch 1) ∧
        [first, last].flatMap AcceptedBatch.admissionIds = [1, 2] ∧
        [first, last].flatMap AcceptedBatch.forcedIds = [1, 2] ∧
        ∀ record ∈ last.input.admissions, OutcomeProved last record.outcome := by
  obtain ⟨first, firstInput, firstComposed, -⟩ := exists_sampleBatch (sampleQueueBatch 0)
    (fun _ _ => true) (by decide +kernel)
  obtain ⟨last, lastInput, lastComposed, -⟩ := exists_sampleBatch (sampleQueueBatch 1)
    (fun _ _ => true) (by decide +kernel)
  have follows : QueuesFollow first last := by
    refine ⟨BitVec.eq_of_toNat_eq ?_, BitVec.eq_of_toNat_eq ?_⟩
    · rw [lastComposed.admissionCursor, first.queues.admissionCursor,
        firstComposed.admissionCursor, firstComposed.admissions]
      rfl
    · rw [lastComposed.forcedCursor, first.queues.forcedCursor, firstComposed.forcedCursor,
        firstComposed.forced]
      rfl
  obtain ⟨admissionIds, forcedIds, records⟩ := queues_accounted_over_runs sampleExternals first
    last [last] (List.isChain_cons_cons.mpr ⟨follows, List.isChain_singleton _⟩) rfl
  refine ⟨first, last, firstInput, lastInput, ?_, ?_, fun record member => ?_⟩
  · rw [admissionIds, last.queues.admissionCursor, lastComposed.admissionCursor,
      lastComposed.admissions, firstComposed.admissionCursor]
    rfl
  · rw [forcedIds, last.queues.forcedCursor, lastComposed.forcedCursor, lastComposed.forced,
      firstComposed.forcedCursor]
    rfl
  · exact ((records last (List.mem_cons_of_mem _ List.mem_cons_self)).1 record member).2.2

end Queues

end Zkdeal

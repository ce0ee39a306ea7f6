/-
This file executes a batch of a seven-member room: one authenticated opening state,
one to four blocks, and the derived settlement statement.
-/

import Zkdeal.Database
import Zkdeal.Room.Batch
import Zkdeal.Settlement.Inbox

namespace Zkdeal

open Words Guard

/-- What opening a batch establishes: the hash of its membership deltas, the policy and the exit
program it runs under, the hash of its inbox, and the state handed to the first block with its
root. -/
structure OpenedBatchV4 where
  membershipDeltasHash : B256
  policy : PresetPolicyV4
  exitProgram : ExitProgramV4
  inboxInputsHash : B256
  state : StateMap
  currentRoot : B256

/-- A batch in the middle of its blocks. -/
structure BatchProgressV4 where
  state : StateMap
  currentRoot : B256
  journals : List BatchBlockJournalV4
  proofWork : EvmProofWork
  previousTimestamp : U64

structure BatchOutcome where
  journal : BatchJournalV4
  proofWork : BatchProofWork
deriving DecidableEq

section Batch

variable (externals : Externals) (json : JsonLibrary)

/-! ### Opening -/

/-- The block count, the masks, the cursors and the kind of the opening state. A single block is
only enough to close the room. -/
def checkBatchShapeV4 (input : BatchInputV4) : Except StfError Unit := do
  let count := input.blocks.length
  refuse (count < 1 ∨ maxBatchBlocksV4 < count)
    (.invalidBatch [.text "block count ", .decimal count, .text " outside 1..=",
      .decimal maxBatchBlocksV4])
  refuse (count = 1 ∧ input.close = false)
    (.invalidBatch "one-block batch is permitted only as a terminal close")
  refuse (input.activeMask &&& ~~~127 ≠ 0 ∨ input.preUsedMask &&& ~~~127 ≠ 0 ∨
      input.postActiveMask &&& ~~~127 ≠ 0 ∨ input.usedMask &&& ~~~127 ≠ 0)
    (.invalidBatch "member masks exceed seven slots")
  refuse (input.activeMask &&& ~~~input.preUsedMask ≠ 0 ∨
      input.postActiveMask &&& ~~~input.usedMask ≠ 0)
    (.invalidBatch "active slots must be a subset of lifetime-used slots")
  refuse (input.inboxEnd < input.inboxStart) (.invalidBatch "inbox cursor moved backwards")
  refuse (input.compactState.canonicalStateRoot ≠ 0)
    (.compactWitness
      "v4 batches require complete room-local state with canonicalStateRoot zero")

/-- The membership transition of a batch and the hash of its deltas. -/
def checkBatchMembershipV4 (input : BatchInputV4) : Except StfError B256 := do
  let membershipDeltasHash ← (validateMembershipTransitionV4 externals.keccak256 input.batchIndex
    input.preRosterSlots input.postRosterSlots input.membershipDeltas input.preRosterRoot
    input.postRosterRoot input.activeMask input.preUsedMask input.postActiveMask
    input.usedMask).mapError .settlement
  refuse (membershipDeltasHash ≠ input.membershipDeltasHash)
    (.settlement "derived membershipDeltasHash does not match expected public statement")
  pure membershipDeltasHash

/-- The blocks are the canonical batch data, and the witness has the root they build on. -/
def openCompactStateV4 (input : BatchInputV4) : Except StfError StateMap := do
  let computedDataHash :=
    batchBlockDataHashV4 externals.keccak256 input.blocks input.prevStateRoot
  refuse (computedDataHash ≠ input.expectedBlockDataHash)
    (.invalidBatch [.text "block data hash mismatch: expected ",
      .digest input.expectedBlockDataHash, .text ", computed ", .digest computedDataHash])
  let state ← verifyCompactStateV4 externals.toPrimitives input.compactState
  let compactRoot := state.stateRoot externals.toPrimitives
  refuse (compactRoot ≠ input.prevStateRoot)
    (.compactWitness [.text "compact root ", .digest compactRoot,
      .text " does not match batch prev root ", .digest input.prevStateRoot])
  pure state

/-- The exits of the batch before, authenticated against the roster the batch starts with. -/
def authenticatePreviousV4 (input : BatchInputV4) (exitProgram : ExitProgramV4) :
    Except StfError Unit :=
  (authenticatePreviousExitAllocationsV4 externals.keccak256 exitProgram input.preRosterSlots
    input.preUsedMask input.previousExitAllocations input.previousExitRoot input.deploymentId
    input.roomId).mapError .settlement

/-- The state after the inbox segment, and the hash of the segment. -/
def applyBatchInboxV4 (input : BatchInputV4) (exitProgram : ExitProgramV4) (state : StateMap) :
    Except StfError (StateMap × B256) := do
  let applied ← (applyInboxV4 externals.toPrimitives exitProgram state input.inboxEntries
    input.membershipDeltas input.preRosterSlots input.postRosterSlots input.inboxStart
    input.inboxEnd).mapError .settlement
  refuse (applied.2 ≠ input.inboxInputsHash)
    (.settlement "derived inboxInputsHash does not match expected public statement")
  pure applied

/-- Analysed code is installed only after the inbox has been applied, or dropped. -/
def prepareCodeV4 (usePreparedRuntimeCache : Bool) (policy : PresetPolicyV4) (state : StateMap) :
    Except StfError StateMap :=
  if usePreparedRuntimeCache then do
    let installed ← (state.installPreparedRuntimeCode externals.toPrimitives
      policy.codeHashes).mapError .certifiedPolicy
    pure installed.1
  else .ok state.clearPreparedRuntimeCode

def openBatchV4 (input : BatchInputV4) (usePreparedRuntimeCache : Bool)
    (checkColdLink : StateMap → Except StfError Unit) : Except StfError OpenedBatchV4 := do
  checkBatchShapeV4 input
  let membershipDeltasHash ← checkBatchMembershipV4 externals input
  let state ← openCompactStateV4 externals input
  checkColdLink state
  let policy ← (PresetPolicyV4.fromInput externals.toPrimitives json input state).mapError
    .certifiedPolicy
  let exitProgram ← (ExitProgramV4.parse json externals.keccak256
    input.canonicalExitProgramJson policy).mapError .settlement
  authenticatePreviousV4 externals input exitProgram
  let applied ← applyBatchInboxV4 externals input exitProgram state
  let prepared ← prepareCodeV4 externals usePreparedRuntimeCache policy applied.1
  pure {
    membershipDeltasHash := membershipDeltasHash
    policy := policy
    exitProgram := exitProgram
    inboxInputsHash := applied.2
    state := prepared
    -- an empty segment leaves the root the state was authenticated with
    currentRoot :=
      if input.inboxEntries = [] then state.stateRoot externals.toPrimitives
      else prepared.stateRoot externals.toPrimitives }

/-! ### Blocks -/

/-- The block has the next height, a clock that does not run back, and the deterministic
environment of the room. -/
def checkBlockEnvironmentV4 (input : BatchInputV4) (policy : PresetPolicyV4)
    (previousTimestamp : U64) (block : BatchBlockV4) (offset : Nat) : Except StfError Unit := do
  let expectedNumber ← orRefuse (checkedAdvance input.l2StartHeight offset)
    (.invalidBatch "L2 height overflow")
  refuse (block.blockNumber ≠ expectedNumber ∨ block.env.number ≠ expectedNumber)
    (.invalidBatch [.text "block ", .decimal offset, .text " height/env must both be ",
      .decimal expectedNumber.toNat])
  refuse (block.env.timestamp < previousTimestamp)
    (.invalidBatch [.text "block ", .decimal offset, .text " timestamp ",
      .decimal block.env.timestamp.toNat, .text " precedes previous verified timestamp ",
      .decimal previousTimestamp.toNat])
  let expectedChainId := roomChainIdV4 externals.keccak256 input.deploymentId input.roomId
  refuse (block.env.chainId ≠ expectedChainId)
    (.invalidBatch [.text "block ", .decimal offset, .text " chain id ",
      .decimal block.env.chainId.toNat, .text " does not match room chain id ",
      .decimal expectedChainId.toNat])
  refuse (block.env.gasLimit ≠ policy.maxGasPerBlock ∨ block.env.coinbase ≠ 0 ∨
      block.env.baseFee ≠ 0 ∨ block.env.prevRandao ≠ 0 ∨ block.env.difficulty ≠ 0 ∨
      block.env.excessBlobGas ≠ 0)
    (.invalidBatch [.text "block ", .decimal offset,
      .text " environment is not the deterministic v4 room profile"])

/-- The single-block input of a block of a batch. -/
def blockInputV4 (input : BatchInputV4) (prevStateRoot : B256) (block : BatchBlockV4) :
    StfInput where
  roomId := input.roomId
  blockNumber := block.blockNumber
  prevStateRoot := prevStateRoot
  rawTxs := block.rawTxs
  env := block.env
  blockHashes := []

def executeBatchBlockV4 (input : BatchInputV4) (usePreparedRuntimeCache : Bool)
    (policy : PresetPolicyV4) (progress : BatchProgressV4) (item : BatchBlockV4 × Nat) :
    Except StfError BatchProgressV4 := do
  let block := item.1
  checkBlockEnvironmentV4 externals input policy progress.previousTimestamp block item.2
  let outcome ← executeBlockOnState externals (blockInputV4 input progress.currentRoot block)
    progress.state (some policy.toExecutionPolicyV4) false 0 usePreparedRuntimeCache none
  refuse (policy.maxGasPerBlock < outcome.gasUsed)
    (.certifiedPolicy [.text "block ", .decimal item.2, .text " uses ",
      .decimal outcome.gasUsed.toNat, .text " gas, exceeding preset cap ",
      .decimal policy.maxGasPerBlock.toNat])
  refuse (outcome.journal.postStateRoot ≠ block.expectedPostStateRoot)
    (.invalidBatch [.text "block ", .decimal item.2, .text " post root ",
      .digest outcome.journal.postStateRoot, .text " does not match canonical batch root ",
      .digest block.expectedPostStateRoot])
  let journal := outcome.journal
  pure {
    state := outcome.postState
    currentRoot := journal.postStateRoot
    journals := progress.journals ++
      [⟨block.blockNumber, journal.postStateRoot, journal.txCommitment, journal.envHash⟩]
    proofWork := progress.proofWork.accumulate outcome.proofWork
    previousTimestamp := block.env.timestamp }

def executeBlocksV4 (input : BatchInputV4) (usePreparedRuntimeCache : Bool)
    (opened : OpenedBatchV4) : Except StfError BatchProgressV4 :=
  input.blocks.zipIdx.foldlM
    (executeBatchBlockV4 externals input usePreparedRuntimeCache opened.policy)
    ⟨opened.state, opened.currentRoot, [], default, input.previousBlockTimestamp⟩

/-! ### Settling -/

/-- Derive the settlement of the terminal state, keep the exits of slots that were retired
before the batch, and compare with the public statement. -/
def settleBatchV4 (input : BatchInputV4) (opened : OpenedBatchV4) (closed : BatchProgressV4) :
    Except StfError DerivedSettlementV4 := do
  (opened.policy.validatePostState externals.toPrimitives opened.state.storageSnapshot
    closed.state).mapError .certifiedPolicy
  let settlement ← (deriveSettlementV4 externals.keccak256 opened.exitProgram closed.state
    input.postRosterSlots input.assetTotals input.residualAllocations input.deploymentId
    input.roomId).mapError .settlement
  (enforceRetiredExitContinuityV4 input.previousExitAllocations settlement.exitAllocations
    input.preUsedMask input.activeMask).mapError .settlement
  refuse (settlement.assetTotalsHash ≠ input.assetTotalsHash ∨
      settlement.exitTotalsHash ≠ input.exitTotalsHash ∨
      settlement.feeTotalsHash ≠ input.feeTotalsHash ∨
      settlement.exitRoot ≠ input.exitRoot)
    (.settlement "derived batch accounting/root does not match expected public statement")
  pure settlement

/-- The journal of a batch. -/
def BatchInputV4.journal (input : BatchInputV4) (opened : OpenedBatchV4)
    (closed : BatchProgressV4) (settlement : DerivedSettlementV4) (l2EndHeight : U64) :
    BatchJournalV4 where
  v := batchJournalVersionV4
  deploymentId := input.deploymentId
  roomId := input.roomId
  presetHash := input.presetHash
  manifestHash := input.manifestHash
  proofProgramId := input.proofProgramId
  batchIndex := input.batchIndex
  l2StartHeight := input.l2StartHeight
  l2EndHeight := l2EndHeight
  previousBlockTimestamp := input.previousBlockTimestamp
  finalBlockTimestamp := closed.previousTimestamp
  prevStateRoot := input.prevStateRoot
  postStateRoot := closed.currentRoot
  blockRootsHash := batchBlockRootsHashV4 externals.keccak256 closed.journals
  blocks := closed.journals
  preRosterRoot := input.preRosterRoot
  postRosterRoot := input.postRosterRoot
  activeMask := input.activeMask
  postActiveMask := input.postActiveMask
  usedMask := input.usedMask
  inboxStart := input.inboxStart
  inboxEnd := input.inboxEnd
  inboxInputsHash := opened.inboxInputsHash
  blockDataHash := batchBlockDataHashV4 externals.keccak256 input.blocks input.prevStateRoot
  assetTotalsHash := settlement.assetTotalsHash
  exitTotalsHash := settlement.exitTotalsHash
  feeTotalsHash := settlement.feeTotalsHash
  membershipDeltasHash := opened.membershipDeltasHash
  previousExitRoot := input.previousExitRoot
  exitRoot := settlement.exitRoot
  close := input.close
  l1InclusionDeadline := input.l1InclusionDeadline
  exitAllocations := settlement.exitAllocations
  assetAccounting := settlement.accounting

def executeBatchV4WithRuntimeCache (input : BatchInputV4) (usePreparedRuntimeCache : Bool)
    (checkColdLink : StateMap → Except StfError Unit) : Except StfError BatchOutcome := do
  let opened ← openBatchV4 externals json input usePreparedRuntimeCache checkColdLink
  let closed ← executeBlocksV4 externals input usePreparedRuntimeCache opened
  let l2EndHeight ← orRefuse
    ((checkedAdvance input.l2StartHeight input.blocks.length).bind fun height =>
      checkedSub height 1)
    (.invalidBatch "L2 end height overflow")
  let settlement ← settleBatchV4 externals input opened closed
  pure {
    journal := input.journal externals opened closed settlement l2EndHeight
    proofWork := {
      blockCount := lengthWord input.blocks
      encodedWitnessBytes := input.encodedWitnessBytes.setWidth 64
      evm := closed.proofWork } }

def executeBatchV4WithReport (input : BatchInputV4) : Except StfError BatchOutcome :=
  executeBatchV4WithRuntimeCache externals json input true fun _ => .ok ()

def executeBatchV4 (input : BatchInputV4) : Except StfError BatchJournalV4 :=
  (executeBatchV4WithReport externals json input).map BatchOutcome.journal

/-! ### What an accepted batch establishes -/

variable {externals json}

/-- The checks of an opening that bind the room: the membership transition, the exit program
under the preset, and the exits of the batch before. -/
structure OpensV4 (externals : Externals) (json : JsonLibrary) (input : BatchInputV4)
    (opened : OpenedBatchV4) : Prop where
  membership : validateMembershipTransitionV4 externals.keccak256 input.batchIndex
    input.preRosterSlots input.postRosterSlots input.membershipDeltas input.preRosterRoot
    input.postRosterRoot input.activeMask input.preUsedMask input.postActiveMask input.usedMask =
      .ok opened.membershipDeltasHash
  exitProgram : ExitProgramV4.parse json externals.keccak256 input.canonicalExitProgramJson
    opened.policy = .ok opened.exitProgram
  previous : authenticatePreviousExitAllocationsV4 externals.keccak256 opened.exitProgram
    input.preRosterSlots input.preUsedMask input.previousExitAllocations input.previousExitRoot
    input.deploymentId input.roomId = .ok ()

theorem openBatchV4_spec {input : BatchInputV4} {usePreparedRuntimeCache : Bool}
    {checkColdLink : StateMap → Except StfError Unit} {opened : OpenedBatchV4}
    (opens : openBatchV4 externals json input usePreparedRuntimeCache checkColdLink =
      .ok opened) : OpensV4 externals json input opened := by
  obtain ⟨⟨⟩, -, opens⟩ := bind_eq_ok.mp opens
  obtain ⟨hash, membership, opens⟩ := bind_eq_ok.mp opens
  obtain ⟨state, -, opens⟩ := bind_eq_ok.mp opens
  obtain ⟨⟨⟩, -, opens⟩ := bind_eq_ok.mp opens
  obtain ⟨policy, -, opens⟩ := bind_eq_ok.mp opens
  obtain ⟨program, parsed, opens⟩ := bind_eq_ok.mp opens
  obtain ⟨⟨⟩, previous, opens⟩ := bind_eq_ok.mp opens
  obtain ⟨applied, -, opens⟩ := bind_eq_ok.mp opens
  obtain ⟨prepared, -, done⟩ := bind_eq_ok.mp opens
  cases pure_eq_ok.mp done
  obtain ⟨derived, validated, compared⟩ := bind_eq_ok.mp membership
  obtain ⟨-, same⟩ := refuse_bind_eq_ok.mp compared
  cases pure_eq_ok.mp same
  exact ⟨mapError_eq_ok.mp validated, mapError_eq_ok.mp parsed, mapError_eq_ok.mp previous⟩

/-- The settlement of an accepted batch is derived from its terminal state and keeps the exits
of slots that were retired before. -/
structure SettlesV4 (externals : Externals) (input : BatchInputV4) (opened : OpenedBatchV4)
    (closed : BatchProgressV4) (settlement : DerivedSettlementV4) : Prop where
  derived : deriveSettlementV4 externals.keccak256 opened.exitProgram closed.state
    input.postRosterSlots input.assetTotals input.residualAllocations input.deploymentId
    input.roomId = .ok settlement
  continuity : enforceRetiredExitContinuityV4 input.previousExitAllocations
    settlement.exitAllocations input.preUsedMask input.activeMask = .ok ()
  root : settlement.exitRoot = input.exitRoot

theorem settleBatchV4_spec {input : BatchInputV4} {opened : OpenedBatchV4}
    {closed : BatchProgressV4} {settlement : DerivedSettlementV4}
    (settles : settleBatchV4 externals input opened closed = .ok settlement) :
    SettlesV4 externals input opened closed settlement := by
  obtain ⟨⟨⟩, -, settles⟩ := bind_eq_ok.mp settles
  obtain ⟨derived, ran, settles⟩ := bind_eq_ok.mp settles
  obtain ⟨⟨⟩, continuity, settles⟩ := bind_eq_ok.mp settles
  obtain ⟨compared, done⟩ := refuse_bind_eq_ok.mp settles
  cases pure_eq_ok.mp done
  simp only [not_or, not_not] at compared
  exact ⟨mapError_eq_ok.mp ran, mapError_eq_ok.mp continuity, compared.2.2.2⟩

/-- What an accepted batch went through. -/
theorem executeBatchV4_spec {input : BatchInputV4} {journal : BatchJournalV4}
    (accepted : executeBatchV4 externals json input = .ok journal) :
    ∃ opened closed settlement, OpensV4 externals json input opened ∧
      SettlesV4 externals input opened closed settlement ∧
      journal.exitAllocations = settlement.exitAllocations ∧
      journal.exitRoot = settlement.exitRoot := by
  obtain ⟨outcome, ran, rfl⟩ := map_eq_ok.mp accepted
  obtain ⟨opened, opens, ran⟩ := bind_eq_ok.mp ran
  obtain ⟨closed, -, ran⟩ := bind_eq_ok.mp ran
  obtain ⟨height, -, ran⟩ := bind_eq_ok.mp ran
  obtain ⟨settlement, settles, done⟩ := bind_eq_ok.mp ran
  cases pure_eq_ok.mp done
  exact ⟨opened, closed, settlement, openBatchV4_spec opens, settleBatchV4_spec settles, rfl, rfl⟩

end Batch

end Zkdeal

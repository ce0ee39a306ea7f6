/-
This file composes the witness checks into one proof-backed batch transition of a
long-lived room, and the registration statement of a cold template.

A batch is opened: its identity, roster, escrow and compact state are
authenticated, the L1 import and the deposit credits applied, the transactions
decoded and the policy built. Its blocks are then executed in order, and the
terminal state is settled against the journal, the record queues and the exits.
`AcceptedBatch` keeps the three stages of an accepted batch together, which is
what every statement about accepted batches is about.
-/

import Zkdeal.Compact
import Zkdeal.Execution
import Zkdeal.Room.Admission
import Zkdeal.Room.Import
import Zkdeal.Room.Liabilities
import Zkdeal.Room.Roster

namespace Zkdeal

open Words Guard

/-! ### Cold templates -/

/-- The callers a template's policy is checked with. -/
def syntheticRoster : BTreeSet Address :=
  Std.ExtTreeSet.ofList [0x0101010101010101010101010101010101010101] compare

/-- Validate a cold template and derive its registration statement. -/
def executeColdTemplateV5 (primitives : Primitives) (input : ColdTemplateInputV5)
    (genesisDataHash : B256) : Except StfError B256 := do
  refuse (input.initialStateRoot = 0 ∨ input.policyHash = 0 ∨ input.proofProgramId = 0 ∨
      input.proofSystemVersion = 0 ∨ genesisDataHash = 0 ∨
      coldTemplateIdV5 primitives.keccak256 input.initialStateRoot input.policyHash
        input.proofSystemVersion ≠ input.templateId)
    (.longLivedRoom "cold-template identity is zero or not canonically derived")
  refuse (input.compactState.canonicalStateRoot ≠ 0)
    (.longLivedRoom "cold template requires a complete initial room state")
  let state ← verifyCompactStateV4 primitives input.compactState
  let initialRoot ← roomStateRootV5 primitives state input.policy.stateCommitment
  refuse (initialRoot ≠ input.initialStateRoot)
    (.preRootMismatch input.initialStateRoot initialRoot)
  let _ ← (ExecutionPolicyV4.fromV5 primitives input.policy input.policyHash syntheticRoster
    state false).mapError .certifiedPolicy
  pure (coldTemplateStatementV6 primitives.keccak256 input genesisDataHash)

section Batch

variable (externals : Externals)

/-- The public mirror of the rejection derivation, on a policy rebuilt at the terminal
state. -/
def deriveForcedRejectionReasonV5 (raw : Bytes) (deploymentDomain : B256) (roomId : U64)
    (policy : ExecutionPolicyV5) (policyHash : B256) (activeMembers : BTreeSet Address)
    (terminal : StateMap) : Except StfError (Option U8) := do
  let resolved ← (ExecutionPolicyV4.fromV5 externals.toPrimitives policy policyHash activeMembers
    terminal false).mapError .certifiedPolicy
  pure (forcedRejectionReasonV5 externals raw
    (roomChainIdV5 externals.keccak256 deploymentDomain roomId) resolved terminal)

/-! ### Opening -/

/-- The public identity of a batch, its block count and its block range. -/
def checkBatchIdentity (input : BatchInputV5) : Except StfError Unit := do
  let journal := input.journal
  refuse (journal.protocolVersion ≠ batchJournalVersionV6 ∨ journal.deploymentDomain = 0 ∨
      journal.roomId = 0 ∨ 1 < journal.authorizationMode ∨ journal.coldTemplateId = 0 ∨
      journal.proofProgramId = 0 ∨ journal.proofSystemVersion = 0 ∨ journal.policyHash = 0 ∨
      journal.batchIndex = 0 ∨ journal.l1InclusionDeadline = 0)
    (.longLivedRoom "required v6 public identity field is zero or invalid")
  refuse (journal.batchIndex = 1 ∧
      coldTemplateIdV5 externals.keccak256 journal.preStateRoot journal.policyHash
        journal.proofSystemVersion ≠ journal.coldTemplateId)
    (.longLivedRoom "first batch does not open at its cold template's registered state")
  let count := input.blocks.length
  refuse (count = 0 ∨ input.policy.maxBlocksPerBatch.toNat < count ∨
      (count = 1 ∧ journal.close = false) ∨
      maxBatchWitnessBytesV4 < input.encodedWitnessBytes.toNat)
    (.longLivedRoom "batch block count or witness size is outside the policy")
  let endBlock ← orRefuse (checkedAdvance journal.startL2Block (count - 1))
    (.longLivedRoom "L2 block range overflow")
  refuse (journal.endL2Block ≠ endBlock)
    (.longLivedRoom "journal L2 range does not match the block count")

/-- The authenticated state a batch opens at, which must have the journal's root and
participants. -/
def openCompactState (input : BatchInputV5) : Except StfError StateMap := do
  let journal := input.journal
  refuse (input.compactState.canonicalStateRoot ≠ 0)
    (.longLivedRoom "v5 hot batches require a complete room-local prestate")
  let state ← verifyCompactStateV4 externals.toPrimitives input.compactState
  let openingRoot ← roomStateRootV5 externals.toPrimitives state input.policy.stateCommitment
  refuse (openingRoot ≠ journal.preStateRoot)
    (.preRootMismatch journal.preStateRoot openingRoot)
  let participants ← participantStateV5 input state
  refuse (participants ≠ ⟨journal.preParticipantRoot, journal.preParticipantEpoch,
      journal.preParticipantCount, journal.participantCapacity⟩)
    (.longLivedRoom "opening participant registry differs from the journal")
  pure state

/-- The exit-queue cursor before any block, read in validity-only rooms with a queue. -/
def openingExitCount (input : BatchInputV5) (state : StateMap) : Except StfError U64 :=
  match input.policy.exit with
  | some binding =>
    if input.journal.authorizationMode = 1 then exitRecordCountV5 binding state else .ok 0
  | none => .ok 0

/-- Decode every transaction of a block. -/
def decodeBlock (block : BatchBlockV5) : Except StfError (List TxEnv) :=
  block.rawTxs.mapM fun raw =>
    (txEnvFromRaw externals raw block.env.chainId).mapError fun error => .txDecode error.display

/-- The callers of decoded blocks. -/
def decodedCallers (decoded : List (List TxEnv)) : List Address :=
  decoded.flatMap fun block => block.map TxEnv.caller

/-- A validity-only batch is decoded before its policy can be built, and its signers are its
authenticated callers; a unanimous one is decoded block by block. -/
def decodeBatch (input : BatchInputV5) (rosterCallers : BTreeSet Address) :
    Except StfError (List (List TxEnv) × BTreeSet Address) :=
  if input.journal.authorizationMode = 1 then do
    let decoded ← input.blocks.mapM (decodeBlock externals)
    let callers := rosterCallers.insertMany (decodedCallers decoded)
    refuse (callers.isEmpty)
      (.longLivedRoom "validity-only batch has no signed transaction caller")
    pure (decoded, callers)
  else .ok ([], rosterCallers)

/-- What opening a batch establishes: the authenticated state, the state after the import and
after the credits, the cursor, the decoded transactions, the policy, and the state handed to
the first block with its root. -/
structure OpenedBatch where
  opening : StateMap
  imported : StateMap
  preExitCount : U64
  credited : StateMap
  decoded : List (List TxEnv)
  callers : BTreeSet Address
  policy : ExecutionPolicyV4
  prepared : StateMap
  preparedRoot : B256

def openBatch (input : BatchInputV5) : Except StfError OpenedBatch := do
  checkBatchIdentity externals input
  let rosterCallers ← validateRosterTransitionV5 externals.keccak256 input
  validateLiabilitiesV5 externals.keccak256 input
  let opening ← openCompactState externals input
  let imported ← verifyAndApplyImportV5 externals.toPrimitives input opening
  let preExitCount ← openingExitCount input imported
  let credited ← applyDepositCreditsV5 externals.keccak256 input imported
  let decoded ← decodeBatch externals input rosterCallers
  let policy ← (ExecutionPolicyV4.fromV5 externals.toPrimitives input.policy
    input.journal.policyHash decoded.2 credited (!input.rosterChanges.isEmpty)).mapError
      .certifiedPolicy
  let prepared ← (credited.installPreparedRuntimeCode externals.toPrimitives
    policy.codeHashes).mapError .certifiedPolicy
  let preparedRoot ← roomStateRootV5 externals.toPrimitives prepared.1
    input.policy.stateCommitment
  pure {
    opening := opening
    imported := imported
    preExitCount := preExitCount
    credited := credited
    decoded := decoded.1
    callers := decoded.2
    policy := policy
    prepared := prepared.1
    preparedRoot := preparedRoot }

/-! ### Blocks -/

/-- A batch in the middle of its blocks. -/
structure BatchProgress where
  state : StateMap
  currentRoot : B256
  previousTimestamp : Option U64
  proofWork : EvmProofWork
  executed : ExecutedBlocks

/-- The block has the next number, a clock that does not run back, and the certified
environment. -/
def checkBlockEnvironment (input : BatchInputV5) (previousTimestamp : Option U64)
    (block : BatchBlockV5) (offset : Nat) : Except StfError Unit := do
  let journal := input.journal
  let expectedNumber ← orRefuse (checkedAdvance journal.startL2Block offset)
    (.longLivedRoom "L2 block height overflow")
  refuse (previousTimestamp.any fun previous => block.env.timestamp < previous)
    (.longLivedRoom "block timestamp precedes the previous block in the same batch")
  refuse (block.blockNumber ≠ expectedNumber ∨ block.env.number ≠ expectedNumber ∨
      block.env.chainId ≠
        roomChainIdV5 externals.keccak256 journal.deploymentDomain journal.roomId ∨
      block.env.gasLimit ≠ input.policy.maxGasPerBlock ∨
      input.policy.maxTransactionsPerBlock.toNat < block.rawTxs.length ∨
      block.env.coinbase ≠ 0 ∨ block.env.baseFee ≠ 0 ∨ block.env.prevRandao ≠ 0 ∨
      block.env.difficulty ≠ 0 ∨ block.env.excessBlobGas ≠ 0)
    (.longLivedRoom "block does not match the certified room environment")

/-- The single-block input of a block of a batch. -/
def blockInput (input : BatchInputV5) (prevStateRoot : B256) (block : BatchBlockV5) :
    StfInput where
  roomId := input.journal.roomId
  blockNumber := block.blockNumber
  prevStateRoot := prevStateRoot
  rawTxs := block.rawTxs
  env := block.env
  blockHashes := block.blockHashes

/-- Execute one block of a batch. -/
def executeBatchBlock (input : BatchInputV5) (opened : OpenedBatch) (progress : BatchProgress)
    (item : BatchBlockV5 × Nat) : Except StfError BatchProgress := do
  let block := item.1
  checkBlockEnvironment externals input progress.previousTimestamp block item.2
  let outcome ← executeBlockOnState externals (blockInput input progress.currentRoot block)
    progress.state (some opened.policy) false input.policy.stateCommitment true
    opened.decoded[item.2]?
  refuse (outcome.journal.postStateRoot ≠ block.expectedPostStateRoot)
    (.longLivedRoom "proved intermediate root differs from the approved batch")
  pure {
    state := outcome.postState
    currentRoot := outcome.journal.postStateRoot
    previousTimestamp := some block.env.timestamp
    proofWork := progress.proofWork.accumulate outcome.proofWork
    executed := progress.executed ++ [(block.blockNumber, outcome.transactions)] }

/-- A batch before its first block. -/
def OpenedBatch.start (opened : OpenedBatch) : BatchProgress where
  state := opened.prepared
  currentRoot := opened.preparedRoot
  previousTimestamp := none
  proofWork := default
  executed := []

def executeBlocks (input : BatchInputV5) (opened : OpenedBatch) :
    Except StfError BatchProgress :=
  input.blocks.zipIdx.foldlM (executeBatchBlock externals input opened) opened.start

/-! ### Settling -/

/-- The storage of every account, as the terminal state is compared with. -/
def StateMap.storageSnapshot (state : StateMap) : BTreeMap Address (BTreeMap U256 U256) :=
  state.accounts.map fun _ account => account.storage

/-- Check the terminal state against the policy, the journal, the queues and the exits. -/
def settleBatch (input : BatchInputV5) (opened : OpenedBatch) (closed : BatchProgress) :
    Except StfError Unit := do
  let journal := input.journal
  (opened.policy.validatePostState externals.toPrimitives opened.prepared.storageSnapshot
    closed.state).mapError .certifiedPolicy
  refuse (closed.currentRoot ≠ journal.postStateRoot ∨
      batchBlockDataHashV5 externals.keccak256 input.blocks journal.preStateRoot ≠
        journal.batchDataHash)
    (.longLivedRoom "terminal state or approved batch-data commitment differs")
  let participants ← participantStateV5 input closed.state
  refuse (participants ≠ ⟨journal.postParticipantRoot, journal.postParticipantEpoch,
      journal.postParticipantCount, journal.participantCapacity⟩)
    (.longLivedRoom "terminal participant registry differs from the journal")
  validateAdmissionsV5 externals input closed.executed opened.policy closed.state
  validateExitV5 externals.keccak256 input opened.preExitCount closed.state

structure BatchProofWork where
  blockCount : U64
  encodedWitnessBytes : U64
  evm : EvmProofWork
deriving DecidableEq

structure BatchOutcomeV5 where
  journal : BatchJournalV5
  proofWork : BatchProofWork
deriving DecidableEq

/-- The three stages of a batch. -/
def runBatch (input : BatchInputV5) : Except StfError (OpenedBatch × BatchProgress) := do
  let opened ← openBatch externals input
  let closed ← executeBlocks externals input opened
  settleBatch externals input opened closed
  pure (opened, closed)

def executeBatchV5WithReport (input : BatchInputV5) : Except StfError BatchOutcomeV5 := do
  let stages ← runBatch externals input
  pure {
    journal := input.journal
    proofWork := {
      blockCount := lengthWord input.blocks
      encodedWitnessBytes := input.encodedWitnessBytes.setWidth 64
      evm := stages.2.proofWork } }

/-- Execute one proof-backed transition of a long-lived room. -/
def executeBatchV5 (input : BatchInputV5) : Except StfError BatchJournalV5 :=
  (executeBatchV5WithReport externals input).map BatchOutcomeV5.journal

/-! ### What the stages establish -/

/-- The steps of an opening. -/
structure Opens (input : BatchInputV5) (opened : OpenedBatch) : Prop where
  liabilities : validateLiabilitiesV5 externals.keccak256 input = .ok ()
  opening : openCompactState externals input = .ok opened.opening
  imported : verifyAndApplyImportV5 externals.toPrimitives input opened.opening =
    .ok opened.imported
  preExitCount : openingExitCount input opened.imported = .ok opened.preExitCount
  credited : applyDepositCreditsV5 externals.keccak256 input opened.imported =
    .ok opened.credited
  decoded : ∃ rosterCallers,
    validateRosterTransitionV5 externals.keccak256 input = .ok rosterCallers ∧
      decodeBatch externals input rosterCallers = .ok (opened.decoded, opened.callers)
  policy : FromV5 input.policy opened.callers opened.policy
  prepared : opened.prepared.accounts = opened.credited.accounts

/-- Caching prepared code leaves the accounts alone. -/
theorem installPreparedRuntimeCode_accounts {primitives : Primitives} {state : StateMap}
    {frozenCodeHashes : BTreeMap Address B256} {prepared : StateMap × PreparedCodeCacheReport}
    (installed : state.installPreparedRuntimeCode primitives frozenCodeHashes = .ok prepared) :
    prepared.1.accounts = state.accounts := by
  obtain ⟨cached, -, installed⟩ := bind_eq_ok.mp installed
  rw [← pure_eq_ok.mp installed]

variable {externals}

theorem openBatch_spec {input : BatchInputV5} {opened : OpenedBatch}
    (opens : openBatch externals input = .ok opened) : Opens externals input opened := by
  obtain ⟨-, -, opens⟩ := bind_eq_ok.mp opens
  obtain ⟨rosterCallers, rosterRan, opens⟩ := bind_eq_ok.mp opens
  obtain ⟨⟨⟩, liabilities, opens⟩ := bind_eq_ok.mp opens
  obtain ⟨opening, openingRan, opens⟩ := bind_eq_ok.mp opens
  obtain ⟨imported, importedRan, opens⟩ := bind_eq_ok.mp opens
  obtain ⟨preExitCount, countRan, opens⟩ := bind_eq_ok.mp opens
  obtain ⟨credited, creditedRan, opens⟩ := bind_eq_ok.mp opens
  obtain ⟨decoded, decodedRan, opens⟩ := bind_eq_ok.mp opens
  obtain ⟨policy, policyRan, opens⟩ := bind_eq_ok.mp opens
  obtain ⟨prepared, preparedRan, opens⟩ := bind_eq_ok.mp opens
  obtain ⟨preparedRoot, -, opens⟩ := bind_eq_ok.mp opens
  rw [← pure_eq_ok.mp opens]
  exact {
    liabilities := liabilities
    opening := openingRan
    imported := importedRan
    preExitCount := countRan
    credited := creditedRan
    decoded := ⟨rosterCallers, rosterRan, decodedRan⟩
    policy := fromV5_spec (mapError_eq_ok.mp policyRan)
    prepared := installPreparedRuntimeCode_accounts (mapError_eq_ok.mp preparedRan) }

variable (externals)

/-- The checks of a settlement that concern the terminal state. -/
structure Settles (input : BatchInputV5) (opened : OpenedBatch) (closed : BatchProgress) :
    Prop where
  postState : opened.policy.validatePostState externals.toPrimitives
    opened.prepared.storageSnapshot closed.state = .ok ()
  admissions : validateAdmissionsV5 externals input closed.executed opened.policy closed.state =
    .ok ()
  exits : validateExitV5 externals.keccak256 input opened.preExitCount closed.state = .ok ()

variable {externals}

theorem settleBatch_spec {input : BatchInputV5} {opened : OpenedBatch} {closed : BatchProgress}
    {done : Unit} (settles : settleBatch externals input opened closed = .ok done) :
    Settles externals input opened closed := by
  obtain ⟨⟨⟩, postState, settles⟩ := bind_eq_ok.mp settles
  obtain ⟨-, settles⟩ := refuse_bind_eq_ok.mp settles
  obtain ⟨participants, -, settles⟩ := bind_eq_ok.mp settles
  obtain ⟨-, settles⟩ := refuse_bind_eq_ok.mp settles
  obtain ⟨⟨⟩, admissions, exits⟩ := bind_eq_ok.mp settles
  exact ⟨mapError_eq_ok.mp postState, admissions, exits⟩

variable (externals)

/-! ### Accepted batches -/

/-- An accepted batch with the stages it went through. -/
structure AcceptedBatch where
  input : BatchInputV5
  opened : OpenedBatch
  closed : BatchProgress
  opens : openBatch externals input = .ok opened
  runs : executeBlocks externals input opened = .ok closed
  settles : settleBatch externals input opened closed = .ok ()

variable {externals}

/-- The state an accepted batch ends with. -/
def AcceptedBatch.terminal (batch : AcceptedBatch externals) : StateMap := batch.closed.state

theorem runBatch_eq_ok {input : BatchInputV5} {stages : OpenedBatch × BatchProgress} :
    runBatch externals input = .ok stages ↔
      ∃ batch : AcceptedBatch externals, batch.input = input ∧
        (batch.opened, batch.closed) = stages := by
  constructor
  · intro ran
    obtain ⟨opened, opens, ran⟩ := bind_eq_ok.mp ran
    obtain ⟨closed, runs, ran⟩ := bind_eq_ok.mp ran
    obtain ⟨⟨⟩, settles, ran⟩ := bind_eq_ok.mp ran
    exact ⟨⟨input, opened, closed, opens, runs, settles⟩, rfl, pure_eq_ok.mp ran⟩
  · rintro ⟨batch, rfl, rfl⟩
    exact bind_eq_ok.mpr ⟨batch.opened, batch.opens, bind_eq_ok.mpr
      ⟨batch.closed, batch.runs, bind_eq_ok.mpr ⟨(), batch.settles, rfl⟩⟩⟩

/-- The entry point accepts a batch exactly when it goes through the three stages, and
returns the journal of the witness. -/
theorem executeBatchV5_eq_ok {input : BatchInputV5} {journal : BatchJournalV5} :
    executeBatchV5 externals input = .ok journal ↔
      input.journal = journal ∧ ∃ batch : AcceptedBatch externals, batch.input = input := by
  unfold executeBatchV5
  rw [map_eq_ok]
  constructor
  · rintro ⟨outcome, accepted, rfl⟩
    obtain ⟨stages, ran, accepted⟩ := bind_eq_ok.mp accepted
    obtain ⟨batch, same, -⟩ := runBatch_eq_ok.mp ran
    rw [← pure_eq_ok.mp accepted]
    exact ⟨rfl, batch, same⟩
  · rintro ⟨rfl, batch, rfl⟩
    exact ⟨_, bind_eq_ok.mpr ⟨_, runBatch_eq_ok.mpr ⟨batch, rfl, rfl⟩, rfl⟩, rfl⟩

/-- A batch whose run evaluates to stages with a property is accepted with them. -/
theorem exists_acceptedBatch {input : BatchInputV5} (property : OpenedBatch → BatchProgress → Bool)
    (holds : ((runBatch externals input).toOption.any fun stages =>
      property stages.1 stages.2) = true) :
    ∃ batch : AcceptedBatch externals, batch.input = input ∧
      property batch.opened batch.closed = true := by
  cases ran : runBatch externals input with
  | error failure =>
    rw [ran] at holds
    cases holds
  | ok stages =>
    obtain ⟨batch, same, rfl⟩ := runBatch_eq_ok.mp ran
    rw [ran] at holds
    exact ⟨batch, same, holds⟩

/-! ### Included transactions -/

/-- The raw transactions of a batch in the order of its blocks. -/
def includedTransactions (input : BatchInputV5) : List Bytes :=
  input.blocks.flatMap BatchBlockV5.rawTxs

/-- The chain id of the room of a batch. -/
def batchChainId (externals : Externals) (input : BatchInputV5) : U64 :=
  roomChainIdV5 externals.keccak256 input.journal.deploymentDomain input.journal.roomId

/-- What is decoded before the blocks is decoded block by block. -/
theorem decodeBatch_aligned {input : BatchInputV5} {rosterCallers : BTreeSet Address}
    {decoded : List (List TxEnv) × BTreeSet Address}
    (ran : decodeBatch externals input rosterCallers = .ok decoded) {block : BatchBlockV5}
    {position : Nat} (placed : input.blocks[position]? = some block) :
    Aligned externals block.env.chainId decoded.1[position]? block.rawTxs := by
  unfold decodeBatch at ran
  split at ran
  · obtain ⟨lists, mapped, ran⟩ := bind_eq_ok.mp ran
    obtain ⟨-, ran⟩ := refuse_bind_eq_ok.mp ran
    rw [← pure_eq_ok.mp ran]
    intro transactions found
    obtain ⟨blockInside, rfl⟩ := List.getElem?_eq_some_iff.mp placed
    obtain ⟨listInside, rfl⟩ := List.getElem?_eq_some_iff.mp found
    have single := (List.forall₂_iff_get.mp (mapM_eq_ok.mp mapped)).2 position blockInside
      listInside
    refine (mapM_eq_ok.mp single).imp fun raw tx decodes => mapError_eq_ok.mp decodes
  · obtain rfl := Except.ok.inj ran
    intro transactions found
    simp at found

/-- An entry of the executed blocks is the one of a block. -/
structure RecordsBlock (externals : Externals) (block : BatchBlockV5)
    (entry : U64 × List TransactionOutcome) : Prop where
  number : entry.1 = block.blockNumber
  hashes : entry.2.map TransactionOutcome.transactionHash =
    block.rawTxs.map externals.keccak256

/-- One executed block of a batch. -/
theorem executeBatchBlock_spec {input : BatchInputV5} {opened : OpenedBatch}
    {before after : BatchProgress} {item : BatchBlockV5 × Nat}
    (aligned : Aligned externals item.1.env.chainId opened.decoded[item.2]? item.1.rawTxs)
    (executed : executeBatchBlock externals input opened before item = .ok after) :
    (∃ entry, after.executed = before.executed ++ [entry] ∧
        RecordsBlock externals item.1 entry) ∧
      item.1.env.chainId = batchChainId externals input ∧
      ∀ raw ∈ item.1.rawTxs, Admits externals opened.policy (batchChainId externals input) raw := by
  unfold executeBatchBlock at executed
  dsimp only at executed
  obtain ⟨⟨⟩, environment, executed⟩ := bind_eq_ok.mp executed
  obtain ⟨outcome, ran, executed⟩ := bind_eq_ok.mp executed
  obtain ⟨-, executed⟩ := refuse_bind_eq_ok.mp executed
  obtain ⟨expectedNumber, -, environment⟩ := bind_eq_ok.mp environment
  obtain ⟨-, environment⟩ := refuse_bind_eq_ok.mp environment
  have certified := refuse_eq_ok.mp environment
  simp only [not_or, ne_eq, not_not] at certified
  have chain : item.1.env.chainId = batchChainId externals input := certified.2.2.1
  obtain ⟨hashes, admitted⟩ := executeBlockOnState_spec ran aligned
  rw [← pure_eq_ok.mp executed]
  refine ⟨⟨_, rfl, rfl, hashes⟩, chain, fun raw member => ?_⟩
  rw [← chain]
  exact admitted raw member

theorem executeBatchBlocks_spec {input : BatchInputV5} {opened : OpenedBatch}
    {start finish : BatchProgress} {items : List (BatchBlockV5 × Nat)}
    (aligned : ∀ item ∈ items,
      Aligned externals item.1.env.chainId opened.decoded[item.2]? item.1.rawTxs)
    (ran : items.foldlM (executeBatchBlock externals input opened) start = .ok finish) :
    (∃ entries, finish.executed = start.executed ++ entries ∧
        List.Forall₂ (RecordsBlock externals) (items.map Prod.fst) entries) ∧
      ∀ item ∈ items, item.1.env.chainId = batchChainId externals input ∧
        ∀ raw ∈ item.1.rawTxs,
          Admits externals opened.policy (batchChainId externals input) raw := by
  induction items generalizing start with
  | nil =>
    rw [foldlM_nil_eq_ok] at ran
    simp [ran]
  | cons item rest inductionHypothesis =>
    obtain ⟨next, executed, remaining⟩ := foldlM_cons_eq_ok.mp ran
    obtain ⟨here, others⟩ := List.forall_mem_cons.mp aligned
    obtain ⟨⟨entry, recorded, records⟩, admitted⟩ := executeBatchBlock_spec here executed
    obtain ⟨⟨entries, appended, pairwise⟩, later⟩ := inductionHypothesis others remaining
    refine ⟨⟨entry :: entries, ?_, .cons records pairwise⟩,
      List.forall_mem_cons.mpr ⟨admitted, later⟩⟩
    rw [appended, recorded, List.append_assoc, List.singleton_append]

/-- The hashes of executed blocks are those of the blocks they record. -/
theorem executedHashes_eq {blocks : List BatchBlockV5} {executed : ExecutedBlocks}
    (records : List.Forall₂ (RecordsBlock externals) blocks executed) :
    executedHashes executed = (blocks.flatMap BatchBlockV5.rawTxs).map externals.keccak256 := by
  induction records with
  | nil => rfl
  | cons head _ inductionHypothesis =>
    rw [executedHashes] at inductionHypothesis
    rw [executedHashes, List.flatMap_cons, List.flatMap_cons, List.map_append, head.hashes,
      inductionHypothesis]

/-- The executed blocks of an accepted batch are its own, and its policy admits every
transaction of them on the chain of the room. -/
theorem AcceptedBatch.records_blocks (batch : AcceptedBatch externals) :
    List.Forall₂ (RecordsBlock externals) batch.input.blocks batch.closed.executed ∧
      ∀ item ∈ batch.input.blocks.zipIdx,
        item.1.env.chainId = batchChainId externals batch.input ∧
          ∀ raw ∈ item.1.rawTxs,
            Admits externals batch.opened.policy (batchChainId externals batch.input) raw := by
  obtain ⟨rosterCallers, -, decoded⟩ := (openBatch_spec batch.opens).decoded
  have aligned : ∀ item ∈ batch.input.blocks.zipIdx,
      Aligned externals item.1.env.chainId batch.opened.decoded[item.2]? item.1.rawTxs :=
    fun item member => decodeBatch_aligned decoded (List.mem_zipIdx_iff_getElem?.mp member)
  obtain ⟨⟨entries, appended, pairwise⟩, admitted⟩ := executeBatchBlocks_spec aligned batch.runs
  rw [List.zipIdx_map_fst] at pairwise
  rw [appended]
  exact ⟨pairwise, admitted⟩

/-- The executed transactions of an accepted batch are the ones it includes, and its policy
admits every one of them on the chain of the room. -/
theorem AcceptedBatch.executes (batch : AcceptedBatch externals) :
    executedHashes batch.closed.executed =
        (includedTransactions batch.input).map externals.keccak256 ∧
      (∀ block ∈ batch.input.blocks, block.env.chainId = batchChainId externals batch.input) ∧
      ∀ raw ∈ includedTransactions batch.input,
        Admits externals batch.opened.policy (batchChainId externals batch.input) raw := by
  obtain ⟨records, admitted⟩ := batch.records_blocks
  refine ⟨executedHashes_eq records, fun block member => ?_, fun raw member => ?_⟩
  · obtain ⟨position, item⟩ := exists_mem_zipIdx member
    exact (admitted _ item).1
  · obtain ⟨block, blockMember, rawMember⟩ := List.mem_flatMap.mp member
    obtain ⟨position, item⟩ := exists_mem_zipIdx blockMember
    exact (admitted _ item).2 raw rawMember

end Batch

/-! ### Composing a batch -/

section Compose

variable (externals : Externals)

/-- Fill in the commitments of a batch that do not depend on its execution. -/
def commitOpening (input : BatchInputV5) : BatchInputV5 :=
  let keccak256 := externals.keccak256
  let journal := input.journal
  let opening := (verifyCompactStateV4 externals.toPrimitives input.compactState).bind fun state =>
    roomStateRootV5 externals.toPrimitives state input.policy.stateCommitment
  { input with
    journal := { journal with
      policyHash := executionPolicyHashV5 keccak256 input.policy
      preStateRoot := opening.toOption.getD 0
      rosterChangesHash := rosterChangesHashV5 keccak256 input.rosterChanges
      inboxCursorAfter := journal.inboxCursorBefore + lengthWord input.deposits
      inboxRecordsHash := inboxRecordsHashV5 keccak256 input.deposits
      admissionCursorAfter := journal.admissionCursorBefore + lengthWord input.admissions
      admissionRecordsHash := admissionRecordsHashV5 keccak256 input.admissions
      forcedCursorAfter := journal.forcedCursorBefore + lengthWord input.forcedTransactions
      forcedOutcomesHash := forcedOutcomesHashV5 keccak256 input.forcedTransactions
      preLiabilitiesHash := liabilitiesHashV5 keccak256 input.preLiabilities
      postLiabilitiesHash := liabilitiesHashV5 keccak256 input.postLiabilities
      withdrawalRoot := (withdrawalRootV5 keccak256 journal.deploymentDomain journal.roomId
        journal.outboxEpoch input.withdrawals input.withdrawalCapacity).getD 0 } }

/-- Execute one block and write down the root it ends with. -/
def composeBlock (input : BatchInputV5) (policy : ExecutionPolicyV4)
    (composed : StateMap × List BatchBlockV5) (block : BatchBlockV5) :
    Except StfError (StateMap × List BatchBlockV5) := do
  let outcome ← executeBlockOnState externals (blockInput input 0 block) composed.1 (some policy)
    false input.policy.stateCommitment true none
  let root := outcome.journal.postStateRoot
  pure (outcome.postState, composed.2 ++ [{ block with expectedPostStateRoot := root }])

/-- The batch with everything its execution decides: the roots of its blocks and the
commitments to its data. -/
def composeBatch (input : BatchInputV5) : Except StfError BatchInputV5 := do
  let committed := commitOpening externals input
  let opened ← openBatch externals committed
  let composed ← input.blocks.foldlM (composeBlock externals committed opened.policy)
    (opened.prepared, [])
  let root ← roomStateRootV5 externals.toPrimitives composed.1 input.policy.stateCommitment
  let data := canonicalBatchDataV5 composed.2 committed.journal.preStateRoot
  pure { committed with
    blocks := composed.2
    canonicalBatchData := data
    journal := { committed.journal with
      postStateRoot := root
      batchDataHash := batchBlockDataHashV5 externals.keccak256 composed.2
        committed.journal.preStateRoot
      canonicalDataHash := externals.keccak256 data } }

/-- Composing fills in commitments and leaves what they commit to alone. -/
structure ComposedOf (input composed : BatchInputV5) : Prop where
  policy : composed.policy = input.policy
  admissions : composed.admissions = input.admissions
  forced : composed.forcedTransactions = input.forcedTransactions
  deposits : composed.deposits = input.deposits
  authorizationMode : composed.journal.authorizationMode = input.journal.authorizationMode
  chainId : batchChainId externals composed = batchChainId externals input
  inboxCursor : composed.journal.inboxCursorBefore = input.journal.inboxCursorBefore
  admissionCursor : composed.journal.admissionCursorBefore = input.journal.admissionCursorBefore
  forcedCursor : composed.journal.forcedCursorBefore = input.journal.forcedCursorBefore
  l1Import : composed.l1Import = input.l1Import
  importCursors : (composed.journal.importCursorBefore, composed.journal.importCursorAfter) =
    (input.journal.importCursorBefore, input.journal.importCursorAfter)

variable {externals}

theorem composeBatch_spec {input composed : BatchInputV5}
    (ran : composeBatch externals input = .ok composed) : ComposedOf externals input composed := by
  obtain ⟨opened, -, ran⟩ := bind_eq_ok.mp ran
  obtain ⟨blocks, -, ran⟩ := bind_eq_ok.mp ran
  obtain ⟨root, -, ran⟩ := bind_eq_ok.mp ran
  rw [← pure_eq_ok.mp ran]
  exact ⟨rfl, rfl, rfl, rfl, rfl, rfl, rfl, rfl, rfl, rfl, rfl⟩

end Compose

/-! ### A sample room -/

/-- The chain of the sample room. -/
def sampleChainId : U64 := roomChainIdV5 sampleDigest 1 1

/-- Transactions are the octet 2, a nonce, a signer, a target and call data. -/
def sampleDecode (raw : Bytes) : Except String (TxEnvelope × Bytes) :=
  match raw with
  | 2 :: nonce :: signer :: target :: input =>
    .ok ({
      txType := .eip1559
      nonce := nonce.setWidth 64
      maxFeePerGas := 0
      maxPriorityFeePerGas := some 0
      chainId := some sampleChainId
      gasLimit := 100
      kind := .call (target.setWidth 160)
      value := 0
      input := input
      accessList := none
      signature := [signer] }, [])
  | _ => .error "unexpected type"

def SlotChanges.ofList (entries : List (U256 × U256)) : SlotChanges :=
  if distinct : (entries.map Prod.fst).Nodup then ⟨entries, distinct⟩ else ⟨[], List.nodup_nil⟩

def AccountChanges.ofList (entries : List (Address × EvmAccount)) : AccountChanges :=
  if distinct : (entries.map Prod.fst).Nodup then ⟨entries, distinct⟩ else ⟨[], List.nodup_nil⟩

/-- The slots a call of the sample queue writes: a selector is followed by the asset and the
amount of a record for the caller. -/
def sampleQueueSlots (state : StateMap) (tx : TxEnv) : List (U256 × U256) :=
  let count := state.storageAt 12 0
  match tx.data with
  | [_, _, _, _, asset, amount] =>
    [(0, count + 1), (1 + 3 * count, tx.caller.setWidth 256),
      (2 + 3 * count, asset.setWidth 256), (3 + 3 * count, amount.setWidth 256)]
  | _ => []

/-- An interpreter of a world in which the exit queue is the only contract that does
something: a transaction uses up a nonce and calls the queue. -/
def sampleInspectTx (_ : EvmContext) (state : StateMap) (proofWork : InspectorProofWork)
    (tx : TxEnv) : Except String EvmResult :=
  let sender := state.accounts.getD tx.caller default
  let queue := state.accounts.getD 12 default
  if sender.nonce = tx.nonce then
    .ok {
      isSuccess := true
      gasUsed := 21
      changes := .ofList [
        (tx.caller, ⟨true, false, false, tx.nonce + 1, sender.balance,
          samplePrimitives.keccakEmpty, none, .ofList []⟩),
        (12, ⟨true, false, false, queue.nonce, queue.balance, sampleDigest [12], none,
          .ofList (sampleQueueSlots state tx)⟩)]
      violation := none
      accessMetrics := state.accessMetrics
      proofWork := proofWork }
  else .error "nonce"

def sampleExternals : Externals where
  toPrimitives := samplePrimitives
  decode2718 := sampleDecode
  recoverSigner envelope := .ok (BitVec.ofNat 160 (ofBigEndian envelope.signature))
  inspectTx := sampleInspectTx
  disableOpcodeGadgets := false

/-- An exit queue at 12 that pays out the asset 7, which the token at 13 stands for. -/
def sampleQueueBinding : ExitBindingV5 := ⟨12, 0, 1, [⟨7, 1, 13, 0⟩], 9⟩

/-- A policy of a room with a registry (11), the exit queue and the token; its members may
call the queue. -/
def samplePolicy : ExecutionPolicyV5 where
  stateCommitment := 0
  maxBlocksPerBatch := 4
  maxTransactionsPerBlock := 4
  maxGasPerBlock := 1000
  maxMemoryBytes := 1000
  allowContractCreation := false
  allowSelfDestruct := false
  code := [⟨11, sampleDigest [11]⟩, ⟨12, sampleDigest [12]⟩, ⟨13, sampleDigest [13]⟩]
  calls := [⟨0, 12, [0x01020304], [0]⟩]
  storage := [⟨11, 0, 0, true⟩, ⟨12, 0, 0, true⟩, ⟨13, 0, 0, false⟩]
  imports := []
  participantRegistry := some ⟨11, 0, 1, 2, 3⟩
  exit := some sampleQueueBinding

/-- The state of the sample room: two members, and a queue with some slots. -/
def sampleCompactState (nonce : U64) (queue : List (U256 × U256)) : CompactStateWitnessV4 where
  canonicalStateRoot := 0
  accounts := [
    ⟨3, true, nonce, 100, [], 0, [], []⟩,
    ⟨4, true, 0, 100, [], 0, [], []⟩,
    ⟨11, true, 1, 0, [11], 0, [], [⟨0, 1, []⟩, ⟨1, 1, []⟩, ⟨2, 2, []⟩, ⟨3, 128, []⟩]⟩,
    ⟨12, true, 1, 0, [12], 0, [], queue.map fun entry => ⟨entry.1, entry.2, []⟩⟩,
    ⟨13, true, 1, 0, [13], 0, [], [⟨mappingSlotV5 sampleDigest 3 0, 0, []⟩]⟩]

/-- A block of the sample room. -/
def sampleBlock (number : U64) (rawTxs : List Bytes) : BatchBlockV5 :=
  { (default : BatchBlockV5) with
    blockNumber := number
    rawTxs := rawTxs
    env := { (default : BlockEnvV1) with
      number := number
      gasLimit := 1000
      chainId := sampleChainId } }

/-- A call of the sample queue that adds a record. -/
def sampleCall (nonce signer asset amount : Words.Byte) : Bytes :=
  [2, nonce, signer, 12, 1, 2, 3, 4, asset, amount]

/-- A validity-only batch of the sample room: one block with transactions and one without. -/
def sampleRoomBatch (compactState : CompactStateWitnessV4) (rawTxs : List Bytes) : BatchInputV5 :=
  { (default : BatchInputV5) with
    policy := samplePolicy
    compactState := compactState
    blocks := [sampleBlock 1 rawTxs, sampleBlock 2 []]
    journal := { (default : BatchJournalV5) with
      protocolVersion := batchJournalVersionV6
      deploymentDomain := 1
      roomId := 1
      authorizationMode := 1
      coldTemplateId := 1
      proofProgramId := 1
      proofSystemVersion := 1
      batchIndex := 2
      startL2Block := 1
      endL2Block := 2
      preParticipantRoot := 1
      postParticipantRoot := 1
      preParticipantEpoch := 1
      postParticipantEpoch := 1
      preParticipantCount := 2
      postParticipantCount := 2
      participantCapacity := 128
      l1InclusionDeadline := 1 } }

/-- The queue of the sample room before its first record. -/
def sampleEmptyQueue : List (U256 × U256) :=
  [(0, 0), (1, 0), (2, 0), (3, 0), (4, 0), (5, 0), (6, 0)]

/-- The batch in which the first member leaves with one unit of the declared asset. -/
def sampleExitBatch : BatchInputV5 :=
  { sampleRoomBatch (sampleCompactState 0 sampleEmptyQueue) [sampleCall 0 3 7 1] with
    preLiabilities := [⟨7, 0, 10, 0, 0⟩]
    postLiabilities := [⟨7, 0, 9, 1, 0⟩]
    withdrawals := [⟨0, 0, 3, 7, 1⟩]
    withdrawalCapacity := 1 }

/-- A batch composed in the sample world. -/
def sampleComposed (input : BatchInputV5) : BatchInputV5 :=
  (composeBatch sampleExternals input).toOption.getD input

theorem sampleComposed_of (input : BatchInputV5) :
    ComposedOf sampleExternals input (sampleComposed input) := by
  unfold sampleComposed
  cases ran : composeBatch sampleExternals input with
  | error failure => exact ⟨rfl, rfl, rfl, rfl, rfl, rfl, rfl, rfl, rfl, rfl, rfl⟩
  | ok composed => exact composeBatch_spec ran

/-- A batch of the sample room whose run evaluates to stages with a property is accepted with
them. -/
theorem exists_sampleBatch (input : BatchInputV5) (property : OpenedBatch → BatchProgress → Bool)
    (holds : ((runBatch sampleExternals (sampleComposed input)).toOption.any fun stages =>
      property stages.1 stages.2) = true) :
    ∃ batch : AcceptedBatch sampleExternals, batch.input = sampleComposed input ∧
      ComposedOf sampleExternals input batch.input ∧
      property batch.opened batch.closed = true := by
  obtain ⟨batch, same, seen⟩ := exists_acceptedBatch property holds
  exact ⟨batch, same, same ▸ sampleComposed_of input, seen⟩

end Zkdeal

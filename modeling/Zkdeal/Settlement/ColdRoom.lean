/-
This file prepares a room template and links it to a batch. The constructors and setup
calls of a template are executed once, under a chain id of its own and without any
room in sight; a batch that builds on the result checks that the state it opens at is
the prepared one up to the declared refreshes.
-/

import Zkdeal.Settlement.Batch
import Zkdeal.Settlement.ColdState

namespace Zkdeal

open Words Guard

def maxColdBlocksV4 : Nat := 32
def maxColdTransactionsV4 : Nat := 256
def maxColdGasPerBlockV4 : U64 := 30000000
def coldTemplateChainIdV4 : U64 := 77999999

/-- An account of a complete state listing. -/
structure AccountState where
  nonce : U64
  balance : U256
  code : Bytes
  storage : List (U256 × U256)
deriving DecidableEq, Inhabited

structure ColdRoomInputV4 where
  encodedWitnessBytes : U32
  compiledBundleHash : B256
  presetHash : B256
  manifestHash : B256
  proofProgramId : B256
  initialStateRoot : B256
  initializedStateRoot : B256
  analyzedArtifactRoot : B256
  allowedCallTargetRoot : B256
  initialState : List (Address × AccountState)
  setupBlocks : List BatchBlockV4
  runtimeCode : List ColdRuntimeCodeV4
  stateAccess : List ColdStateAccessV4
  stateRefresh : List ColdStateRefreshV4
deriving DecidableEq, Inhabited

/-- The public statement of a template: no deployment, room or member is in it. -/
structure ColdRoomJournalV4 where
  v : U8
  templateId : B256
  compiledBundleHash : B256
  presetHash : B256
  manifestHash : B256
  proofProgramId : B256
  constructorChainId : U64
  initialStateRoot : B256
  initializedStateRoot : B256
  setupDataHash : B256
  runtimeCodeRoot : B256
  stateAccessRoot : B256
  stateRefreshRoot : B256
  staticStateCommitment : B256
  analyzedArtifactRoot : B256
  allowedCallTargetRoot : B256
deriving DecidableEq, Inhabited

/-- A batch with the template it builds on. -/
structure ComposedBatchInputV4 where
  coldJournal : ColdRoomJournalV4
  runtimeCode : List ColdRuntimeCodeV4
  stateAccess : List ColdStateAccessV4
  stateRefresh : List ColdStateRefreshV4
  batch : BatchInputV4
deriving DecidableEq, Inhabited

/-- The identifier of a template, from the whole statement but the identifier itself. -/
def coldTemplateIdV4 (keccak256 : Bytes → B256) (journal : ColdRoomJournalV4) : B256 :=
  hashWords keccak256
    [b256Word (keccak256 (ascii ("ColdTemplateIdV4(bytes32 compiledBundleHash," ++
        "bytes32 presetHash,bytes32 manifestHash,bytes32 proofProgramId," ++
        "uint64 constructorChainId,bytes32 initialStateRoot,bytes32 initializedStateRoot," ++
        "bytes32 setupDataHash,bytes32 runtimeCodeRoot,bytes32 stateAccessRoot," ++
        "bytes32 stateRefreshRoot,bytes32 staticStateCommitment," ++
        "bytes32 analyzedArtifactRoot,bytes32 allowedCallTargetRoot)"))),
      b256Word journal.compiledBundleHash, b256Word journal.presetHash,
      b256Word journal.manifestHash, b256Word journal.proofProgramId,
      u256Word journal.constructorChainId, b256Word journal.initialStateRoot,
      b256Word journal.initializedStateRoot, b256Word journal.setupDataHash,
      b256Word journal.runtimeCodeRoot, b256Word journal.stateAccessRoot,
      b256Word journal.stateRefreshRoot, b256Word journal.staticStateCommitment,
      b256Word journal.analyzedArtifactRoot, b256Word journal.allowedCallTargetRoot]

/-- The record of a listed account, without its zero slots. -/
def AccountState.record (account : AccountState) : AccountRecord where
  nonce := account.nonce
  balance := account.balance
  code := account.code
  storage := Std.ExtTreeMap.ofList (account.storage.filter fun entry => entry.2 != 0) compare

def StateMap.fromInput (state : List (Address × AccountState)) : StateMap where
  accounts := Std.ExtTreeMap.ofList (state.map fun item => (item.1, item.2.record)) compare
  blockHashes := ∅
  accessAccounts := none
  accessStorage := none
  accessViolation := none
  preparedCode := ∅
  preparedCodeAddresses := ∅
  accessMetrics := default

section Preparation

variable (externals : Externals)

/-! ### Preparing -/

/-- Add counts in a machine word. -/
def countAll (counts : List Nat) (failure : StfError) : Except StfError Nat :=
  counts.foldlM (fun total count =>
    orRefuse (externals.toPrimitives.checkedUsizeAdd total count) failure) 0

/-- The sizes and commitments of a template, before anything is executed. -/
def checkColdInput (input : ColdRoomInputV4) : Except StfError Unit := do
  refuse (input.encodedWitnessBytes.toNat ≤ 4 ∨
      maxBatchWitnessBytesV4 < input.encodedWitnessBytes.toNat)
    (.coldPreparation [.text "encoded cold witness size must be 5..=",
      .decimal maxBatchWitnessBytesV4, .text " bytes"])
  refuse (input.compiledBundleHash = 0 ∨ input.presetHash = 0 ∨ input.manifestHash = 0 ∨
      input.proofProgramId = 0)
    (.coldPreparation "bundle/preset/manifest/program commitments must be non-zero")
  refuse (input.runtimeCode = []) (.coldPreparation "runtime code commitment list is empty")
  refuse (input.setupBlocks.length < 1 ∨ maxColdBlocksV4 < input.setupBlocks.length)
    (.coldPreparation [.text "setup block count must be 1..=", .decimal maxColdBlocksV4])
  let transactionCount ← countAll externals
    (input.setupBlocks.map fun block => block.rawTxs.length)
    (.coldPreparation "setup transaction count overflow")
  refuse (transactionCount = 0 ∨ maxColdTransactionsV4 < transactionCount)
    (.coldPreparation [.text "setup transaction count must be 1..=",
      .decimal maxColdTransactionsV4])

/-- The slots and code octets counted so far, with one more listed account. -/
def countInitialAccount (counted : Nat × Nat) (item : Address × AccountState) :
    Except StfError (Nat × Nat) := do
  refuse (strictlySorted (item.2.storage.map Prod.fst) = false ∨
      ∃ entry ∈ item.2.storage, entry.2 = 0)
    (.coldPreparation "initial storage must be strictly slot-sorted, unique and non-zero")
  let storageCount ← orRefuse
    (externals.toPrimitives.checkedUsizeAdd counted.1 item.2.storage.length)
    (.coldPreparation "initial storage count overflow")
  let codeBytes ← orRefuse
    (externals.toPrimitives.checkedUsizeAdd counted.2 item.2.code.length)
    (.coldPreparation "initial code size overflow")
  pure (storageCount, codeBytes)

def checkInitialState (initialState : List (Address × AccountState)) : Except StfError Unit := do
  refuse (maxCompactAccountsV4 < initialState.length ∨
      strictlySorted (initialState.map Prod.fst) = false)
    (.coldPreparation "initial state must be capped, strictly address-sorted and unique")
  let counted ← initialState.foldlM (countInitialAccount externals) (0, 0)
  refuse (maxCompactStorageSlotsV4 < counted.1 ∨ maxCompactCodeBytesV4 < counted.2)
    (.coldPreparation "initial state resource envelope exceeded")

/-- A template in the middle of its setup blocks. -/
structure ColdProgress where
  state : StateMap
  currentRoot : B256
  previousTimestamp : U64
  sawCreation : Bool

/-- The setup block has its number and the environment templates run under. -/
def checkSetupEnvironment (previousTimestamp : U64) (block : BatchBlockV4) (offset : Nat) :
    Except StfError Unit := do
  let expectedNumber : U64 := BitVec.ofNat 64 offset
  refuse (block.blockNumber ≠ expectedNumber ∨ block.env.number ≠ expectedNumber)
    (.coldPreparation [.text "setup block ", .decimal offset,
      .text " number/env must both equal ", .decimal expectedNumber.toNat])
  refuse (block.env.timestamp < previousTimestamp ∨ block.env.chainId ≠ coldTemplateChainIdV4 ∨
      block.env.coinbase ≠ 0 ∨ block.env.baseFee ≠ 0 ∨ block.env.prevRandao ≠ 0 ∨
      block.env.difficulty ≠ 0 ∨ block.env.excessBlobGas ≠ 0 ∨ block.env.gasLimit < 1 ∨
      maxColdGasPerBlockV4 < block.env.gasLimit)
    (.coldPreparation [.text "setup block ", .decimal offset,
      .text " environment is outside the cold Osaka profile"])

/-- Execute one setup block without a policy. -/
def executeSetupBlock (progress : ColdProgress) (item : BatchBlockV4 × Nat) :
    Except StfError ColdProgress := do
  let block := item.1
  checkSetupEnvironment progress.previousTimestamp block item.2
  let decoded ← block.rawTxs.mapM fun raw => txEnvFromRaw externals raw coldTemplateChainIdV4
  let outcome ← executeBlockOnState externals
    ⟨0, block.blockNumber, progress.currentRoot, block.rawTxs, block.env, []⟩
    progress.state none false 0 true none
  refuse (outcome.journal.postStateRoot ≠ block.expectedPostStateRoot)
    (.coldPreparation [.text "setup block ", .decimal item.2,
      .text " post root does not match the supplied constructor transcript"])
  pure {
    state := outcome.postState
    currentRoot := outcome.journal.postStateRoot
    previousTimestamp := block.env.timestamp
    sawCreation := progress.sawCreation || decoded.any fun tx => tx.kind == .create }

/-- The slots and code octets counted so far, with one more account of the result. -/
def countInitializedAccount (counted : Nat × Nat) (item : Address × AccountRecord) :
    Except StfError (Nat × Nat) := do
  let storageCount ← orRefuse
    (externals.toPrimitives.checkedUsizeAdd counted.1 item.2.storage.size)
    (.coldPreparation "initialized storage count overflow")
  let codeBytes ← orRefuse
    (externals.toPrimitives.checkedUsizeAdd counted.2 item.2.code.length)
    (.coldPreparation "initialized code size overflow")
  pure (storageCount, codeBytes)

def checkInitializedState (state : StateMap) : Except StfError Unit := do
  let counted ← state.accounts.toList.foldlM (countInitializedAccount externals) (0, 0)
  refuse (maxCompactAccountsV4 < state.accounts.size ∨ maxCompactStorageSlotsV4 < counted.1 ∨
      maxCompactCodeBytesV4 < counted.2)
    (.coldPreparation "initialized state resource envelope exceeded")

/-- The statement of a template. -/
def ColdRoomInputV4.journal (input : ColdRoomInputV4) (initialRoot currentRoot
    staticStateCommitment : B256) : ColdRoomJournalV4 :=
  let journal : ColdRoomJournalV4 := {
    v := batchJournalVersionV4
    templateId := 0
    compiledBundleHash := input.compiledBundleHash
    presetHash := input.presetHash
    manifestHash := input.manifestHash
    proofProgramId := input.proofProgramId
    constructorChainId := coldTemplateChainIdV4
    initialStateRoot := initialRoot
    initializedStateRoot := currentRoot
    setupDataHash := batchBlockDataHashV4 externals.keccak256 input.setupBlocks initialRoot
    runtimeCodeRoot := hashColdRuntimeCodeV4 externals.keccak256 input.runtimeCode
    stateAccessRoot := hashColdStateAccessV4 externals.keccak256 input.stateAccess
    stateRefreshRoot := hashColdStateRefreshV4 externals.keccak256 input.stateRefresh
    staticStateCommitment := staticStateCommitment
    analyzedArtifactRoot := input.analyzedArtifactRoot
    allowedCallTargetRoot := input.allowedCallTargetRoot }
  { journal with templateId := coldTemplateIdV4 externals.keccak256 journal }

def executeColdRoomV4 (input : ColdRoomInputV4) : Except StfError ColdRoomJournalV4 := do
  checkColdInput externals input
  checkInitialState externals input.initialState
  validateColdShapesV4 externals.toPrimitives input.runtimeCode input.stateAccess
    input.stateRefresh
  let state := StateMap.fromInput input.initialState
  let initialRoot := state.stateRoot externals.toPrimitives
  refuse (initialRoot ≠ input.initialStateRoot)
    (.preRootMismatch input.initialStateRoot initialRoot)
  let closed ← input.setupBlocks.zipIdx.foldlM (executeSetupBlock externals)
    ⟨state, initialRoot, 0, false⟩
  refuse (closed.sawCreation = false)
    (.coldPreparation "cold setup must contain at least one contract-creation transaction")
  refuse (closed.currentRoot ≠ input.initializedStateRoot)
    (.coldPreparation [.text "initialized state root ", .digest closed.currentRoot,
      .text " does not match expected ", .digest input.initializedStateRoot])
  checkInitializedState externals closed.state
  verifyColdRuntimeCodeV4 externals.toPrimitives closed.state input.runtimeCode
  let staticStateCommitment ← coldStaticStateCommitmentV4 externals.toPrimitives closed.state
    input.stateAccess input.stateRefresh
  pure (input.journal externals initialRoot closed.currentRoot staticStateCommitment)

/-! ### Linking -/

def validateComposedColdLinkV4 (input : ComposedBatchInputV4) (refreshedState : StateMap) :
    Except StfError Unit := do
  let cold := input.coldJournal
  refuse (cold.v ≠ batchJournalVersionV4 ∨ cold.constructorChainId ≠ coldTemplateChainIdV4 ∨
      cold.templateId ≠ coldTemplateIdV4 externals.keccak256 cold)
    (.coldPreparation "invalid cold journal version, chain namespace, or template id")
  refuse (cold.proofProgramId ≠ input.batch.proofProgramId ∨
      cold.presetHash ≠ input.batch.presetHash ∨ cold.manifestHash ≠ input.batch.manifestHash)
    (.coldPreparation "cold proof does not match the hot batch program/preset/manifest")
  validateColdShapesV4 externals.toPrimitives input.runtimeCode input.stateAccess
    input.stateRefresh
  refuse (hashColdRuntimeCodeV4 externals.keccak256 input.runtimeCode ≠ cold.runtimeCodeRoot ∨
      hashColdStateAccessV4 externals.keccak256 input.stateAccess ≠ cold.stateAccessRoot ∨
      hashColdStateRefreshV4 externals.keccak256 input.stateRefresh ≠ cold.stateRefreshRoot)
    (.coldPreparation "cold proof-link preimage does not match the proven roots")
  verifyColdRuntimeCodeV4 externals.toPrimitives refreshedState input.runtimeCode
  let refreshedStatic ← coldStaticStateCommitmentV4 externals.toPrimitives refreshedState
    input.stateAccess input.stateRefresh
  refuse (refreshedStatic ≠ cold.staticStateCommitment)
    (.coldPreparation "room start changed state outside the proven refresh policy")

/-- A batch that builds on a prepared template. -/
def executeComposedBatchV4 (json : JsonLibrary) (input : ComposedBatchInputV4) :
    Except StfError BatchJournalV4 :=
  (executeBatchV4WithRuntimeCache externals json input.batch true
    (validateComposedColdLinkV4 externals input)).map BatchOutcome.journal

end Preparation

end Zkdeal

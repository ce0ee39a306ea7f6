/-
This file is the execution of one block: the decoding of a raw signed
transaction under the free-gas policy of the rooms, and the loop that runs the
transactions of a block through the interpreter and commits what it hands back.

The transaction decoder, signature recovery and the interpreter are parameters,
gathered with the primitives in `Externals`. The interpreter sees the block
environment, the policy it is observed under and the state, and hands back the
changed accounts; committing them is the state's own business.
-/

import Zkdeal.Policy

namespace Zkdeal

open Words Guard

/-! ### Transactions -/

/-- The envelope types of signed transactions. -/
inductive TxType where
  | legacy
  | eip2930
  | eip1559
  | eip4844
  | eip7702
deriving DecidableEq

def TxType.toU8 : TxType → U8
  | .legacy => 0
  | .eip2930 => 1
  | .eip1559 => 2
  | .eip4844 => 3
  | .eip7702 => 4

/-- A decoded signed transaction. -/
structure TxEnvelope where
  txType : TxType
  nonce : U64
  maxFeePerGas : U128
  maxPriorityFeePerGas : Option U128
  chainId : Option U64
  gasLimit : U64
  kind : TxKind
  value : U256
  input : Bytes
  accessList : Option (List (Address × List B256))
  signature : Bytes
deriving DecidableEq

/-- What the interpreter is given of a transaction. -/
structure TxEnv where
  txType : U8
  caller : Address
  gasLimit : U64
  gasPrice : U128
  kind : TxKind
  value : U256
  data : Bytes
  nonce : U64
  chainId : Option U64
  accessList : List (Address × List B256)
  gasPriorityFee : Option U128
deriving DecidableEq

/-! ### The interpreter -/

structure InspectorProofWork where
  opcodeSteps : U64
  fusedMotifHits : U64
  fusedMotifOpcodes : U64
  keccakOpcodes : U64
  callOpcodes : U64
  precompileCalls : U64
  maxMemoryBytes : U64
deriving DecidableEq, Inhabited

/-- What stays fixed while the interpreter runs the transactions of a block. -/
structure EvmContext where
  env : BlockEnvV1
  policy : ExecutionPolicyV4
  useOpcodeGadgets : Bool

/-- What the interpreter hands back for one transaction it could run: whether it succeeded,
the gas it used, the changed accounts, the policy violation the inspector observed, and the
telemetry counters. -/
structure EvmResult where
  isSuccess : Bool
  gasUsed : U64
  changes : AccountChanges
  violation : Option Message
  accessMetrics : DbAccessMetrics
  proofWork : InspectorProofWork

/-- Everything the rooms take from other libraries. -/
structure Externals extends Primitives where
  decode2718 : Bytes → Except String (TxEnvelope × Bytes)
  recoverSigner : TxEnvelope → Except String Address
  inspectTx : EvmContext → StateMap → InspectorProofWork → TxEnv → Except String EvmResult
  disableOpcodeGadgets : Bool

/-! ### Decoding -/

section Decoding

variable (externals : Externals)

/-- The fee and nonce rules of the free-gas room. -/
def checkFreeGas (envelope : TxEnvelope) : Except StfError Unit := do
  refuse (envelope.txType = .eip4844 ∨ envelope.txType = .eip7702)
    (.unsupportedTx envelope.txType.toU8)
  refuse (envelope.nonce = BitVec.allOnes 64)
    (.txDecode "transaction nonce cannot equal the uint64 maximum")
  refuse (envelope.maxFeePerGas ≠ 0)
    (.feePolicy [.text "non-zero gas price / maxFeePerGas: ",
      .decimal envelope.maxFeePerGas.toNat])
  refuse (envelope.maxPriorityFeePerGas.getD 0 ≠ 0)
    (.feePolicy [.text "non-zero maxPriorityFeePerGas: ",
      .decimal (envelope.maxPriorityFeePerGas.getD 0).toNat])

/-- Decode one raw transaction and enforce the admission policy of the rooms: a supported
envelope without trailing bytes, no fees, this chain's id and a recoverable signer. -/
def txEnvFromRaw (raw : Bytes) (expectedChainId : U64) : Except StfError TxEnv := do
  refuse (raw.head? = some 0x03 ∨ raw.head? = some 0x04) (.unsupportedTx (raw.headD 0))
  let decoded ← (externals.decode2718 raw).mapError fun error => .txDecode [.text error]
  refuse (decoded.2 ≠ [])
    (.txDecode [.decimal decoded.2.length,
      .text " trailing byte(s) after the transaction envelope"])
  let envelope := decoded.1
  checkFreeGas envelope
  refuse (envelope.chainId ≠ some expectedChainId) (.chainId expectedChainId envelope.chainId)
  let caller ← (externals.recoverSigner envelope).mapError fun error =>
    .txDecode [.text "signer recovery: ", .text error]
  pure {
    txType := envelope.txType.toU8
    caller := caller
    gasLimit := envelope.gasLimit
    gasPrice := envelope.maxFeePerGas
    kind := envelope.kind
    value := envelope.value
    data := envelope.input
    nonce := envelope.nonce
    chainId := envelope.chainId
    accessList := envelope.accessList.getD []
    gasPriorityFee := envelope.maxPriorityFeePerGas }

variable {externals}

/-- A transaction that is admitted is the decoded envelope with its recovered signer. -/
theorem txEnvFromRaw_signer {raw : Bytes} {expectedChainId : U64} {tx : TxEnv}
    (decodes : txEnvFromRaw externals raw expectedChainId = .ok tx) :
    ∃ decoded, externals.decode2718 raw = .ok decoded ∧
      externals.recoverSigner decoded.1 = .ok tx.caller := by
  obtain ⟨-, decodes⟩ := refuse_bind_eq_ok.mp decodes
  obtain ⟨decoded, envelope, decodes⟩ := bind_eq_ok.mp decodes
  obtain ⟨-, decodes⟩ := refuse_bind_eq_ok.mp decodes
  obtain ⟨-, -, decodes⟩ := bind_eq_ok.mp decodes
  obtain ⟨-, decodes⟩ := refuse_bind_eq_ok.mp decodes
  obtain ⟨caller, recovered, decodes⟩ := bind_eq_ok.mp decodes
  rw [← pure_eq_ok.mp decodes]
  exact ⟨decoded, mapError_eq_ok.mp envelope, mapError_eq_ok.mp recovered⟩

end Decoding

/-! ### Outcomes -/

/-- The input of one block; the state is handed over separately. -/
structure StfInput where
  roomId : U64
  blockNumber : U64
  prevStateRoot : B256
  rawTxs : List Bytes
  env : BlockEnvV1
  blockHashes : List HistoricalBlockHash
deriving DecidableEq

structure StfJournal where
  v : U8
  roomId : U64
  blockNumber : U64
  prevStateRoot : B256
  postStateRoot : B256
  txCommitment : B256
  envHash : B256
deriving DecidableEq

/-- Status 0 is succeeded, 1 reverted or halted. -/
structure TransactionOutcome where
  transactionHash : B256
  status : U8
deriving DecidableEq

structure EvmProofWork where
  executedGas : U64
  transactionCount : U64
  opcodeSteps : U64
  fusedMotifHits : U64
  fusedMotifOpcodes : U64
  keccakOpcodes : U64
  callOpcodes : U64
  precompileCalls : U64
  maxMemoryBytes : U64
  db : DbAccessMetrics
  stateAccounts : U64
  stateStorageSlots : U64
  stateCodeBytes : U64
deriving DecidableEq, Inhabited

def DbAccessMetrics.accumulate (total next : DbAccessMetrics) : DbAccessMetrics where
  accountReads := saturatingAdd total.accountReads next.accountReads
  codeReads := saturatingAdd total.codeReads next.codeReads
  storageReads := saturatingAdd total.storageReads next.storageReads
  blockHashReads := saturatingAdd total.blockHashReads next.blockHashReads
  accountWrites := saturatingAdd total.accountWrites next.accountWrites
  storageWrites := saturatingAdd total.storageWrites next.storageWrites

/-- Counters add up, sizes keep their maximum. -/
def EvmProofWork.accumulate (total next : EvmProofWork) : EvmProofWork where
  executedGas := saturatingAdd total.executedGas next.executedGas
  transactionCount := saturatingAdd total.transactionCount next.transactionCount
  opcodeSteps := saturatingAdd total.opcodeSteps next.opcodeSteps
  fusedMotifHits := saturatingAdd total.fusedMotifHits next.fusedMotifHits
  fusedMotifOpcodes := saturatingAdd total.fusedMotifOpcodes next.fusedMotifOpcodes
  keccakOpcodes := saturatingAdd total.keccakOpcodes next.keccakOpcodes
  callOpcodes := saturatingAdd total.callOpcodes next.callOpcodes
  precompileCalls := saturatingAdd total.precompileCalls next.precompileCalls
  maxMemoryBytes := larger total.maxMemoryBytes next.maxMemoryBytes
  db := total.db.accumulate next.db
  stateAccounts := larger total.stateAccounts next.stateAccounts
  stateStorageSlots := larger total.stateStorageSlots next.stateStorageSlots
  stateCodeBytes := larger total.stateCodeBytes next.stateCodeBytes

structure BlockOutcome where
  journal : StfJournal
  gasUsed : U64
  proofWork : EvmProofWork
  postState : StateMap
  transactions : List TransactionOutcome

/-! ### One block -/

section Block

variable (externals : Externals)

/-- The hash of the encoded list of the hashes of the raw transactions. -/
def txCommitmentRaw (keccak256 : Bytes → B256) (rawTxs : List Bytes) : B256 :=
  keccak256 (Rlp.encodeList (rawTxs.map fun raw =>
    Rlp.encodeBytes (wordBytes 32 (keccak256 raw))))

/-- The policy of a block that is executed without one. -/
def ExecutionPolicyV4.legacyUnrestricted (primitives : Primitives) : ExecutionPolicyV4 where
  certified := false
  activeMembers := ∅
  codeHashes := ∅
  callRules := []
  storageNamespaces := []
  activeMemberArgumentRules := []
  membershipStateGuards := []
  membershipChanged := false
  allowContractCreation := true
  allowSelfDestruct := true
  maxGasPerBlock := BitVec.allOnes 64
  maxMemoryBytes := 2 ^ primitives.usizeBits - 1

def installInputBlockHashes (state : StateMap) (input : StfInput) : Except StfError StateMap :=
  (state.installBlockHashes input.env.number
    (input.blockHashes.map fun entry => (entry.number, entry.hash))).mapError .blockHashHistory

/-- A block in the middle of its transactions. -/
structure BlockProgress where
  state : StateMap
  gasUsed : U64
  transactions : List TransactionOutcome
  proofWork : InspectorProofWork
  decoded : Option (List TxEnv)

/-- The environment of the next transaction: the next one decoded before, or decoded now. -/
def nextTxEnv (chainId : U64) (decoded : Option (List TxEnv)) (raw : Bytes) :
    Except StfError (TxEnv × Option (List TxEnv)) :=
  match decoded with
  | some (tx :: rest) => .ok (tx, some rest)
  | some [] => .error (.txDecode "pre-decoded transaction list is exhausted")
  | none => (txEnvFromRaw externals raw chainId).map fun tx => (tx, none)

/-- Run one transaction and commit what it changed. -/
def executeTransaction (context : EvmContext) (progress : BlockProgress) (raw : Bytes) :
    Except StfError BlockProgress := do
  let next ← nextTxEnv externals context.env.chainId progress.decoded raw
  let tx := next.1
  (context.policy.validateTransactionEntry externals.toPrimitives tx.caller tx.kind
    tx.data).mapError .certifiedPolicy
  let result ← (externals.inspectTx context progress.state progress.proofWork tx).mapError
    fun error => .txExecution [.text error]
  let state := StateMap.commit externals.toPrimitives
    { progress.state with accessMetrics := result.accessMetrics } result.changes
  forEach result.violation.toList fun error => .error (.certifiedPolicy error)
  forEach state.accessViolation.toList fun error => .error (.txExecution error.display)
  let gasUsed ← orRefuse (checkedAdd progress.gasUsed result.gasUsed)
    (.blockGasLimit (BitVec.allOnes 64) context.env.gasLimit)
  refuse (context.env.gasLimit < gasUsed) (.blockGasLimit gasUsed context.env.gasLimit)
  pure {
    state := state
    gasUsed := gasUsed
    transactions := progress.transactions ++
      [⟨externals.keccak256 raw, if result.isSuccess then 0 else 1⟩]
    proofWork := result.proofWork
    decoded := next.2 }

/-- The sizes of a state, as the telemetry reports them. -/
def stateStorageSlots (state : StateMap) : U64 :=
  BitVec.ofNat 64 ((state.accounts.toList.map fun entry => entry.2.storage.size).sum)

def stateCodeBytes (state : StateMap) : U64 :=
  BitVec.ofNat 64 ((state.accounts.toList.map fun entry => entry.2.code.length).sum)

def blockProofWork (input : StfInput) (progress : BlockProgress) : EvmProofWork where
  executedGas := progress.gasUsed
  transactionCount := lengthWord input.rawTxs
  opcodeSteps := progress.proofWork.opcodeSteps
  fusedMotifHits := progress.proofWork.fusedMotifHits
  fusedMotifOpcodes := progress.proofWork.fusedMotifOpcodes
  keccakOpcodes := progress.proofWork.keccakOpcodes
  callOpcodes := progress.proofWork.callOpcodes
  precompileCalls := progress.proofWork.precompileCalls
  maxMemoryBytes := progress.proofWork.maxMemoryBytes
  db := progress.state.accessMetrics
  stateAccounts := BitVec.ofNat 64 progress.state.accounts.size
  stateStorageSlots := stateStorageSlots progress.state
  stateCodeBytes := stateCodeBytes progress.state

/-- The state root the block claims to start from, checked when asked for. -/
def checkPreStateRoot (input : StfInput) (state : StateMap) (stateCommitment : U8) :
    Except StfError Unit := do
  let computed ← roomStateRootV5 externals.toPrimitives state stateCommitment
  refuse (computed ≠ input.prevStateRoot) (.preRootMismatch input.prevStateRoot computed)

/-- Execute one block on a state. -/
def executeBlockOnState (input : StfInput) (state : StateMap)
    (policy : Option ExecutionPolicyV4) (verifyPreStateRoot : Bool) (stateCommitment : U8)
    (useOpcodeGadgets : Bool) (decodedTxs : Option (List TxEnv)) :
    Except StfError BlockOutcome := do
  refuse (decodedTxs.any fun decoded => decoded.length != input.rawTxs.length)
    (.txDecode "pre-decoded transaction list does not match the block")
  let installed ← installInputBlockHashes state input
  checkWhen verifyPreStateRoot (checkPreStateRoot externals input installed stateCommitment)
  let context : EvmContext := {
    env := input.env
    policy := policy.getD (ExecutionPolicyV4.legacyUnrestricted externals.toPrimitives)
    useOpcodeGadgets := useOpcodeGadgets && !externals.disableOpcodeGadgets }
  let progress ← input.rawTxs.foldlM (executeTransaction externals context) {
    state := { installed with accessMetrics := default }
    gasUsed := 0
    transactions := []
    proofWork := default
    decoded := decodedTxs }
  let postStateRoot ← roomStateRootV5 externals.toPrimitives progress.state stateCommitment
  pure {
    journal := {
      v := journalVersion
      roomId := input.roomId
      blockNumber := input.blockNumber
      prevStateRoot := input.prevStateRoot
      postStateRoot := postStateRoot
      txCommitment := txCommitmentRaw externals.keccak256 input.rawTxs
      envHash := blockEnvHash externals.keccak256 input.env }
    gasUsed := progress.gasUsed
    proofWork := blockProofWork input progress
    postState := progress.state
    transactions := progress.transactions }

/-! ### What a block establishes -/

/-- The transactions decoded before a block, if there are any, are those of its raw ones. -/
def Aligned (chainId : U64) (decoded : Option (List TxEnv)) (rawTxs : List Bytes) : Prop :=
  ∀ transactions, decoded = some transactions →
    List.Forall₂ (fun raw tx => txEnvFromRaw externals raw chainId = .ok tx) rawTxs transactions

/-- The policy admits the root call of a raw transaction of this chain. -/
def Admits (policy : ExecutionPolicyV4) (chainId : U64) (raw : Bytes) : Prop :=
  ∃ tx, txEnvFromRaw externals raw chainId = .ok tx ∧
    policy.validateTransactionEntry externals.toPrimitives tx.caller tx.kind tx.data = .ok ()

variable {externals}

theorem nextTxEnv_spec {chainId : U64} {decoded : Option (List TxEnv)} {raw : Bytes}
    {rest : List Bytes} {next : TxEnv × Option (List TxEnv)}
    (aligned : Aligned externals chainId decoded (raw :: rest))
    (taken : nextTxEnv externals chainId decoded raw = .ok next) :
    txEnvFromRaw externals raw chainId = .ok next.1 ∧ Aligned externals chainId next.2 rest := by
  unfold nextTxEnv at taken
  match decoded with
  | none =>
    obtain ⟨tx, decodes, rfl⟩ := map_eq_ok.mp taken
    exact ⟨decodes, fun transactions impossible => nomatch impossible⟩
  | some [] => cases taken
  | some (tx :: remaining) =>
    obtain rfl := Except.ok.inj taken
    obtain ⟨decodes, others⟩ := List.forall₂_cons.mp (aligned (tx :: remaining) rfl)
    refine ⟨decodes, fun transactions same => ?_⟩
    rwa [← Option.some.inj same]

/-- One executed transaction: its hash is recorded and its root call was admitted. -/
theorem executeTransaction_spec {context : EvmContext} {before after : BlockProgress}
    {raw : Bytes} {rest : List Bytes}
    (aligned : Aligned externals context.env.chainId before.decoded (raw :: rest))
    (executed : executeTransaction externals context before raw = .ok after) :
    after.transactions.map TransactionOutcome.transactionHash =
        before.transactions.map TransactionOutcome.transactionHash ++ [externals.keccak256 raw] ∧
      Admits externals context.policy context.env.chainId raw ∧
      Aligned externals context.env.chainId after.decoded rest := by
  unfold executeTransaction at executed
  obtain ⟨next, taken, executed⟩ := bind_eq_ok.mp executed
  dsimp only at executed
  obtain ⟨⟨⟩, entered, executed⟩ := bind_eq_ok.mp executed
  obtain ⟨result, -, executed⟩ := bind_eq_ok.mp executed
  obtain ⟨-, -, executed⟩ := bind_eq_ok.mp executed
  obtain ⟨-, -, executed⟩ := bind_eq_ok.mp executed
  obtain ⟨gasUsed, -, executed⟩ := bind_eq_ok.mp executed
  obtain ⟨-, executed⟩ := refuse_bind_eq_ok.mp executed
  obtain ⟨decodes, remaining⟩ := nextTxEnv_spec aligned taken
  rw [← pure_eq_ok.mp executed]
  exact ⟨by simp, ⟨next.1, decodes, mapError_eq_ok.mp entered⟩, remaining⟩

theorem executeTransactions_spec {context : EvmContext} {start finish : BlockProgress}
    {rawTxs : List Bytes}
    (aligned : Aligned externals context.env.chainId start.decoded rawTxs)
    (ran : rawTxs.foldlM (executeTransaction externals context) start = .ok finish) :
    finish.transactions.map TransactionOutcome.transactionHash =
        start.transactions.map TransactionOutcome.transactionHash ++
          rawTxs.map externals.keccak256 ∧
      ∀ raw ∈ rawTxs, Admits externals context.policy context.env.chainId raw := by
  induction rawTxs generalizing start with
  | nil =>
    rw [foldlM_nil_eq_ok] at ran
    simp [ran]
  | cons raw rest inductionHypothesis =>
    obtain ⟨next, executed, remaining⟩ := foldlM_cons_eq_ok.mp ran
    obtain ⟨recorded, admitted, restAligned⟩ := executeTransaction_spec aligned executed
    obtain ⟨hashes, others⟩ := inductionHypothesis restAligned remaining
    refine ⟨?_, List.forall_mem_cons.mpr ⟨admitted, others⟩⟩
    rw [hashes, recorded, List.map_cons, List.append_assoc, List.singleton_append]

/-- A block under a policy records the hash of every raw transaction in order, and the policy
admits every one of them. -/
theorem executeBlockOnState_spec {input : StfInput} {state : StateMap}
    {policy : ExecutionPolicyV4} {verifyPreStateRoot useOpcodeGadgets : Bool}
    {stateCommitment : U8} {decoded : Option (List TxEnv)} {outcome : BlockOutcome}
    (executed : executeBlockOnState externals input state (some policy) verifyPreStateRoot
      stateCommitment useOpcodeGadgets decoded = .ok outcome)
    (aligned : Aligned externals input.env.chainId decoded input.rawTxs) :
    outcome.transactions.map TransactionOutcome.transactionHash =
        input.rawTxs.map externals.keccak256 ∧
      ∀ raw ∈ input.rawTxs, Admits externals policy input.env.chainId raw := by
  unfold executeBlockOnState at executed
  obtain ⟨-, executed⟩ := refuse_bind_eq_ok.mp executed
  obtain ⟨installed, -, executed⟩ := bind_eq_ok.mp executed
  obtain ⟨-, -, executed⟩ := bind_eq_ok.mp executed
  obtain ⟨progress, ran, executed⟩ := bind_eq_ok.mp executed
  obtain ⟨postStateRoot, -, executed⟩ := bind_eq_ok.mp executed
  rw [← pure_eq_ok.mp executed]
  exact executeTransactions_spec aligned ran

end Block

end Zkdeal

/-
This file is the commitment layer: the Solidity ABI words, the hashes of the
journal, queues, escrow, imports and policy, the two positional trees, the
canonical batch data and the deployment-scoped chain id.

Keccak-256 is a parameter. A function that hashes a fixed number of words has its
words stated beside it, so that what is hashed can be spoken about.
-/

import Zkdeal.Library.Binding
import Zkdeal.Library.Rlp
import Zkdeal.Types

namespace Zkdeal

open Words Binding

/-! ### ABI words -/

def abiU64WordV5 (value : U64) : B256 := value.setWidth 256

def abiBoolWordV5 (value : Bool) : B256 := abiU64WordV5 (if value then 1 else 0)

def abiAddressWordV5 (value : Address) : B256 := value.setWidth 256

def abiU256WordV5 (value : U256) : B256 := value

/-- A length cast to a word. -/
def lengthWord {Item : Type} (items : List Item) : U64 := BitVec.ofNat 64 items.length

/-- The concatenation of the 32 octets of every word. -/
def encodeWords (words : List B256) : Bytes := words.flatMap (wordBytes 32)

/-- The words of a dynamic array of static words: offset, length and elements. -/
def arrayWords {Item : Type} (items : List Item) (words : Item → List B256) : List B256 :=
  abiU64WordV5 32 :: abiU64WordV5 (lengthWord items) :: items.flatMap words

theorem encodeWords_injective {first second : List B256}
    (equal : encodeWords first = encodeWords second) : first = second :=
  flatMap_injective (by decide) (fun _ _ => length_wordBytes 32 _)
    (fun _ _ => length_wordBytes 32 _) (fun _ _ _ _ => wordBytes_injective (by decide)) equal

@[simp]
theorem length_encodeWords (words : List B256) :
    (encodeWords words).length = 32 * words.length := by
  induction words with
  | nil => rfl
  | cons word rest inductionHypothesis =>
    rw [encodeWords, List.flatMap_cons, List.length_append, length_wordBytes]
    rw [encodeWords] at inductionHypothesis
    rw [inductionHypothesis, List.length_cons]
    omega

theorem abiU64WordV5_injective {first second : U64}
    (equal : abiU64WordV5 first = abiU64WordV5 second) : first = second :=
  setWidth_injective (by decide) equal

theorem abiAddressWordV5_injective {first second : Address}
    (equal : abiAddressWordV5 first = abiAddressWordV5 second) : first = second :=
  setWidth_injective (by decide) equal

theorem abiBoolWordV5_injective {first second : Bool}
    (equal : abiBoolWordV5 first = abiBoolWordV5 second) : first = second := by
  have bits := abiU64WordV5_injective equal
  cases first <;> cases second <;> first | rfl | exact absurd bits (by decide)

section Hashes

variable (keccak256 : Bytes → B256)

def keccakWordsV5 (words : List B256) : B256 := keccak256 (encodeWords words)

/-! ### The journal and the cold template -/

/-- The fifty-two words of the journal. -/
def journalWords (journal : BatchJournalV5) : List B256 :=
  [abiU64WordV5 (journal.protocolVersion.setWidth 64),
    journal.deploymentDomain,
    abiU64WordV5 journal.roomId,
    abiU64WordV5 (journal.authorizationMode.setWidth 64),
    journal.coldTemplateId,
    journal.proofProgramId,
    journal.proofSystemVersion,
    journal.policyHash,
    abiU64WordV5 journal.batchIndex,
    abiU64WordV5 journal.startL2Block,
    abiU64WordV5 journal.endL2Block,
    journal.preStateRoot,
    journal.postStateRoot,
    journal.batchDataHash,
    journal.canonicalDataHash,
    journal.preParticipantRoot,
    journal.postParticipantRoot,
    abiU64WordV5 journal.preParticipantEpoch,
    abiU64WordV5 journal.postParticipantEpoch,
    abiU64WordV5 journal.preParticipantCount,
    abiU64WordV5 journal.postParticipantCount,
    abiU64WordV5 journal.participantCapacity,
    journal.preRosterRoot,
    journal.postRosterRoot,
    abiU64WordV5 journal.preRosterEpoch,
    abiU64WordV5 journal.postRosterEpoch,
    abiU64WordV5 journal.preActiveCount,
    abiU64WordV5 journal.postActiveCount,
    abiU64WordV5 journal.rosterChangeCursorBefore,
    abiU64WordV5 journal.rosterChangeCursorAfter,
    abiU64WordV5 journal.inboxCursorBefore,
    abiU64WordV5 journal.inboxCursorAfter,
    journal.inboxRecordsHash,
    abiU64WordV5 journal.admissionCursorBefore,
    abiU64WordV5 journal.admissionCursorAfter,
    journal.admissionRecordsHash,
    abiU64WordV5 journal.forcedCursorBefore,
    abiU64WordV5 journal.forcedCursorAfter,
    journal.forcedOutcomesHash,
    abiU64WordV5 journal.importCursorBefore,
    abiU64WordV5 journal.importCursorAfter,
    abiU64WordV5 journal.importedL1Block,
    journal.importedL1HeaderHash,
    journal.importedL1StateRoot,
    journal.importRoot,
    abiU64WordV5 journal.outboxEpoch,
    journal.withdrawalRoot,
    journal.preLiabilitiesHash,
    journal.postLiabilitiesHash,
    journal.rosterChangesHash,
    abiU64WordV5 journal.l1InclusionDeadline,
    abiBoolWordV5 journal.close]

def hashBatchJournalV5 (journal : BatchJournalV5) : B256 :=
  keccakWordsV5 keccak256 (journalWords journal)

def coldTemplateIdV5 (initialStateRoot policyHash proofSystemVersion : B256) : B256 :=
  keccak256 (wordBytes 32 (keccak256 (ascii "zkdeal/cold-template-id/v5")) ++
    wordBytes 32 initialStateRoot ++ wordBytes 32 policyHash ++
    wordBytes 32 proofSystemVersion)

def coldTemplateLabel : Bytes := ascii "zkdeal/cold-template/v6"

/-- The nine words of the cold-template statement: the offset of the label, six static
words, and the label behind its length, filled up with zeroes. -/
def coldTemplatePreimage (ids : ColdTemplateIds) (genesisDataHash : B256) : Bytes :=
  resize (32 * 9)
    (encodeWords [abiU64WordV5 (32 * 7), ids.templateId, ids.initialStateRoot, ids.policyHash,
      ids.proofProgramId, ids.proofSystemVersion, genesisDataHash,
      abiU64WordV5 (lengthWord coldTemplateLabel)] ++ coldTemplateLabel)

def coldTemplateStatementV6 (input : ColdTemplateInputV5) (genesisDataHash : B256) : B256 :=
  keccak256 (coldTemplatePreimage input.toColdTemplateIds genesisDataHash)

/-! ### Positional trees -/

/-- The message of an inner node: the two digests side by side. -/
def pairNode (left right : B256) : Bytes := wordBytes 32 left ++ wordBytes 32 right

/-- Put the leaf of one item at its index, which must be below the capacity and above the
index of the item before it. -/
def placeLeaf {Item : Type} (index : Item → U64) (refused : Item → Bool) (leaf : Item → B256)
    (capacity : Nat) (placed : List B256 × Option U64) (item : Item) :
    Option (List B256 × Option U64) :=
  if capacity ≤ (index item).toNat || refused item ||
      placed.2.any (fun prior => index item ≤ prior) then none
  else some (placed.1.set (index item).toNat (leaf item), some (index item))

/-- Put the leaf of every item at its index of a level of zero leaves. -/
def placeLeaves {Item : Type} (index : Item → U64) (refused : Item → Bool) (leaf : Item → B256)
    (capacity : Nat) (items : List Item) : Option (List B256) :=
  (items.foldlM (placeLeaf index refused leaf capacity)
    (List.replicate capacity 0, none)).map Prod.fst

/-- The last digest of a collapsed level. -/
def positionalRoot (leaves : List B256) : Option B256 :=
  (collapse keccak256 pairNode leaves.length leaves).getLast?

def rosterLeafV5 (member : RosterMemberV5) : B256 :=
  keccakWordsV5 keccak256 [abiU64WordV5 member.index, abiAddressWordV5 member.member,
    abiU64WordV5 member.joinedEpoch]

def rosterRootV5 (members : List RosterMemberV5) (capacity : U64) : Option B256 :=
  if capacity = 0 ∨ ¬ IsPowerOfTwo capacity.toNat ∨ maxPositionalCapacityV5 < capacity then none
  else
    (placeLeaves RosterMemberV5.index
      (fun member => member.member == 0 || member.joinedEpoch == 0)
      (rosterLeafV5 keccak256) capacity.toNat members).bind (positionalRoot keccak256)

def withdrawalLeafV5 (deploymentDomain : B256) (roomId outboxEpoch : U64)
    (withdrawal : WithdrawalV5) : B256 :=
  keccakWordsV5 keccak256 [deploymentDomain, abiU64WordV5 roomId, abiU64WordV5 outboxEpoch,
    abiU64WordV5 withdrawal.index, abiU64WordV5 withdrawal.rosterEpoch,
    abiAddressWordV5 withdrawal.recipient, abiAddressWordV5 withdrawal.asset,
    abiU256WordV5 withdrawal.amount]

def withdrawalRootV5 (deploymentDomain : B256) (roomId outboxEpoch : U64)
    (withdrawals : List WithdrawalV5) (capacity : U64) : Option B256 :=
  if withdrawals.isEmpty then some 0
  else if capacity = 0 ∨ ¬ IsPowerOfTwo capacity.toNat ∨ maxWithdrawalCapacityV5 < capacity then
    none
  else
    (placeLeaves WithdrawalV5.index
      (fun withdrawal => withdrawal.recipient == 0 || withdrawal.amount == 0)
      (withdrawalLeafV5 keccak256 deploymentDomain roomId outboxEpoch) capacity.toNat
      withdrawals).bind (positionalRoot keccak256)

/-! ### Queue and escrow commitments -/

def rosterChangeHashV5 (change : RosterChangeV5) : B256 :=
  keccakWordsV5 keccak256 [abiU64WordV5 change.requestId,
    abiU64WordV5 (change.action.setWidth 64), abiU64WordV5 change.index,
    abiU64WordV5 change.joinedEpoch, abiU64WordV5 change.deadline,
    abiAddressWordV5 change.member, change.withdrawalCommitment]

def rosterChangesHashV5 (changes : List RosterChangeV5) : B256 :=
  keccakWordsV5 keccak256
    (arrayWords changes fun change => [rosterChangeHashV5 keccak256 change])

def admissionRecordHashV5 (record : AdmissionRecordV5) : B256 :=
  keccakWordsV5 keccak256 [abiU64WordV5 record.receipt.admissionId,
    record.receipt.transactionHash, abiU64WordV5 record.receipt.depositInboxId,
    record.receipt.depositContentHash, abiU64WordV5 record.receipt.deadlineBlock,
    abiU64WordV5 record.receipt.maximumBatchIndex, abiU64WordV5 record.receipt.bondEpoch,
    abiU256WordV5 record.receipt.admissionFee, keccak256 record.receipt.signature,
    abiU64WordV5 record.outcome.admissionId, record.outcome.transactionHash,
    abiU64WordV5 (record.outcome.status.setWidth 64),
    abiU64WordV5 record.outcome.l2BlockNumber,
    abiU64WordV5 (record.outcome.transactionIndex.setWidth 64), record.outcome.reasonHash]

def admissionRecordsHashV5 (records : List AdmissionRecordV5) : B256 :=
  keccakWordsV5 keccak256
    (arrayWords records fun record => [admissionRecordHashV5 keccak256 record])

def depositContentHashV5 (deposit : DepositV5) : B256 :=
  keccakWordsV5 keccak256 [abiAddressWordV5 deposit.depositor,
    abiAddressWordV5 deposit.beneficiary, abiAddressWordV5 deposit.asset,
    abiU256WordV5 deposit.amount]

def inboxRecordHashV5 (deposit : DepositV5) : B256 :=
  keccakWordsV5 keccak256 [abiU64WordV5 deposit.inboxId,
    depositContentHashV5 keccak256 deposit, abiU64WordV5 deposit.queuedAtBlock,
    abiBoolWordV5 deposit.consumed, abiBoolWordV5 deposit.refunded]

def inboxRecordsHashV5 (deposits : List DepositV5) : B256 :=
  keccakWordsV5 keccak256
    (arrayWords deposits fun deposit => [inboxRecordHashV5 keccak256 deposit])

def forcedOutcomeHashV5 (forced : ForcedTransactionV5) : B256 :=
  keccakWordsV5 keccak256 [abiU64WordV5 forced.forcedId, keccak256 forced.rawTransaction,
    abiU64WordV5 (forced.outcome.status.setWidth 64),
    abiU64WordV5 forced.outcome.l2BlockNumber,
    abiU64WordV5 (forced.outcome.transactionIndex.setWidth 64), forced.outcome.reasonHash]

def forcedOutcomesHashV5 (forced : List ForcedTransactionV5) : B256 :=
  keccakWordsV5 keccak256
    (arrayWords forced fun item => [forcedOutcomeHashV5 keccak256 item])

/-- The raw transaction is not a valid room transaction at all. -/
def forcedRejectionUndecodableV5 : U8 := 1

/-- The root call of the transaction is outside the certified policy. -/
def forcedRejectionPolicyV5 : U8 := 2

/-- The sender cannot execute the transaction at the terminal state. -/
def forcedRejectionSenderV5 : U8 := 3

/-- The words a rejection reason is committed to with. -/
def forcedRejectionReasonWords (transactionHash : B256) (reason : U8) : List B256 :=
  [keccak256 (ascii "zkdeal/forced-rejection/v5"), transactionHash,
    abiU64WordV5 (reason.setWidth 64)]

def forcedRejectionReasonHashV5 (transactionHash : B256) (reason : U8) : B256 :=
  keccakWordsV5 keccak256 (forcedRejectionReasonWords keccak256 transactionHash reason)

def liabilitiesHashV5 (values : List AssetLiabilityV5) : B256 :=
  keccakWordsV5 keccak256 (arrayWords values fun value =>
    [abiAddressWordV5 value.asset, abiU256WordV5 value.pending,
      abiU256WordV5 value.controlled, abiU256WordV5 value.claimable,
      abiU256WordV5 value.paid])

/-! ### Imports -/

def storageKeysRootV5 (keys : List U256) : B256 :=
  keccak256 (ascii "zkdeal/l1-storage-keys/v5" ++ keys.flatMap (wordBytes 32))

def importPayloadCommitmentV5 (storage : List L1StorageSlotV5) : B256 :=
  keccak256 (ascii "zkdeal/l1-storage-values/v5" ++
    storage.flatMap fun slot => wordBytes 32 slot.key ++ wordBytes 32 slot.value)

def importPolicyLeafV5 (chainId : U64) (l1Import : L1ImportWitnessV5) : B256 :=
  keccakWordsV5 keccak256 [abiU64WordV5 chainId, abiAddressWordV5 l1Import.source,
    l1Import.sourceCodeHash, l1Import.storageKeysRoot, l1Import.adapterId,
    l1Import.adapterVersion]

def importRootV5 (roomId chainId : U64) (l1Import : L1ImportWitnessV5) : B256 :=
  keccakWordsV5 keccak256 [abiU64WordV5 roomId, abiU64WordV5 l1Import.sourceBlock,
    l1Import.headerHash, l1Import.stateRoot, importPolicyLeafV5 keccak256 chainId l1Import,
    importPayloadCommitmentV5 keccak256 l1Import.storage, abiU64WordV5 l1Import.expiryBlock]

end Hashes

/-! ### The policy commitment -/

/-- A list behind its length. -/
def counted {Item : Type} (items : List Item) (encode : Item → Bytes) : Bytes :=
  wordBytes 8 (lengthWord items) ++ items.flatMap encode

def flagByte (flag : Bool) : Bytes := [if flag then 1 else 0]

def encodeCallRule (call : CallRuleV5) : Bytes :=
  wordBytes 20 call.caller ++ wordBytes 20 call.target ++ counted call.selectors (wordBytes 4) ++
    counted call.kinds (fun kind => [kind])

def encodeNamespace (region : StorageNamespaceV5) : Bytes :=
  wordBytes 20 region.contract ++ wordBytes 32 region.slotPrefix ++
    wordBytes 2 region.prefixBits ++ flagByte region.writable

def encodeImportBinding (binding : CertifiedImportBindingV5) : Bytes :=
  wordBytes 32 binding.adapterId ++ wordBytes 32 binding.adapterVersion ++
    wordBytes 20 binding.source ++ wordBytes 32 binding.sourceKey ++
    wordBytes 20 binding.roomContract ++ wordBytes 32 binding.roomSlot

def encodeParticipantRegistry : Option ParticipantRegistryBindingV5 → Bytes
  | some binding =>
    [1] ++ wordBytes 20 binding.contract ++ wordBytes 32 binding.rootSlot ++
      wordBytes 32 binding.epochSlot ++ wordBytes 32 binding.countSlot ++
      wordBytes 32 binding.capacitySlot
  | none => [0]

def encodeExitAsset (asset : ExitAssetBindingV5) : Bytes :=
  wordBytes 20 asset.asset ++ [asset.kind] ++ wordBytes 20 asset.token ++
    wordBytes 32 asset.balanceSlot

/-- The optional tail: a policy without an exit binding appends nothing. -/
def encodeExitBinding : Option ExitBindingV5 → Bytes
  | some exit =>
    [1] ++ wordBytes 20 exit.queueContract ++ wordBytes 32 exit.countSlot ++
      wordBytes 32 exit.recordsBaseSlot ++ counted exit.assets encodeExitAsset ++
      wordBytes 20 exit.fallbackRecipient
  | none => []

def encodeExecutionPolicy (policy : ExecutionPolicyV5) : Bytes :=
  ascii "zkdeal/execution-policy/v5" ++ [policy.stateCommitment] ++
    wordBytes 8 policy.maxBlocksPerBatch ++ wordBytes 8 policy.maxTransactionsPerBlock ++
    wordBytes 8 policy.maxGasPerBlock ++ wordBytes 8 policy.maxMemoryBytes ++
    flagByte policy.allowContractCreation ++ flagByte policy.allowSelfDestruct ++
    counted policy.code (fun code =>
      wordBytes 20 code.address ++ wordBytes 32 code.runtimeCodeHash) ++
    counted policy.calls encodeCallRule ++ counted policy.storage encodeNamespace ++
    counted policy.imports encodeImportBinding ++
    encodeParticipantRegistry policy.participantRegistry ++ encodeExitBinding policy.exit

def executionPolicyHashV5 (keccak256 : Bytes → B256) (policy : ExecutionPolicyV5) : B256 :=
  keccak256 (encodeExecutionPolicy policy)

/-! ### Canonical batch data -/

def encodeBlockEnv (env : BlockEnvV1) : Bytes :=
  Rlp.encodeList [Rlp.encodeWord env.number, Rlp.encodeWord env.timestamp,
    Rlp.encodeWord env.gasLimit, Rlp.encodeBytes (wordBytes 20 env.coinbase),
    Rlp.encodeWord env.baseFee, Rlp.encodeBytes (wordBytes 32 env.prevRandao),
    Rlp.encodeWord env.difficulty, Rlp.encodeWord env.excessBlobGas,
    Rlp.encodeWord env.chainId]

/-- One block behind the root it is built on. -/
def encodeBatchBlock (parent : B256) (block : BatchBlockV5) : Bytes :=
  Rlp.encodeList [Rlp.encodeWord block.blockNumber, encodeBlockEnv block.env,
    Rlp.encodeBytes (wordBytes 32 parent),
    Rlp.encodeBytes (wordBytes 32 block.expectedPostStateRoot),
    Rlp.encodeList (block.blockHashes.map fun item =>
      Rlp.encodeList [Rlp.encodeWord item.number, Rlp.encodeBytes (wordBytes 32 item.hash)]),
    Rlp.encodeList (block.rawTxs.map Rlp.encodeBytes)]

/-- Every block behind the root the preceding one claims to end at. -/
def encodeBatchBlocks : B256 → List BatchBlockV5 → List Bytes
  | _, [] => []
  | parent, block :: rest =>
    encodeBatchBlock parent block :: encodeBatchBlocks block.expectedPostStateRoot rest

def canonicalBatchDataV5 (blocks : List BatchBlockV5) (preStateRoot : B256) : Bytes :=
  Rlp.encodeList [Rlp.encodeWord (5 : U64),
    Rlp.encodeList (encodeBatchBlocks preStateRoot blocks)]

def batchBlockDataHashV5 (keccak256 : Bytes → B256) (blocks : List BatchBlockV5)
    (preStateRoot : B256) : B256 :=
  keccak256 (canonicalBatchDataV5 blocks preStateRoot)

/-! ### Block environment and chain id -/

def blockEnvHash (keccak256 : Bytes → B256) (env : BlockEnvV1) : B256 :=
  keccak256 (wordBytes 8 env.number ++ wordBytes 8 env.timestamp ++ wordBytes 8 env.gasLimit ++
    wordBytes 20 env.coinbase ++ wordBytes 32 env.baseFee ++ wordBytes 32 env.prevRandao ++
    wordBytes 32 env.difficulty ++ wordBytes 8 env.excessBlobGas ++ wordBytes 8 env.chainId)

/-- The first fifty digest bits with bit fifty forced to one. -/
def roomChainIdV5 (keccak256 : Bytes → B256) (deploymentId : B256) (roomId : U64) : U64 :=
  let typeHash := keccak256 (ascii "RoomChainIdV5(bytes32 deploymentDomain,uint256 roomId)")
  let digest := keccak256 (encodeWords [typeHash, deploymentId, abiU64WordV5 roomId])
  (digest.extractLsb' 192 64 >>> 14) ||| (1 <<< 50)

/-- A polynomial digest of numbers. -/
def sampleMix (values : List Nat) : B256 :=
  BitVec.ofNat 256 (values.foldl (fun digest value =>
    (257 * digest + value + 1) % (2 ^ 256 - 189)) 1)

/-- A polynomial digest to evaluate the model on concrete inputs with. -/
def sampleDigest (message : Bytes) : B256 := sampleMix (message.map BitVec.toNat)

/-- A digest that is easy to collide. -/
def sampleSum (message : Bytes) : B256 := BitVec.ofNat 256 (message.map BitVec.toNat).sum

end Zkdeal

/-
This file states the data of the long-lived rooms: the witness, policy and
journal records, the compact state witness they carry, the block environment,
the resource bounds and the error taxonomy.

Every fixed-width integer of the source is a `BitVec` of that width. Addresses
and hashes are their big-endian value, so the order of the source on them is
the order of the bit vectors. A text that the source formats is kept as the list
of the fragments it is formatted from.
-/

import Zkdeal.Library.Words

namespace Zkdeal

abbrev U8 := BitVec 8
abbrev U16 := BitVec 16
abbrev U32 := BitVec 32
abbrev U64 := BitVec 64
abbrev U128 := BitVec 128
abbrev U256 := BitVec 256
abbrev Address := BitVec 160
abbrev B256 := BitVec 256
abbrev Bytes := Words.Bytes

/-- The four leading call-data bytes, read big-endian. -/
abbrev Selector := BitVec 32

/-! The key types of the ordered maps and sets are linearly ordered. -/

instance instTransOrdU8 : Std.TransOrd U8 := BitVec.instTransOrd
instance instTransOrdSelector : Std.TransOrd Selector := BitVec.instTransOrd
instance instTransOrdU64 : Std.TransOrd U64 := BitVec.instTransOrd
instance instTransOrdAddress : Std.TransOrd Address := BitVec.instTransOrd
instance instTransOrdU256 : Std.TransOrd U256 := BitVec.instTransOrd

/-- The ordered maps of the source. -/
abbrev BTreeMap (Key Value : Type) [Ord Key] := Std.ExtTreeMap Key Value compare

/-- The ordered sets of the source. -/
abbrev BTreeSet (Key : Type) [Ord Key] := Std.ExtTreeSet Key compare

instance {Key Value : Type} [Ord Key] [Std.TransOrd Key] [DecidableEq Key] [DecidableEq Value] :
    DecidableEq (BTreeMap Key Value) := fun first second =>
  decidable_of_iff (first.toList = second.toList) Std.ExtTreeMap.toList_inj

instance {Key : Type} [Ord Key] [Std.TransOrd Key] [DecidableEq Key] :
    DecidableEq (BTreeSet Key) := fun first second =>
  decidable_of_iff (first.toList = second.toList) Std.ExtTreeSet.toList_inj

/-! ### Errors -/

/-- One piece of a formatted text. -/
inductive Fragment where
  | text (literal : String)
  | decimal (value : Nat)
  | address (value : Address)
  | digest (value : B256)
  | hex (value : U256)
  | selector (value : Option Selector)
deriving DecidableEq

/-- A formatted text. -/
abbrev Message := List Fragment

instance : Coe String Message := ⟨fun literal => [.text literal]⟩

/-- The single error taxonomy every entry point reports through. -/
inductive StfError where
  | preRootMismatch (expected computed : B256)
  | txDecode (detail : Message)
  | unsupportedTx (txType : U8)
  | txExecution (detail : Message)
  | blockHashHistory (detail : Message)
  | feePolicy (detail : Message)
  | chainId (expected : U64) (got : Option U64)
  | blockGasLimit (used limit : U64)
  | invalidBatch (detail : Message)
  | compactWitness (detail : Message)
  | certifiedPolicy (detail : Message)
  | settlement (detail : Message)
  | genesisAnchor (detail : Message)
  | coldPreparation (detail : Message)
  | longLivedRoom (detail : Message)
deriving DecidableEq

/-- The text an error is displayed as. -/
def StfError.display : StfError → Message
  | .preRootMismatch expected computed =>
    [.text "pre-state root mismatch: expected ", .digest expected, .text ", computed ",
      .digest computed]
  | .txDecode detail => .text "tx decode failed: " :: detail
  | .unsupportedTx txType => [.text "unsupported tx type ", .decimal txType.toNat]
  | .txExecution detail => .text "tx execution failed: " :: detail
  | .blockHashHistory detail => .text "invalid block-hash history: " :: detail
  | .feePolicy detail => .text "free-gas policy violated: " :: detail
  | .chainId expected (some got) =>
    [.text "tx chain id ", .decimal got.toNat, .text " != room chain id ",
      .decimal expected.toNat]
  | .chainId expected none =>
    [.text "tx has no chain id (pre-EIP-155); room chain id ", .decimal expected.toNat]
  | .blockGasLimit used limit =>
    [.text "cumulative gas ", .decimal used.toNat, .text " exceeds block gas limit ",
      .decimal limit.toNat]
  | .invalidBatch detail => .text "invalid v4 batch: " :: detail
  | .compactWitness detail => .text "invalid compact state witness: " :: detail
  | .certifiedPolicy detail => .text "certified execution policy: " :: detail
  | .settlement detail => .text "v4 settlement derivation: " :: detail
  | .genesisAnchor detail => .text "v4 genesis L1 anchor: " :: detail
  | .coldPreparation detail => .text "v4 cold preparation: " :: detail
  | .longLivedRoom detail => .text "v5 long-lived room: " :: detail

/-! ### Bounds -/

def batchJournalVersionV6 : U8 := 6
def maxCompactAccountsV4 : Nat := 128
def maxCompactStorageSlotsV4 : Nat := 2048
def maxCompactProofNodesV4 : Nat := 4096
def maxCompactCodeBytesV4 : Nat := 2 * 1024 * 1024
def maxBatchWitnessBytesV4 : Nat := 8 * 1024 * 1024
def maxPositionalCapacityV5 : U64 := 256
def maxWithdrawalCapacityV5 : U64 := 32768
def maxExitAssetsV5 : Nat := 256
def journalVersion : U8 := 2

/-! ### Blocks and the compact state witness -/

/-- The block environment shared by every protocol version. -/
structure BlockEnvV1 where
  number : U64
  timestamp : U64
  gasLimit : U64
  coinbase : Address
  baseFee : U256
  prevRandao : B256
  difficulty : U256
  excessBlobGas : U64
  chainId : U64
deriving DecidableEq, Inhabited

/-- One block-number/hash pair of the room's rolling history. -/
structure HistoricalBlockHash where
  number : U64
  hash : B256
deriving DecidableEq, Inhabited

structure CompactStorageWitnessV4 where
  slot : U256
  value : U256
  proof : List Bytes
deriving DecidableEq, Inhabited

/-- One address of the access envelope; `exists` is false for an address declared absent. -/
structure CompactAccountWitnessV4 where
  address : Address
  «exists» : Bool
  nonce : U64
  balance : U256
  code : Bytes
  canonicalStorageRoot : B256
  accountProof : List Bytes
  storage : List CompactStorageWitnessV4
deriving DecidableEq, Inhabited

/-- The complete room-local state, or a multiproof against a non-zero canonical root. -/
structure CompactStateWitnessV4 where
  canonicalStateRoot : B256
  accounts : List CompactAccountWitnessV4
deriving DecidableEq, Inhabited

structure BatchBlockV5 where
  blockNumber : U64
  rawTxs : List Bytes
  env : BlockEnvV1
  blockHashes : List HistoricalBlockHash
  expectedPostStateRoot : B256
deriving DecidableEq, Inhabited

/-! ### Queues, escrow and imports -/

/-- One active checkpoint approver of the positional preimage. -/
structure RosterMemberV5 where
  index : U64
  member : Address
  joinedEpoch : U64
deriving DecidableEq, Inhabited

/-- One queued approver operation; action 0 adds a member and 1 removes one. -/
structure RosterChangeV5 where
  action : U8
  requestId : U64
  index : U64
  joinedEpoch : U64
  deadline : U64
  member : Address
  withdrawalCommitment : B256
deriving DecidableEq, Inhabited

structure AdmissionReceiptV5 where
  admissionId : U64
  transactionHash : B256
  depositInboxId : U64
  depositContentHash : B256
  deadlineBlock : U64
  maximumBatchIndex : U64
  bondEpoch : U64
  admissionFee : U256
  signature : Bytes
deriving DecidableEq, Inhabited

/-- Status 0 is succeeded, 1 reverted and 2 deterministically rejected. -/
structure AdmissionOutcomeV5 where
  admissionId : U64
  transactionHash : B256
  status : U8
  l2BlockNumber : U64
  transactionIndex : U32
  reasonHash : B256
deriving DecidableEq, Inhabited

structure AdmissionRecordV5 where
  receipt : AdmissionReceiptV5
  outcome : AdmissionOutcomeV5
deriving DecidableEq, Inhabited

structure ForcedTransactionV5 where
  forcedId : U64
  rawTransaction : Bytes
  outcome : AdmissionOutcomeV5
deriving DecidableEq, Inhabited

/-- The custody classification of one asset. -/
structure AssetLiabilityV5 where
  asset : Address
  pending : U256
  controlled : U256
  claimable : U256
  paid : U256
deriving DecidableEq, Inhabited

/-- One L1 inbox record crossed by a batch. -/
structure DepositV5 where
  inboxId : U64
  depositor : Address
  beneficiary : Address
  asset : Address
  amount : U256
  queuedAtBlock : U64
  consumed : Bool
  refunded : Bool
deriving DecidableEq, Inhabited

structure WithdrawalV5 where
  index : U64
  rosterEpoch : U64
  recipient : Address
  asset : Address
  amount : U256
deriving DecidableEq, Inhabited

structure L1StorageSlotV5 where
  key : U256
  value : U256
  proof : List Bytes
deriving DecidableEq, Inhabited

structure L1MirrorBindingV5 where
  sourceKey : U256
  roomContract : Address
  roomSlot : U256
deriving DecidableEq, Inhabited

/-- The private proof material of the one L1 import a batch may consume. -/
structure L1ImportWitnessV5 where
  sourceBlock : U64
  expiryBlock : U64
  headerHash : B256
  stateRoot : B256
  source : Address
  sourceNonce : U64
  sourceBalance : U256
  sourceStorageRoot : B256
  sourceCodeHash : B256
  accountProof : List Bytes
  storageKeysRoot : B256
  adapterId : B256
  adapterVersion : B256
  storage : List L1StorageSlotV5
  mirrorBindings : List L1MirrorBindingV5
deriving DecidableEq, Inhabited

/-! ### The certified policy -/

structure CertifiedImportBindingV5 where
  adapterId : B256
  adapterVersion : B256
  source : Address
  sourceKey : U256
  roomContract : Address
  roomSlot : U256
deriving DecidableEq, Inhabited

structure CodeCommitmentV5 where
  address : Address
  runtimeCodeHash : B256
deriving DecidableEq, Inhabited

/-- A zero caller means any authenticated active member; kind 0 is CALL, 1 STATICCALL and
2 DELEGATECALL. -/
structure CallRuleV5 where
  caller : Address
  target : Address
  selectors : List Selector
  kinds : List U8
deriving DecidableEq, Inhabited

structure StorageNamespaceV5 where
  contract : Address
  slotPrefix : U256
  prefixBits : U16
  writable : Bool
deriving DecidableEq, Inhabited

structure ParticipantRegistryBindingV5 where
  contract : Address
  rootSlot : U256
  epochSlot : U256
  countSlot : U256
  capacitySlot : U256
deriving DecidableEq, Inhabited

/-- One asset the exit queue may pay out; kind 0 is native and 1 is ERC-20. -/
structure ExitAssetBindingV5 where
  asset : Address
  kind : U8
  token : Address
  balanceSlot : U256
deriving DecidableEq, Inhabited

/-- The room-local exit queue. Record `i` occupies the slots `recordsBaseSlot + 3 * i`
(recipient), `+ 1` (asset) and `+ 2` (amount). -/
structure ExitBindingV5 where
  queueContract : Address
  countSlot : U256
  recordsBaseSlot : U256
  assets : List ExitAssetBindingV5
  fallbackRecipient : Address
deriving DecidableEq, Inhabited

structure ExecutionPolicyV5 where
  stateCommitment : U8
  maxBlocksPerBatch : U64
  maxTransactionsPerBlock : U64
  maxGasPerBlock : U64
  maxMemoryBytes : U64
  allowContractCreation : Bool
  allowSelfDestruct : Bool
  code : List CodeCommitmentV5
  calls : List CallRuleV5
  storage : List StorageNamespaceV5
  imports : List CertifiedImportBindingV5
  participantRegistry : Option ParticipantRegistryBindingV5
  exit : Option ExitBindingV5
deriving DecidableEq, Inhabited

/-! ### The batch -/

/-- The public journal of one batch; mode 0 is unanimous and 1 is validity-only. -/
structure BatchJournalV5 where
  protocolVersion : U8
  deploymentDomain : B256
  roomId : U64
  authorizationMode : U8
  coldTemplateId : B256
  proofProgramId : B256
  proofSystemVersion : B256
  policyHash : B256
  batchIndex : U64
  startL2Block : U64
  endL2Block : U64
  preStateRoot : B256
  postStateRoot : B256
  batchDataHash : B256
  canonicalDataHash : B256
  preParticipantRoot : B256
  postParticipantRoot : B256
  preParticipantEpoch : U64
  postParticipantEpoch : U64
  preParticipantCount : U64
  postParticipantCount : U64
  participantCapacity : U64
  preRosterRoot : B256
  postRosterRoot : B256
  preRosterEpoch : U64
  postRosterEpoch : U64
  preActiveCount : U64
  postActiveCount : U64
  rosterChangeCursorBefore : U64
  rosterChangeCursorAfter : U64
  inboxCursorBefore : U64
  inboxCursorAfter : U64
  inboxRecordsHash : B256
  admissionCursorBefore : U64
  admissionCursorAfter : U64
  admissionRecordsHash : B256
  forcedCursorBefore : U64
  forcedCursorAfter : U64
  forcedOutcomesHash : B256
  importCursorBefore : U64
  importCursorAfter : U64
  importedL1Block : U64
  importedL1HeaderHash : B256
  importedL1StateRoot : B256
  importRoot : B256
  outboxEpoch : U64
  withdrawalRoot : B256
  preLiabilitiesHash : B256
  postLiabilitiesHash : B256
  rosterChangesHash : B256
  l1InclusionDeadline : U64
  close : Bool
deriving DecidableEq, Inhabited

/-- The complete private input of one room transition. -/
structure BatchInputV5 where
  encodedWitnessBytes : U32
  l1ChainId : U64
  journal : BatchJournalV5
  policy : ExecutionPolicyV5
  rosterCapacity : U64
  preRoster : List RosterMemberV5
  postRoster : List RosterMemberV5
  rosterChanges : List RosterChangeV5
  admissions : List AdmissionRecordV5
  forcedTransactions : List ForcedTransactionV5
  canonicalBatchData : Bytes
  preLiabilities : List AssetLiabilityV5
  postLiabilities : List AssetLiabilityV5
  deposits : List DepositV5
  withdrawals : List WithdrawalV5
  withdrawalCapacity : U64
  l1Import : Option L1ImportWitnessV5
  compactState : CompactStateWitnessV4
  blocks : List BatchBlockV5
deriving DecidableEq, Inhabited

/-- The public identities of a cold template. -/
structure ColdTemplateIds where
  templateId : B256
  initialStateRoot : B256
  policyHash : B256
  proofProgramId : B256
  proofSystemVersion : B256
deriving DecidableEq, Inhabited

structure ColdTemplateInputV5 extends ColdTemplateIds where
  policy : ExecutionPolicyV5
  compactState : CompactStateWitnessV4
deriving DecidableEq, Inhabited

end Zkdeal

/-
This file is the live preparation of a room batch: the host takes the opening facts
of a room, the blocks of its engine and the records they consume, derives every
commitment and cursor of the journal, and hands the batch to the guest.

The guest derives the same commitments again, in five places and each under its own
conventions for what is empty or absent. `Bookkeeping` gathers what it compares, and
`runUnbooked` is the guest without those comparisons. A prepared batch keeps the
books, so the guest does with it exactly what the rest of its checks say.

Recovery of a signature's key is a parameter.
-/

import Zkdeal.Room.Batch

namespace Zkdeal

open Words Guard

/-! ### Requests -/

/-- What the room's contract says before the batch. -/
structure LiveOpeningV1 where
  roomState : U8
  deploymentDomain : B256
  eip712DomainSeparator : B256
  roomId : U64
  authorizationMode : U8
  coldTemplateId : B256
  proofProgramId : B256
  proofSystemVersion : B256
  policyHash : B256
  stateRoot : B256
  participantRoot : B256
  participantEpoch : U64
  participantCount : U64
  participantCapacity : U64
  approverRoot : B256
  approverEpoch : U64
  activeCount : U64
  batchIndex : U64
  l2BlockHeight : U64
  approverChangeCursor : U64
  inboxCursor : U64
  admissionCursor : U64
  forcedCursor : U64
  importCursor : U64
  outboxEpoch : U64
  maximumAdmissionWindow : U64
  bondEpoch : U64
  admissionSigner : Address
  minimumServiceBond : U256
  serviceBond : U256
  liabilitiesHash : B256
  observedL1Block : U64
deriving DecidableEq, Inhabited

/-- What the caller wants the batch to end with. -/
structure LiveClosingV1 where
  participantRoot : B256
  participantEpoch : U64
  participantCount : U64
  l1InclusionDeadline : U64
  close : Bool
deriving DecidableEq, Inhabited

structure LiveBatchPrepareRequestV1 where
  schemaVersion : U8
  production : Bool
  proofMode : String
  l1ChainId : U64
  terminal : Bool
  opening : LiveOpeningV1
  closing : LiveClosingV1
  policy : ExecutionPolicyV5
  approverCapacity : U64
  preApprovers : List RosterMemberV5
  postApprovers : List RosterMemberV5
  approverChanges : List RosterChangeV5
  admissions : List AdmissionRecordV5
  forcedTransactions : List ForcedTransactionV5
  preLiabilities : List AssetLiabilityV5
  postLiabilities : List AssetLiabilityV5
  deposits : List DepositV5
  withdrawals : List WithdrawalV5
  withdrawalCapacity : U64
  l1Import : Option L1ImportWitnessV5
  compactState : CompactStateWitnessV4
  blocks : List BatchBlockV5
deriving DecidableEq, Inhabited

def livePrepareSchemaV1 : U8 := 1

def roomStateOpen : U8 := 1

def roomStateClosed : U8 := 2

def validityOnly : U8 := 1

/-! ### Admission receipts -/

/-- What is taken from the signature library: reading 64 octets, the low form of a signature
that is not in it, and the uncompressed point a digest was signed with. -/
structure EcdsaLibrary where
  Signature : Type
  fromSlice : Bytes → Option Signature
  normalizeS : Signature → Option Signature
  recoverFromPrehash : B256 → Signature → U8 → Option Bytes

section Prepare

variable (keccak256 : Bytes → B256) (ecdsa : EcdsaLibrary)

def admissionReceiptType : Bytes :=
  ascii ("AdmissionReceipt(uint64 roomId,uint64 admissionId,bytes32 transactionHash," ++
    "uint64 depositInboxId,bytes32 depositContentHash,uint64 deadlineBlock," ++
    "uint64 maximumBatchIndex,uint64 bondEpoch,uint256 admissionFee)")

def admissionReceiptStructHash (roomId : U64) (record : AdmissionRecordV5) : B256 :=
  keccakWordsV5 keccak256 [keccak256 admissionReceiptType, abiU64WordV5 roomId,
    abiU64WordV5 record.receipt.admissionId, record.receipt.transactionHash,
    abiU64WordV5 record.receipt.depositInboxId, record.receipt.depositContentHash,
    abiU64WordV5 record.receipt.deadlineBlock, abiU64WordV5 record.receipt.maximumBatchIndex,
    abiU64WordV5 record.receipt.bondEpoch, abiU256WordV5 record.receipt.admissionFee]

/-- The recovery id, plain or in the older convention. -/
def recoveryId? (octet : U8) : Option U8 :=
  if octet = 0 ∨ octet = 1 then some octet
  else if octet = 27 ∨ octet = 28 then some (octet - 27)
  else none

def recoverAddress (digest : B256) (signature : Bytes) : Except String Address := do
  refuse (signature.length ≠ 65) "admission receipt signature must be exactly 65 bytes"
  let parsed ← orRefuse (ecdsa.fromSlice (signature.take 64)) "admission ECDSA signature"
  refuse ((ecdsa.normalizeS parsed).isSome)
    "admission receipt signature is not low-s canonical"
  let recovery ← orRefuse (recoveryId? (signature.getD 64 0))
    "admission receipt recovery id is not 0/1/27/28"
  let encoded ← orRefuse (ecdsa.recoverFromPrehash digest parsed recovery)
    "recover admission signer"
  pure ((keccak256 (encoded.drop 1)).setWidth 160)

/-- One receipt: inside the live bond, batch and deadlines, and signed by the room's signer. -/
def validateAdmissionEnvelope (request : LiveBatchPrepareRequestV1) (batchIndex : U64)
    (latestDeadline : U64) (record : AdmissionRecordV5) : Except String Unit := do
  let opening := request.opening
  refuse (record.receipt.bondEpoch ≠ opening.bondEpoch ∨
      record.receipt.maximumBatchIndex < batchIndex ∨
      record.receipt.deadlineBlock < request.closing.l1InclusionDeadline ∨
      latestDeadline < record.receipt.deadlineBlock)
    "admission receipt is outside the live room bond, batch or deadline facts"
  let typed := [0x19, 0x01] ++ wordBytes 32 opening.eip712DomainSeparator ++
    wordBytes 32 (admissionReceiptStructHash keccak256 opening.roomId record)
  let signer ← recoverAddress keccak256 ecdsa (keccak256 typed) record.receipt.signature
  refuse (signer ≠ opening.admissionSigner)
    "admission receipt is not signed by the live room admission signer"

def validateAdmissionEnvelopes (request : LiveBatchPrepareRequestV1) (batchIndex : U64) :
    Except String Unit :=
  let opening := request.opening
  if request.admissions = [] then .ok ()
  else do
    refuse (opening.admissionSigner = 0 ∨ opening.eip712DomainSeparator = 0 ∨
        opening.maximumAdmissionWindow = 0 ∨ opening.serviceBond < opening.minimumServiceBond)
      "live admission opening facts do not satisfy the on-chain service boundary"
    let latestDeadline ← orRefuse
      (checkedAdd opening.observedL1Block opening.maximumAdmissionWindow)
      "maximum admission deadline overflow"
    forEach request.admissions
      (validateAdmissionEnvelope keccak256 ecdsa request batchIndex latestDeadline)

/-! ### Preparation -/

/-- The host's checks of the request that come before any derivation. -/
def checkLiveOpening (request : LiveBatchPrepareRequestV1) : Except String Unit := do
  let opening := request.opening
  refuse (request.schemaVersion ≠ livePrepareSchemaV1 ∨ request.production = false ∨
      request.proofMode ≠ "groth16")
    "live prepare requires schemaVersion=1, production=true and proofMode=groth16"
  refuse (request.terminal ∧ request.closing.close = false)
    "terminal live preparation requires a closing journal"
  refuse (opening.roomState ≠ (if request.terminal then roomStateClosed else roomStateOpen) ∨
      opening.authorizationMode ≠ validityOnly ∨ opening.roomId = 0 ∨
      opening.deploymentDomain = 0 ∨ opening.stateRoot = 0 ∨ opening.participantRoot = 0 ∨
      opening.participantEpoch = 0 ∨ opening.participantCapacity = 0 ∨
      opening.proofProgramId = 0 ∨ opening.proofSystemVersion = 0 ∨ opening.policyHash = 0)
    "live prepare opening facts are zero, in the wrong room state, or not VALIDITY_ONLY"
  refuse (request.blocks = []) "live prepare requires at least one live engine block"
  refuse (executionPolicyHashV5 keccak256 request.policy ≠ opening.policyHash)
    "live execution policy does not match the on-chain policyHash"
  refuse (liabilitiesHashV5 keccak256 request.preLiabilities ≠ opening.liabilitiesHash)
    "live pre-liabilities do not match the on-chain liabilities hash"
  refuse (request.preApprovers ≠ [] ∨ request.postApprovers ≠ [] ∨
      request.approverChanges ≠ [] ∨ opening.approverRoot ≠ 0 ∨ opening.activeCount ≠ 0)
    "VALIDITY_ONLY live preparation cannot carry checkpoint approvers"

/-- The host's `checked_advance`. -/
def liveCheckedAdvance (value : U64) (count : Nat) (label : String) : Except String U64 :=
  orRefuse (checkedAdvance value count) (label ++ " overflow")

def prepareInput (request : LiveBatchPrepareRequestV1) : Except String BatchInputV5 := do
  let opening := request.opening
  let closing := request.closing
  checkLiveOpening keccak256 request
  let batchIndex ← orRefuse (checkedAdd opening.batchIndex 1) "batch index overflow"
  let startL2Block ← orRefuse (checkedAdd opening.l2BlockHeight 1) "L2 block height overflow"
  let endL2Block ← liveCheckedAdvance startL2Block (request.blocks.length - 1) "L2 range"
  let last ← orRefuse request.blocks.getLast? "live block list is empty"
  refuse (request.blocks.head?.map BatchBlockV5.blockNumber ≠ some startL2Block ∨
      last.blockNumber ≠ endL2Block ∨ last.expectedPostStateRoot = 0)
    "live blocks do not continue the on-chain L2 height or omit a terminal root"
  refuse (closing.participantRoot = 0 ∨ closing.participantEpoch = 0 ∨
      opening.participantCapacity < closing.participantCount ∨
      closing.l1InclusionDeadline ≤ opening.observedL1Block)
    "live closing participant or inclusion-deadline facts are invalid"
  validateAdmissionEnvelopes keccak256 ecdsa request batchIndex
  refuse (request.withdrawalCapacity ≠ 0 ∧ request.withdrawals = [])
    ("live prepare declares withdrawalCapacity " ++ request.withdrawalCapacity.toNat.repr ++
      " but carries no withdrawals; a batch without withdrawal leaves must declare capacity 0")
  let canonicalBatchData := canonicalBatchDataV5 request.blocks opening.stateRoot
  let outboxEpoch ← orRefuse (checkedAdd opening.outboxEpoch 1) "outbox epoch overflow"
  let withdrawalRoot ← orRefuse
    (withdrawalRootV5 keccak256 opening.deploymentDomain opening.roomId outboxEpoch
      request.withdrawals request.withdrawalCapacity)
    "invalid live withdrawal positional tree"
  let inboxCursorAfter ←
    liveCheckedAdvance opening.inboxCursor request.deposits.length "inbox cursor"
  let admissionCursorAfter ←
    liveCheckedAdvance opening.admissionCursor request.admissions.length "admission cursor"
  let forcedCursorAfter ←
    liveCheckedAdvance opening.forcedCursor request.forcedTransactions.length "forced cursor"
  let importCursorAfter ← orRefuse
    (checkedAdd opening.importCursor (if request.l1Import.isSome then 1 else 0))
    "import cursor overflow"
  pure {
    encodedWitnessBytes := 0
    l1ChainId := request.l1ChainId
    journal := {
      protocolVersion := batchJournalVersionV6
      deploymentDomain := opening.deploymentDomain
      roomId := opening.roomId
      authorizationMode := opening.authorizationMode
      coldTemplateId := opening.coldTemplateId
      proofProgramId := opening.proofProgramId
      proofSystemVersion := opening.proofSystemVersion
      policyHash := opening.policyHash
      batchIndex := batchIndex
      startL2Block := startL2Block
      endL2Block := endL2Block
      preStateRoot := opening.stateRoot
      postStateRoot := last.expectedPostStateRoot
      batchDataHash := batchBlockDataHashV5 keccak256 request.blocks opening.stateRoot
      canonicalDataHash := keccak256 canonicalBatchData
      preParticipantRoot := opening.participantRoot
      postParticipantRoot := closing.participantRoot
      preParticipantEpoch := opening.participantEpoch
      postParticipantEpoch := closing.participantEpoch
      preParticipantCount := opening.participantCount
      postParticipantCount := closing.participantCount
      participantCapacity := opening.participantCapacity
      preRosterRoot := 0
      postRosterRoot := 0
      preRosterEpoch := opening.approverEpoch
      postRosterEpoch := opening.approverEpoch
      preActiveCount := 0
      postActiveCount := 0
      rosterChangeCursorBefore := opening.approverChangeCursor
      rosterChangeCursorAfter := opening.approverChangeCursor
      inboxCursorBefore := opening.inboxCursor
      inboxCursorAfter := inboxCursorAfter
      inboxRecordsHash := inboxRecordsHashV5 keccak256 request.deposits
      admissionCursorBefore := opening.admissionCursor
      admissionCursorAfter := admissionCursorAfter
      admissionRecordsHash := admissionRecordsHashV5 keccak256 request.admissions
      forcedCursorBefore := opening.forcedCursor
      forcedCursorAfter := forcedCursorAfter
      forcedOutcomesHash := forcedOutcomesHashV5 keccak256 request.forcedTransactions
      importCursorBefore := opening.importCursor
      importCursorAfter := importCursorAfter
      importedL1Block := request.l1Import.elim 0 L1ImportWitnessV5.sourceBlock
      importedL1HeaderHash := request.l1Import.elim 0 L1ImportWitnessV5.headerHash
      importedL1StateRoot := request.l1Import.elim 0 L1ImportWitnessV5.stateRoot
      importRoot := request.l1Import.elim 0
        (importRootV5 keccak256 opening.roomId request.l1ChainId)
      outboxEpoch := outboxEpoch
      withdrawalRoot := withdrawalRoot
      preLiabilitiesHash := liabilitiesHashV5 keccak256 request.preLiabilities
      postLiabilitiesHash := liabilitiesHashV5 keccak256 request.postLiabilities
      rosterChangesHash := rosterChangesHashV5 keccak256 []
      l1InclusionDeadline := closing.l1InclusionDeadline
      close := closing.close }
    policy := request.policy
    rosterCapacity := request.approverCapacity
    preRoster := request.preApprovers
    postRoster := request.postApprovers
    rosterChanges := request.approverChanges
    admissions := request.admissions
    forcedTransactions := request.forcedTransactions
    canonicalBatchData := canonicalBatchData
    preLiabilities := request.preLiabilities
    postLiabilities := request.postLiabilities
    deposits := request.deposits
    withdrawals := request.withdrawals
    withdrawalCapacity := request.withdrawalCapacity
    l1Import := request.l1Import
    compactState := request.compactState
    blocks := request.blocks }

end Prepare

/-! ### The books -/

/-- What the guest compares a batch's journal with and can derive from the batch alone. -/
structure Bookkeeping (keccak256 : Bytes → B256) (input : BatchInputV5) : Prop where
  validityOnly : input.journal.authorizationMode = 1
  roster : validateRosterTransitionV5 keccak256 input = .ok ∅
  range : checkedAdvance input.journal.startL2Block (input.blocks.length - 1) =
    some input.journal.endL2Block
  inboxCursor : checkedAdvance input.journal.inboxCursorBefore input.deposits.length =
    some input.journal.inboxCursorAfter
  inboxRecords : inboxRecordsHashV5 keccak256 input.deposits = input.journal.inboxRecordsHash
  admissionCursor : ∃ count, checkedSub input.journal.admissionCursorAfter
    input.journal.admissionCursorBefore = some count ∧ count.toNat = input.admissions.length
  admissionRecords : admissionRecordsHashV5 keccak256 input.admissions =
    input.journal.admissionRecordsHash
  forcedCursor : ∃ count, checkedSub input.journal.forcedCursorAfter
    input.journal.forcedCursorBefore = some count ∧
      count.toNat = input.forcedTransactions.length
  forcedOutcomes : forcedOutcomesHashV5 keccak256 input.forcedTransactions =
    input.journal.forcedOutcomesHash
  importCursor : input.journal.importCursorBefore.toNat + input.l1Import.toList.length =
    input.journal.importCursorAfter.toNat
  preLiabilities : liabilitiesHashV5 keccak256 input.preLiabilities =
    input.journal.preLiabilitiesHash
  postLiabilities : liabilitiesHashV5 keccak256 input.postLiabilities =
    input.journal.postLiabilitiesHash
  withdrawalRoot : withdrawalRootV5 keccak256 input.journal.deploymentDomain
    input.journal.roomId input.journal.outboxEpoch input.withdrawals input.withdrawalCapacity =
      some input.journal.withdrawalRoot
  canonicalData : canonicalBatchDataV5 input.blocks input.journal.preStateRoot =
    input.canonicalBatchData
  canonicalDataHash : keccak256 input.canonicalBatchData = input.journal.canonicalDataHash
  batchData : batchBlockDataHashV5 keccak256 input.blocks input.journal.preStateRoot =
    input.journal.batchDataHash
  policy : executionPolicyHashV5 keccak256 input.policy = input.journal.policyHash
  l1Import : ∀ l1Import, input.l1Import = some l1Import →
    saturatingAdd input.journal.importCursorBefore 1 = input.journal.importCursorAfter ∧
    l1Import.sourceBlock = input.journal.importedL1Block ∧
    l1Import.headerHash = input.journal.importedL1HeaderHash ∧
    l1Import.stateRoot = input.journal.importedL1StateRoot ∧
    importRootV5 keccak256 input.journal.roomId input.l1ChainId l1Import =
      input.journal.importRoot
  noImport : input.l1Import = none → refuseImportFields input.journal = .ok ()

section Prepared

variable {keccak256 : Bytes → B256} {ecdsa : EcdsaLibrary} {request : LiveBatchPrepareRequestV1}
  {input : BatchInputV5}

/-- What the first checks of the host leave of the request. -/
theorem checkLiveOpening_spec (checked : checkLiveOpening keccak256 request = .ok ()) :
    request.opening.authorizationMode = 1 ∧
      executionPolicyHashV5 keccak256 request.policy = request.opening.policyHash ∧
      request.preApprovers = [] ∧ request.postApprovers = [] ∧ request.approverChanges = [] := by
  obtain ⟨-, checked⟩ := refuse_bind_eq_ok.mp checked
  obtain ⟨-, checked⟩ := refuse_bind_eq_ok.mp checked
  obtain ⟨opening, checked⟩ := refuse_bind_eq_ok.mp checked
  obtain ⟨-, checked⟩ := refuse_bind_eq_ok.mp checked
  obtain ⟨policy, checked⟩ := refuse_bind_eq_ok.mp checked
  obtain ⟨-, checked⟩ := refuse_bind_eq_ok.mp checked
  have approvers := refuse_eq_ok.mp checked
  simp only [not_or, not_not] at opening policy approvers
  exact ⟨opening.2.1, policy, approvers.1, approvers.2.1, approvers.2.2.1⟩

/-- A prepared batch keeps the books. -/
theorem bookkeeping_of_prepareInput
    (prepared : prepareInput keccak256 ecdsa request = .ok input) :
    Bookkeeping keccak256 input := by
  obtain ⟨⟨⟩, opening, prepared⟩ := bind_eq_ok.mp prepared
  obtain ⟨mode, policy, preApprovers, postApprovers, changes⟩ := checkLiveOpening_spec opening
  obtain ⟨batchIndex, -, prepared⟩ := bind_eq_ok.mp prepared
  obtain ⟨startL2Block, -, prepared⟩ := bind_eq_ok.mp prepared
  obtain ⟨endL2Block, range, prepared⟩ := bind_eq_ok.mp prepared
  obtain ⟨last, -, prepared⟩ := bind_eq_ok.mp prepared
  obtain ⟨-, prepared⟩ := refuse_bind_eq_ok.mp prepared
  obtain ⟨-, prepared⟩ := refuse_bind_eq_ok.mp prepared
  obtain ⟨⟨⟩, -, prepared⟩ := bind_eq_ok.mp prepared
  obtain ⟨-, prepared⟩ := refuse_bind_eq_ok.mp prepared
  obtain ⟨outboxEpoch, -, prepared⟩ := bind_eq_ok.mp prepared
  obtain ⟨withdrawalRoot, withdrawals, prepared⟩ := bind_eq_ok.mp prepared
  obtain ⟨inboxCursor, inbox, prepared⟩ := bind_eq_ok.mp prepared
  obtain ⟨admissionCursor, admissions, prepared⟩ := bind_eq_ok.mp prepared
  obtain ⟨forcedCursor, forced, prepared⟩ := bind_eq_ok.mp prepared
  obtain ⟨importCursor, imported, prepared⟩ := bind_eq_ok.mp prepared
  rw [orRefuse_eq_ok] at imported
  obtain rfl := pure_eq_ok.mp prepared
  exact {
    validityOnly := mode
    roster := by
      rw [validateRosterTransitionV5, if_pos mode]
      refine refuse_bind_eq_ok.mpr ⟨?_, rfl⟩
      simp [preApprovers, postApprovers, changes]
    range := orRefuse_eq_ok.mp range
    inboxCursor := orRefuse_eq_ok.mp inbox
    inboxRecords := rfl
    admissionCursor := checkedSub_of_checkedAdvance (orRefuse_eq_ok.mp admissions)
    admissionRecords := rfl
    forcedCursor := checkedSub_of_checkedAdvance (orRefuse_eq_ok.mp forced)
    forcedOutcomes := rfl
    importCursor := by
      have advanced := checkedAdd_eq_some.mp imported
      cases present : request.l1Import with
      | none => simpa [present] using advanced
      | some l1Import => simpa [present] using advanced
    preLiabilities := rfl
    postLiabilities := rfl
    withdrawalRoot := orRefuse_eq_ok.mp withdrawals
    canonicalData := rfl
    canonicalDataHash := rfl
    batchData := rfl
    policy := policy
    l1Import := by
      intro l1Import present
      have present : request.l1Import = some l1Import := present
      rw [present] at imported ⊢
      exact ⟨saturatingAdd_of_checkedAdd imported, rfl, rfl, rfl, rfl⟩
    noImport := by
      intro absent
      have absent : request.l1Import = none := absent
      have unmoved := checkedAdd_eq_some.mp imported
      refine refuse_eq_ok.mpr ?_
      rw [absent] at unmoved ⊢
      have unmoved : importCursor = request.opening.importCursor :=
        BitVec.eq_of_toNat_eq unmoved.symm
      simp [unmoved] }

end Prepared

/-! ### The guest without its books -/

section Unbooked

variable (externals : Externals)

/-- The identity of a batch and its size under the policy. -/
def checkIdentityUnbooked (input : BatchInputV5) : Except StfError Unit := do
  let journal := input.journal
  refuse (journal.protocolVersion ≠ batchJournalVersionV6 ∨ journal.deploymentDomain = 0 ∨
      journal.roomId = 0 ∨ 1 < journal.authorizationMode ∨ journal.coldTemplateId = 0 ∨
      journal.proofProgramId = 0 ∨ journal.proofSystemVersion = 0 ∨ journal.policyHash = 0 ∨
      journal.batchIndex = 0 ∨ journal.l1InclusionDeadline = 0)
    (.longLivedRoom "required v6 public identity field is zero or invalid")
  refuse (journal.batchIndex = 1 ∧
      coldTemplateIdV5 externals.keccak256 journal.preStateRoot journal.policyHash
        journal.proofSystemVersion ≠ journal.coldTemplateId)
    (.longLivedRoom "first batch does not open at its cold template's registered state")
  let count := input.blocks.length
  refuse (count = 0 ∨ input.policy.maxBlocksPerBatch.toNat < count ∨
      (count = 1 ∧ journal.close = false) ∨
      maxBatchWitnessBytesV4 < input.encodedWitnessBytes.toNat)
    (.longLivedRoom "batch block count or witness size is outside the policy")

/-- The ledger: deposits in order, totals that fit, and conservation for every asset. -/
def validateLedger (input : BatchInputV5) : Except StfError Unit := do
  let journal := input.journal
  refuse (journal.authorizationMode = 1 ∧ input.policy.exit = none)
    (.longLivedRoom "validity-only rooms are unprovable without an exit binding")
  refuse (input.preLiabilities.length ≠ input.postLiabilities.length)
    (.longLivedRoom "liability preimages do not match the journal")
  let deposits ← input.deposits.zipIdx.foldlM (consumeDeposit journal) ∅
  let withdrawals ← accumulateTotals "withdrawal total" (withdrawnAmounts input.withdrawals)
  let progress ← (input.preLiabilities.zip input.postLiabilities).foldlM
    (conserveLiability journal.close) ⟨none, deposits, withdrawals⟩
  refuse (progress.deposits ≠ ∅ ∨ progress.withdrawals ≠ ∅)
    (.longLivedRoom "deposit or withdrawal names an unsupported asset")

/-- An import that is in time and of a contract, authenticated and mirrored. -/
def applyImportUnbooked (input : BatchInputV5) (state : StateMap)
    (l1Import : L1ImportWitnessV5) : Except StfError StateMap := do
  let primitives := externals.toPrimitives
  refuse (l1Import.expiryBlock < input.journal.l1InclusionDeadline ∨ l1Import.source = 0 ∨
      l1Import.sourceCodeHash = 0)
    (.longLivedRoom "L1 import metadata does not match the journal")
  refuse (maxCompactProofNodesV4 < l1Import.accountProof.length ∨
      ∃ node ∈ l1Import.accountProof, 1024 < node.length)
    (.longLivedRoom "L1 account proof exceeds the resource envelope")
  authenticateSource primitives l1Import
  let progress ← l1Import.storage.foldlM (authenticateImportSlot primitives l1Import)
    ⟨none, l1Import.accountProof.length, ∅⟩
  refuse (storageKeysRootV5 primitives.keccak256 progress.values.keys ≠ l1Import.storageKeysRoot)
    (.longLivedRoom "authenticated L1 key set does not match storageKeysRoot")
  let certified := certifiedBindings input.policy l1Import
  refuse (certified.length ≠ l1Import.mirrorBindings.length)
    (.longLivedRoom "import mirror map is not the complete certified adapter map")
  (l1Import.mirrorBindings.zip certified).foldlM (mirrorBinding progress.values) state

/-- The policy is built under its own hash. -/
def openUnbooked (input : BatchInputV5) : Except StfError OpenedBatch := do
  checkIdentityUnbooked externals input
  validateLedger input
  let opening ← openCompactState externals input
  let imported ← input.l1Import.elim (.ok opening) (applyImportUnbooked externals input opening)
  let preExitCount ← openingExitCount input imported
  let credited ← applyDepositCreditsV5 externals.keccak256 input imported
  let decoded ← decodeBatch externals input ∅
  let policy ← (ExecutionPolicyV4.fromV5 externals.toPrimitives input.policy
    (executionPolicyHashV5 externals.keccak256 input.policy) decoded.2 credited
    (!input.rosterChanges.isEmpty)).mapError .certifiedPolicy
  let prepared ← (credited.installPreparedRuntimeCode externals.toPrimitives
    policy.codeHashes).mapError .certifiedPolicy
  let preparedRoot ← roomStateRootV5 externals.toPrimitives prepared.1
    input.policy.stateCommitment
  pure {
    opening := opening
    imported := imported
    preExitCount := preExitCount
    credited := credited
    decoded := decoded.1
    callers := decoded.2
    policy := policy
    prepared := prepared.1
    preparedRoot := preparedRoot }

/-- The terminal state, the participants, each record, and the exits. -/
def settleUnbooked (input : BatchInputV5) (opened : OpenedBatch) (closed : BatchProgress) :
    Except StfError Unit := do
  let journal := input.journal
  (opened.policy.validatePostState externals.toPrimitives opened.prepared.storageSnapshot
    closed.state).mapError .certifiedPolicy
  refuse (closed.currentRoot ≠ journal.postStateRoot)
    (.longLivedRoom "terminal state or approved batch-data commitment differs")
  let participants ← participantStateV5 input closed.state
  refuse (participants ≠ ⟨journal.postParticipantRoot, journal.postParticipantEpoch,
      journal.postParticipantCount, journal.participantCapacity⟩)
    (.longLivedRoom "terminal participant registry differs from the journal")
  forEach input.admissions.zipIdx (validateAdmission externals input closed.executed)
  forEach input.forcedTransactions.zipIdx
    (validateForced externals journal closed.executed opened.policy closed.state)
  validateExitV5 externals.keccak256 input opened.preExitCount closed.state

def runUnbooked (input : BatchInputV5) : Except StfError (OpenedBatch × BatchProgress) := do
  let opened ← openUnbooked externals input
  let closed ← executeBlocks externals input opened
  settleUnbooked externals input opened closed
  pure (opened, closed)

variable {externals} {input : BatchInputV5}

theorem checkBatchIdentity_eq_unbooked (books : Bookkeeping externals.keccak256 input) :
    checkBatchIdentity externals input = checkIdentityUnbooked externals input := by
  refine bind_congr fun _ => bind_congr fun _ => bind_eq_self ?_
  exact bind_of_eq_ok (orRefuse_eq_ok.mpr books.range) (refuse_eq_ok.mpr (not_not.mpr rfl))

theorem validateLiabilitiesV5_eq_ledger (books : Bookkeeping externals.keccak256 input) :
    validateLiabilitiesV5 externals.keccak256 input = validateLedger input := by
  rw [validateLiabilitiesV5, liabilityTotals, validateLedger]
  simp only [bind_assoc]
  refine bind_congr fun _ => ?_
  rw [refuse_congr (Iff.intro (fun differ => (differ.resolve_left (not_not.mpr
    books.preLiabilities)).resolve_left (not_not.mpr books.postLiabilities)) fun differ =>
      .inr (.inr differ))]
  refine bind_congr fun _ => refuse_bind_of_not (not_not.mpr books.inboxRecords) ?_
  refine bind_congr fun deposits => bind_of_eq_ok (orRefuse_eq_ok.mpr books.inboxCursor) ?_
  refine refuse_bind_of_not (not_not.mpr rfl) (bind_congr fun withdrawals => ?_)
  refine bind_of_eq_ok (orRefuse_eq_ok.mpr books.withdrawalRoot) ?_
  exact refuse_bind_of_not (not_not.mpr rfl) rfl

theorem verifyAndApplyImportV5_eq_unbooked (books : Bookkeeping externals.keccak256 input)
    (state : StateMap) : verifyAndApplyImportV5 externals.toPrimitives input state =
      input.l1Import.elim (.ok state) (applyImportUnbooked externals input state) := by
  unfold verifyAndApplyImportV5
  cases present : input.l1Import with
  | none => exact bind_of_eq_ok (books.noImport present) rfl
  | some l1Import =>
    obtain ⟨cursor, block, header, root, importRoot⟩ := books.l1Import l1Import present
    show applyImport externals.toPrimitives input state l1Import = applyImportUnbooked ..
    rw [applyImport, applyImportUnbooked, checkImportMetadata]
    simp only [bind_assoc, cursor, block, header, root, importRoot, ne_eq, not_true_eq_false,
      false_or]

theorem openBatch_eq_unbooked (books : Bookkeeping externals.keccak256 input) :
    openBatch externals input = openUnbooked externals input := by
  rw [openBatch, openUnbooked, checkBatchIdentity_eq_unbooked books,
    validateLiabilitiesV5_eq_ledger books, books.policy]
  refine bind_congr fun _ => bind_of_eq_ok books.roster (bind_congr fun _ => ?_)
  refine bind_congr fun opening => ?_
  rw [verifyAndApplyImportV5_eq_unbooked books]

theorem validateAdmissionsV5_eq_unbooked (books : Bookkeeping externals.keccak256 input)
    (executed : ExecutedBlocks) (policy : ExecutionPolicyV4) (terminal : StateMap) :
    validateAdmissionsV5 externals input executed policy terminal = (do
      forEach input.admissions.zipIdx (validateAdmission externals input executed)
      forEach input.forcedTransactions.zipIdx
        (validateForced externals input.journal executed policy terminal)) := by
  obtain ⟨admissionCount, admissionCursor, admissions⟩ := books.admissionCursor
  obtain ⟨forcedCount, forcedCursor, forced⟩ := books.forcedCursor
  refine bind_of_eq_ok (orRefuse_eq_ok.mpr admissionCursor) ?_
  refine refuse_bind_of_not ?_ ?_
  · simp [admissions, books.admissionRecords]
  refine bind_of_eq_ok (orRefuse_eq_ok.mpr forcedCursor) ?_
  refine refuse_bind_of_not ?_ ?_
  · simp [forced, books.forcedOutcomes]
  have mixed : ¬ input.journal.authorizationMode = 0 := by
    rw [books.validityOnly]
    decide
  rw [if_neg mixed, if_pos books.validityOnly, validateOperatorRecords]
  refine refuse_bind_of_not ?_ rfl
  simp [books.canonicalData, books.canonicalDataHash]

theorem settleBatch_eq_unbooked (books : Bookkeeping externals.keccak256 input)
    (opened : OpenedBatch) (closed : BatchProgress) :
    settleBatch externals input opened closed = settleUnbooked externals input opened closed := by
  rw [settleBatch, settleUnbooked]
  simp only [validateAdmissionsV5_eq_unbooked books, books.batchData, bind_assoc, ne_eq,
    not_true_eq_false, or_false]

theorem runBatch_eq_unbooked (books : Bookkeeping externals.keccak256 input) :
    runBatch externals input = runUnbooked externals input := by
  rw [runBatch, runUnbooked, openBatch_eq_unbooked books]
  refine bind_congr fun opened => bind_congr fun closed => ?_
  rw [settleBatch_eq_unbooked books]

end Unbooked

/-- A prepared batch satisfies everything the guest can compare its journal with by itself:
the guest's run is its run without those comparisons. -/
theorem prepareInput_keeps_books (externals : Externals) (ecdsa : EcdsaLibrary)
    (request : LiveBatchPrepareRequestV1) (input : BatchInputV5)
    (prepared : prepareInput externals.keccak256 ecdsa request = .ok input) :
    Bookkeeping externals.keccak256 input ∧
      executeBatchV5 externals input =
        (runUnbooked externals input).map fun _ => input.journal := by
  have books := bookkeeping_of_prepareInput prepared
  refine ⟨books, ?_⟩
  rw [executeBatchV5, executeBatchV5WithReport, runBatch_eq_unbooked books]
  cases runUnbooked externals input with
  | error failure => rfl
  | ok stages => rfl

/-- A library in which every signature is by one key. -/
def sampleEcdsa : EcdsaLibrary where
  Signature := Bytes
  fromSlice := some
  normalizeS _ := none
  recoverFromPrehash _ _ _ := some [4, 1, 2, 3]

def sampleLiveOpening : LiveOpeningV1 :=
  { (default : LiveOpeningV1) with
    roomState := 1, deploymentDomain := 1, eip712DomainSeparator := 1, roomId := 1,
    authorizationMode := 1, coldTemplateId := 1, proofProgramId := 1, proofSystemVersion := 1,
    policyHash := executionPolicyHashV5 sampleDigest samplePolicy, stateRoot := 1,
    participantRoot := 1, participantEpoch := 1, participantCapacity := 128, batchIndex := 3,
    l2BlockHeight := 8, inboxCursor := 4, admissionCursor := 2, importCursor := 1,
    maximumAdmissionWindow := 50, admissionSigner := (sampleDigest [1, 2, 3]).setWidth 160,
    liabilitiesHash := liabilitiesHashV5 sampleDigest [⟨7, 1, 10, 0, 0⟩],
    observedL1Block := 100 }

/-- Two blocks with a deposit, an admission, an import and a withdrawal. -/
def sampleLiveRequest : LiveBatchPrepareRequestV1 :=
  { (default : LiveBatchPrepareRequestV1) with
    schemaVersion := 1, production := true, proofMode := "groth16", l1ChainId := 1,
    opening := sampleLiveOpening,
    closing := ⟨1, 1, 2, 120, false⟩,
    policy := samplePolicy,
    admissions := [{ (default : AdmissionRecordV5) with
      receipt := { (default : AdmissionReceiptV5) with
        admissionId := 3, deadlineBlock := 130, maximumBatchIndex := 9,
        signature := List.replicate 65 0 } }],
    preLiabilities := [⟨7, 1, 10, 0, 0⟩],
    postLiabilities := [⟨7, 0, 10, 1, 0⟩],
    deposits := [{ (default : DepositV5) with inboxId := 5, asset := 7, amount := 1 }],
    withdrawals := [⟨0, 0, 3, 7, 1⟩],
    withdrawalCapacity := 1,
    l1Import := some default,
    blocks := [sampleBlock 9 [], { sampleBlock 10 [] with expectedPostStateRoot := 5 }] }

/-- The sample request is prepared. -/
theorem prepareInput_keeps_books_sample :
    ∃ input, prepareInput sampleDigest sampleEcdsa sampleLiveRequest = .ok input ∧
      Bookkeeping sampleDigest input ∧
      executeBatchV5 sampleExternals input =
        (runUnbooked sampleExternals input).map fun _ => input.journal := by
  have accepted : (prepareInput sampleDigest sampleEcdsa sampleLiveRequest).toOption.isSome =
      true := by decide +kernel
  obtain ⟨input, prepared⟩ := exists_eq_ok_of_isSome accepted
  obtain ⟨books, same⟩ :=
    prepareInput_keeps_books sampleExternals sampleEcdsa sampleLiveRequest input prepared
  exact ⟨input, prepared, books, same⟩

end Zkdeal

/-
This file models the public JSON form of the settlement journals and proves that it is
read back: the journal that a verifier recomputes the statement from is the journal
that was written, up to two lists the statement does not cover.

Every field has one key and one of three forms, a number, decimal text or a word in
hexadecimal. The keys of a record are distinct, so each key is answered with the field
that was written under it.
-/

import Zkdeal.JsonScalars
import Zkdeal.Settlement.ColdState

namespace Zkdeal

open Words Guard

/-! ### Statements -/

section Statements

variable (keccak256 : Bytes → B256)

def hashBatchJournalV4 (journal : BatchJournalV4) : B256 :=
  hashWords keccak256
    [b256Word (keccak256 (ascii ("BatchJournalV4(uint256 protocolVersion," ++
        "bytes32 deploymentDomain,uint256 roomId,bytes32 presetHash,bytes32 manifestHash," ++
        "bytes32 proofProgramId,uint64 batchIndex,uint64 startL2Block,uint64 endL2Block," ++
        "uint64 previousBlockTimestamp,uint64 finalBlockTimestamp,bytes32 preStateRoot," ++
        "bytes32 postStateRoot,bytes32 blockRootsHash,bytes32 preRosterRoot," ++
        "bytes32 postRosterRoot,uint8 preActiveMask,uint8 postActiveMask,uint8 usedMask," ++
        "uint64 inboxCursorBefore,uint64 inboxCursorAfter,bytes32 inboxInputsHash," ++
        "bytes32 batchDataHash,bytes32 assetTotalsHash,bytes32 exitTotalsHash," ++
        "bytes32 feeTotalsHash,bytes32 membershipDeltasHash,bytes32 previousExitRoot," ++
        "bytes32 exitRoot,bool close,uint64 l1InclusionDeadline)"))),
      u8Word journal.v, b256Word journal.deploymentId, u256Word journal.roomId,
      b256Word journal.presetHash, b256Word journal.manifestHash,
      b256Word journal.proofProgramId, u256Word journal.batchIndex,
      u256Word journal.l2StartHeight, u256Word journal.l2EndHeight,
      u256Word journal.previousBlockTimestamp, u256Word journal.finalBlockTimestamp,
      b256Word journal.prevStateRoot, b256Word journal.postStateRoot,
      b256Word journal.blockRootsHash, b256Word journal.preRosterRoot,
      b256Word journal.postRosterRoot, u8Word journal.activeMask,
      u8Word journal.postActiveMask, u8Word journal.usedMask, u256Word journal.inboxStart,
      u256Word journal.inboxEnd, b256Word journal.inboxInputsHash,
      b256Word journal.blockDataHash, b256Word journal.assetTotalsHash,
      b256Word journal.exitTotalsHash, b256Word journal.feeTotalsHash,
      b256Word journal.membershipDeltasHash, b256Word journal.previousExitRoot,
      b256Word journal.exitRoot, boolWord journal.close,
      u256Word journal.l1InclusionDeadline]

def hashGenesisJournalV4 (journal : GenesisJournalV4) : B256 :=
  hashWords keccak256
    [b256Word (keccak256 (ascii ("GenesisJournalV4(uint256 protocolVersion," ++
        "bytes32 deploymentDomain,uint256 roomId,bytes32 configHash,bytes32 presetHash," ++
        "bytes32 manifestHash,bytes32 proofProgramId,uint64 l1BlockNumber," ++
        "bytes32 l1BlockHash,bytes32 l1StateRoot,bytes32 genesisStateRoot," ++
        "bytes32 genesisRosterRoot,bytes32 genesisExitRoot,uint8 activeMask,uint8 usedMask," ++
        "uint64 inboxCursor,bytes32 assetTotalsHash,bytes32 exitTotalsHash," ++
        "bytes32 feeTotalsHash,uint64 l1InclusionDeadline)"))),
      u8Word journal.v, b256Word journal.deploymentId, u256Word journal.roomId,
      b256Word journal.configHash, b256Word journal.presetHash,
      b256Word journal.manifestHash, b256Word journal.proofProgramId,
      u256Word journal.l1BlockNumber, b256Word journal.l1BlockHash,
      b256Word journal.l1StateRoot, b256Word journal.genesisStateRoot,
      b256Word journal.genesisRosterRoot, b256Word journal.genesisExitRoot,
      u8Word journal.activeMask, u8Word journal.usedMask, u256Word journal.inboxCursor,
      b256Word journal.assetTotalsHash, b256Word journal.exitTotalsHash,
      b256Word journal.feeTotalsHash, u256Word journal.l1InclusionDeadline]

end Statements

/-! ### Readers -/

section Readers

def parseBlockJournalV4 (entry : Json.Value × Nat) : Except String BatchBlockJournalV4 := do
  let label := "blocks[" ++ entry.2.repr ++ "]"
  let block ← orRefuse entry.1.asObject? ("batch journal " ++ label ++ ": not an object")
  let blockNumber ← getU64 block "blockNumber" (label ++ ".blockNumber")
  let postStateRoot ← getB32 block "postStateRoot" (label ++ ".postStateRoot")
  let txCommitment ← getB32 block "txCommitment" (label ++ ".txCommitment")
  let envHash ← getB32 block "envHash" (label ++ ".envHash")
  pure ⟨blockNumber, postStateRoot, txCommitment, envHash⟩

/-- The journal after its text was read. -/
def parseBatchJournalV4 (root : Json.Value) : Except String BatchJournalV4 := do
  let obj ← orRefuse root.asObject? "batch journal: not an object"
  let version ← getU64 obj "protocolVersion" "protocolVersion"
  refuse (version ≠ 4) ("batch journal protocolVersion " ++ version.toNat.repr ++ " != 4")
  let active ← getU64 obj "preActiveMask" "preActiveMask"
  let postActive ← getU64 obj "postActiveMask" "postActiveMask"
  let used ← getU64 obj "usedMask" "usedMask"
  refuse (255 < active ∨ 255 < postActive ∨ 255 < used) "batch journal roster mask exceeds u8"
  let values ← orRefuse (← getEntry obj "blocks").asArray? "batch journal blocks: not an array"
  let blocks ← values.zipIdx.mapM parseBlockJournalV4
  let deploymentId ← getB32 obj "deploymentDomain" "deploymentDomain"
  let roomId ← getU64 obj "roomId" "roomId"
  let presetHash ← getB32 obj "presetHash" "presetHash"
  let manifestHash ← getB32 obj "manifestHash" "manifestHash"
  let proofProgramId ← getB32 obj "proofProgramId" "proofProgramId"
  let batchIndex ← getU64 obj "batchIndex" "batchIndex"
  let l2StartHeight ← getU64 obj "startL2Block" "startL2Block"
  let l2EndHeight ← getU64 obj "endL2Block" "endL2Block"
  let previousBlockTimestamp ← getU64 obj "previousBlockTimestamp" "previousBlockTimestamp"
  let finalBlockTimestamp ← getU64 obj "finalBlockTimestamp" "finalBlockTimestamp"
  let prevStateRoot ← getB32 obj "preStateRoot" "preStateRoot"
  let postStateRoot ← getB32 obj "postStateRoot" "postStateRoot"
  let blockRootsHash ← getB32 obj "blockRootsHash" "blockRootsHash"
  let preRosterRoot ← getB32 obj "preRosterRoot" "preRosterRoot"
  let postRosterRoot ← getB32 obj "postRosterRoot" "postRosterRoot"
  let inboxStart ← getU64 obj "inboxCursorBefore" "inboxCursorBefore"
  let inboxEnd ← getU64 obj "inboxCursorAfter" "inboxCursorAfter"
  let inboxInputsHash ← getB32 obj "inboxInputsHash" "inboxInputsHash"
  let blockDataHash ← getB32 obj "batchDataHash" "batchDataHash"
  let assetTotalsHash ← getB32 obj "assetTotalsHash" "assetTotalsHash"
  let exitTotalsHash ← getB32 obj "exitTotalsHash" "exitTotalsHash"
  let feeTotalsHash ← getB32 obj "feeTotalsHash" "feeTotalsHash"
  let membershipDeltasHash ← getB32 obj "membershipDeltasHash" "membershipDeltasHash"
  let previousExitRoot ← getB32 obj "previousExitRoot" "previousExitRoot"
  let exitRoot ← getB32 obj "exitRoot" "exitRoot"
  let close ← orRefuse (← getEntry obj "close").asBool? "close: not a bool"
  let l1InclusionDeadline ← getU64 obj "l1InclusionDeadline" "l1InclusionDeadline"
  pure
    { v := version.setWidth 8, deploymentId, roomId, presetHash, manifestHash, proofProgramId,
      batchIndex, l2StartHeight, l2EndHeight, previousBlockTimestamp, finalBlockTimestamp,
      prevStateRoot, postStateRoot, blockRootsHash, blocks, preRosterRoot, postRosterRoot,
      activeMask := active.setWidth 8, postActiveMask := postActive.setWidth 8,
      usedMask := used.setWidth 8, inboxStart, inboxEnd, inboxInputsHash, blockDataHash,
      assetTotalsHash, exitTotalsHash, feeTotalsHash, membershipDeltasHash, previousExitRoot,
      exitRoot, close, l1InclusionDeadline, exitAllocations := [], assetAccounting := [] }

/-- The opening journal after its text was read. -/
def parseGenesisJournalV4 (root : Json.Value) : Except String GenesisJournalV4 := do
  let obj ← orRefuse root.asObject? "genesis journal: not an object"
  let version ← getU64 obj "protocolVersion" "protocolVersion"
  let active ← getU64 obj "activeMask" "activeMask"
  let used ← getU64 obj "usedMask" "usedMask"
  refuse (version ≠ 4 ∨ 255 < active ∨ 255 < used)
    "invalid genesis journal version or roster mask"
  let deploymentId ← getB32 obj "deploymentDomain" "deploymentDomain"
  let roomId ← getU64 obj "roomId" "roomId"
  let configHash ← getB32 obj "configHash" "configHash"
  let presetHash ← getB32 obj "presetHash" "presetHash"
  let manifestHash ← getB32 obj "manifestHash" "manifestHash"
  let proofProgramId ← getB32 obj "proofProgramId" "proofProgramId"
  let l1BlockNumber ← getU64 obj "l1BlockNumber" "l1BlockNumber"
  let l1BlockHash ← getB32 obj "l1BlockHash" "l1BlockHash"
  let l1StateRoot ← getB32 obj "l1StateRoot" "l1StateRoot"
  let genesisStateRoot ← getB32 obj "genesisStateRoot" "genesisStateRoot"
  let genesisRosterRoot ← getB32 obj "genesisRosterRoot" "genesisRosterRoot"
  let genesisExitRoot ← getB32 obj "genesisExitRoot" "genesisExitRoot"
  let inboxCursor ← getU64 obj "inboxCursor" "inboxCursor"
  let assetTotalsHash ← getB32 obj "assetTotalsHash" "assetTotalsHash"
  let exitTotalsHash ← getB32 obj "exitTotalsHash" "exitTotalsHash"
  let feeTotalsHash ← getB32 obj "feeTotalsHash" "feeTotalsHash"
  let l1InclusionDeadline ← getU64 obj "l1InclusionDeadline" "l1InclusionDeadline"
  pure
    { v := version.setWidth 8, deploymentId, roomId, configHash, presetHash, manifestHash,
      proofProgramId, l1BlockNumber, l1BlockHash, l1StateRoot, genesisStateRoot,
      genesisRosterRoot, genesisExitRoot, activeMask := active.setWidth 8,
      usedMask := used.setWidth 8, inboxCursor, assetTotalsHash, exitTotalsHash, feeTotalsHash,
      l1InclusionDeadline, exitAllocations := [], assetAccounting := [] }

variable (library : TextLibrary)

def parseBatchJournalJsonV4 (journalJson : String) : Except String BatchJournalV4 := do
  let root ← (library.fromStr journalJson).mapError ("journal JSON: " ++ ·)
  parseBatchJournalV4 root

def parseGenesisJournalJsonV4 (journalJson : String) : Except String GenesisJournalV4 := do
  let root ← (library.fromStr journalJson).mapError ("journal JSON: " ++ ·)
  parseGenesisJournalV4 root

end Readers

/-! ### Writers -/

/-- A byte as a number. -/
def byteNumber (value : U8) : Json.Value := .number (some (value.setWidth 64))

def blockFields (block : BatchBlockJournalV4) : Json.Entries :=
  [("blockNumber", decimal block.blockNumber), ("postStateRoot", hexWord block.postStateRoot),
    ("txCommitment", hexWord block.txCommitment), ("envHash", hexWord block.envHash)]

def allocationFields (allocation : ExitAllocationV4) : Json.Entries :=
  [("slot", byteNumber allocation.slot), ("assetId", byteNumber allocation.assetId),
    ("recipient", .string (hex0x (wordBytes 20 allocation.recipient))),
    ("amount", decimal allocation.amount)]

def accountingFields (accounting : AssetAccountingV4) : Json.Entries :=
  [("assetId", byteNumber accounting.assetId), ("total", decimal accounting.total),
    ("exitTotal", decimal accounting.exitTotal), ("feeTotal", decimal accounting.feeTotal)]

/-- A list of records. -/
def recordArray {Record : Type} (fields : Record → Json.Entries) (records : List Record) :
    Json.Value :=
  .array (records.map fun record => .object (Json.ofFields (fields record)))

def batchJournalFields (j : BatchJournalV4) : Json.Entries :=
  [("protocolVersion", byteNumber j.v), ("deploymentDomain", hexWord j.deploymentId),
    ("roomId", decimal j.roomId), ("presetHash", hexWord j.presetHash),
    ("manifestHash", hexWord j.manifestHash), ("proofProgramId", hexWord j.proofProgramId),
    ("batchIndex", decimal j.batchIndex), ("startL2Block", decimal j.l2StartHeight),
    ("endL2Block", decimal j.l2EndHeight),
    ("previousBlockTimestamp", decimal j.previousBlockTimestamp),
    ("finalBlockTimestamp", decimal j.finalBlockTimestamp),
    ("preStateRoot", hexWord j.prevStateRoot), ("postStateRoot", hexWord j.postStateRoot),
    ("blockRootsHash", hexWord j.blockRootsHash), ("blocks", recordArray blockFields j.blocks),
    ("preRosterRoot", hexWord j.preRosterRoot), ("postRosterRoot", hexWord j.postRosterRoot),
    ("preActiveMask", byteNumber j.activeMask), ("postActiveMask", byteNumber j.postActiveMask),
    ("usedMask", byteNumber j.usedMask), ("inboxCursorBefore", decimal j.inboxStart),
    ("inboxCursorAfter", decimal j.inboxEnd), ("inboxInputsHash", hexWord j.inboxInputsHash),
    ("batchDataHash", hexWord j.blockDataHash), ("assetTotalsHash", hexWord j.assetTotalsHash),
    ("exitTotalsHash", hexWord j.exitTotalsHash), ("feeTotalsHash", hexWord j.feeTotalsHash),
    ("membershipDeltasHash", hexWord j.membershipDeltasHash),
    ("previousExitRoot", hexWord j.previousExitRoot), ("exitRoot", hexWord j.exitRoot),
    ("close", .bool j.close), ("l1InclusionDeadline", decimal j.l1InclusionDeadline),
    ("exitAllocations", recordArray allocationFields j.exitAllocations),
    ("assetAccounting", recordArray accountingFields j.assetAccounting)]

def batchJournalToTsValueV4 (j : BatchJournalV4) : Json.Value :=
  .object (Json.ofFields (batchJournalFields j))

def genesisJournalFields (j : GenesisJournalV4) : Json.Entries :=
  [("protocolVersion", byteNumber j.v), ("deploymentDomain", hexWord j.deploymentId),
    ("roomId", decimal j.roomId), ("configHash", hexWord j.configHash),
    ("presetHash", hexWord j.presetHash), ("manifestHash", hexWord j.manifestHash),
    ("proofProgramId", hexWord j.proofProgramId), ("l1BlockNumber", decimal j.l1BlockNumber),
    ("l1BlockHash", hexWord j.l1BlockHash), ("l1StateRoot", hexWord j.l1StateRoot),
    ("genesisStateRoot", hexWord j.genesisStateRoot),
    ("genesisRosterRoot", hexWord j.genesisRosterRoot),
    ("genesisExitRoot", hexWord j.genesisExitRoot), ("activeMask", byteNumber j.activeMask),
    ("usedMask", byteNumber j.usedMask), ("inboxCursor", decimal j.inboxCursor),
    ("assetTotalsHash", hexWord j.assetTotalsHash), ("exitTotalsHash", hexWord j.exitTotalsHash),
    ("feeTotalsHash", hexWord j.feeTotalsHash),
    ("l1InclusionDeadline", decimal j.l1InclusionDeadline),
    ("exitAllocations", recordArray allocationFields j.exitAllocations),
    ("assetAccounting", recordArray accountingFields j.assetAccounting)]

def genesisJournalToTsValueV4 (j : GenesisJournalV4) : Json.Value :=
  .object (Json.ofFields (genesisJournalFields j))

/-! ### Read back -/

section ReadBack

theorem nodup_batchJournalFields (j : BatchJournalV4) :
    ((batchJournalFields j).map Prod.fst).Nodup := by
  simp only [batchJournalFields, List.map_cons, List.map_nil]
  decide +kernel

theorem nodup_genesisJournalFields (j : GenesisJournalV4) :
    ((genesisJournalFields j).map Prod.fst).Nodup := by
  simp only [genesisJournalFields, List.map_cons, List.map_nil]
  decide +kernel

theorem setWidth_byte (value : U8) : (value.setWidth 64).setWidth 8 = value := by
  rw [BitVec.setWidth_setWidth_of_le _ (by decide), BitVec.setWidth_eq]

theorem not_lt_setWidth_byte (value : U8) : ¬ (255 : U64) < value.setWidth 64 := by
  have bound := value.isLt
  rw [BitVec.lt_def, BitVec.toNat_setWidth_of_le (by decide)]
  show ¬ 255 < value.toNat
  omega

theorem parseBlockJournalV4_written (block : BatchBlockJournalV4) (index : Nat) :
    parseBlockJournalV4 (.object (Json.ofFields (blockFields block)), index) = .ok block := by
  have distinct : ((blockFields block).map Prod.fst).Nodup := by
    show ["blockNumber", "postStateRoot", "txCommitment", "envHash"].Nodup
    decide
  have under := @Json.get?_ofFields_of_getElem? _ distinct
  rw [parseBlockJournalV4]
  refine bind_eq_ok.mpr ⟨_, rfl, bind_eq_ok.mpr ⟨_, getU64_decimal (under 0 rfl) _, ?_⟩⟩
  refine bind_eq_ok.mpr ⟨_, getB32_hexWord (under 1 rfl) _, ?_⟩
  refine bind_eq_ok.mpr ⟨_, getB32_hexWord (under 2 rfl) _, ?_⟩
  refine bind_eq_ok.mpr ⟨_, getB32_hexWord (under 3 rfl) _, ?_⟩
  rfl

theorem mapM_blocks_written (blocks : List BatchBlockJournalV4) (start : Nat) :
    ((blocks.map fun block => Json.Value.object (Json.ofFields (blockFields block))).zipIdx
      start).mapM parseBlockJournalV4 = .ok blocks := by
  induction blocks generalizing start with
  | nil => rfl
  | cons block rest inductionHypothesis =>
    rw [List.map_cons, List.zipIdx_cons, List.mapM_cons, parseBlockJournalV4_written]
    refine bind_eq_ok.mpr ⟨_, rfl, bind_eq_ok.mpr ⟨_, inductionHypothesis _, rfl⟩⟩

theorem parseBatchJournalV4_written (j : BatchJournalV4) (version : j.v = 4) :
    parseBatchJournalV4 (batchJournalToTsValueV4 j) =
      .ok { j with exitAllocations := [], assetAccounting := [] } := by
  have under := @Json.get?_ofFields_of_getElem? _ (nodup_batchJournalFields j)
  have current : ¬ j.v.setWidth 64 ≠ (4 : U64) := not_not.mpr (version ▸ rfl)
  have small : ¬ (255 < j.activeMask.setWidth 64 ∨ 255 < j.postActiveMask.setWidth 64 ∨
      255 < j.usedMask.setWidth 64) := by
    rintro (large | large | large)
    · exact not_lt_setWidth_byte _ large
    · exact not_lt_setWidth_byte _ large
    · exact not_lt_setWidth_byte _ large
  have blocks : getEntry (Json.ofFields (batchJournalFields j)) "blocks" =
      .ok (recordArray blockFields j.blocks) := orRefuse_eq_ok.mpr (under 14 rfl)
  have close : getEntry (Json.ofFields (batchJournalFields j)) "close" = .ok (.bool j.close) :=
    orRefuse_eq_ok.mpr (under 30 rfl)
  rw [parseBatchJournalV4]
  refine bind_eq_ok.mpr ⟨_, rfl, bind_eq_ok.mpr ⟨_, getU64_number (under 0 rfl) _, ?_⟩⟩
  refine refuse_bind_eq_ok.mpr ⟨current, ?_⟩
  refine bind_eq_ok.mpr ⟨_, getU64_number (under 17 rfl) _, ?_⟩
  refine bind_eq_ok.mpr ⟨_, getU64_number (under 18 rfl) _, ?_⟩
  refine bind_eq_ok.mpr ⟨_, getU64_number (under 19 rfl) _, ?_⟩
  refine refuse_bind_eq_ok.mpr ⟨small, ?_⟩
  refine bind_eq_ok.mpr ⟨_, blocks, bind_eq_ok.mpr ⟨_, rfl, ?_⟩⟩
  refine bind_eq_ok.mpr ⟨_, mapM_blocks_written j.blocks 0, ?_⟩
  refine bind_eq_ok.mpr ⟨_, getB32_hexWord (under 1 rfl) _, ?_⟩
  refine bind_eq_ok.mpr ⟨_, getU64_decimal (under 2 rfl) _, ?_⟩
  refine bind_eq_ok.mpr ⟨_, getB32_hexWord (under 3 rfl) _, ?_⟩
  refine bind_eq_ok.mpr ⟨_, getB32_hexWord (under 4 rfl) _, ?_⟩
  refine bind_eq_ok.mpr ⟨_, getB32_hexWord (under 5 rfl) _, ?_⟩
  refine bind_eq_ok.mpr ⟨_, getU64_decimal (under 6 rfl) _, ?_⟩
  refine bind_eq_ok.mpr ⟨_, getU64_decimal (under 7 rfl) _, ?_⟩
  refine bind_eq_ok.mpr ⟨_, getU64_decimal (under 8 rfl) _, ?_⟩
  refine bind_eq_ok.mpr ⟨_, getU64_decimal (under 9 rfl) _, ?_⟩
  refine bind_eq_ok.mpr ⟨_, getU64_decimal (under 10 rfl) _, ?_⟩
  refine bind_eq_ok.mpr ⟨_, getB32_hexWord (under 11 rfl) _, ?_⟩
  refine bind_eq_ok.mpr ⟨_, getB32_hexWord (under 12 rfl) _, ?_⟩
  refine bind_eq_ok.mpr ⟨_, getB32_hexWord (under 13 rfl) _, ?_⟩
  refine bind_eq_ok.mpr ⟨_, getB32_hexWord (under 15 rfl) _, ?_⟩
  refine bind_eq_ok.mpr ⟨_, getB32_hexWord (under 16 rfl) _, ?_⟩
  refine bind_eq_ok.mpr ⟨_, getU64_decimal (under 20 rfl) _, ?_⟩
  refine bind_eq_ok.mpr ⟨_, getU64_decimal (under 21 rfl) _, ?_⟩
  refine bind_eq_ok.mpr ⟨_, getB32_hexWord (under 22 rfl) _, ?_⟩
  refine bind_eq_ok.mpr ⟨_, getB32_hexWord (under 23 rfl) _, ?_⟩
  refine bind_eq_ok.mpr ⟨_, getB32_hexWord (under 24 rfl) _, ?_⟩
  refine bind_eq_ok.mpr ⟨_, getB32_hexWord (under 25 rfl) _, ?_⟩
  refine bind_eq_ok.mpr ⟨_, getB32_hexWord (under 26 rfl) _, ?_⟩
  refine bind_eq_ok.mpr ⟨_, getB32_hexWord (under 27 rfl) _, ?_⟩
  refine bind_eq_ok.mpr ⟨_, getB32_hexWord (under 28 rfl) _, ?_⟩
  refine bind_eq_ok.mpr ⟨_, getB32_hexWord (under 29 rfl) _, ?_⟩
  refine bind_eq_ok.mpr ⟨_, close, bind_eq_ok.mpr ⟨_, rfl, ?_⟩⟩
  refine bind_eq_ok.mpr ⟨_, getU64_decimal (under 31 rfl) _, pure_eq_ok.mpr ?_⟩
  rw [setWidth_byte, setWidth_byte, setWidth_byte, setWidth_byte]

theorem parseGenesisJournalV4_written (j : GenesisJournalV4) (version : j.v = 4) :
    parseGenesisJournalV4 (genesisJournalToTsValueV4 j) =
      .ok { j with exitAllocations := [], assetAccounting := [] } := by
  have under := @Json.get?_ofFields_of_getElem? _ (nodup_genesisJournalFields j)
  have small : ¬ (j.v.setWidth 64 ≠ 4 ∨ 255 < j.activeMask.setWidth 64 ∨
      255 < j.usedMask.setWidth 64) := by
    rintro (other | large | large)
    · exact other (version ▸ rfl)
    · exact not_lt_setWidth_byte _ large
    · exact not_lt_setWidth_byte _ large
  rw [parseGenesisJournalV4]
  refine bind_eq_ok.mpr ⟨_, rfl, bind_eq_ok.mpr ⟨_, getU64_number (under 0 rfl) _, ?_⟩⟩
  refine bind_eq_ok.mpr ⟨_, getU64_number (under 13 rfl) _, ?_⟩
  refine bind_eq_ok.mpr ⟨_, getU64_number (under 14 rfl) _, ?_⟩
  refine refuse_bind_eq_ok.mpr ⟨small, ?_⟩
  refine bind_eq_ok.mpr ⟨_, getB32_hexWord (under 1 rfl) _, ?_⟩
  refine bind_eq_ok.mpr ⟨_, getU64_decimal (under 2 rfl) _, ?_⟩
  refine bind_eq_ok.mpr ⟨_, getB32_hexWord (under 3 rfl) _, ?_⟩
  refine bind_eq_ok.mpr ⟨_, getB32_hexWord (under 4 rfl) _, ?_⟩
  refine bind_eq_ok.mpr ⟨_, getB32_hexWord (under 5 rfl) _, ?_⟩
  refine bind_eq_ok.mpr ⟨_, getB32_hexWord (under 6 rfl) _, ?_⟩
  refine bind_eq_ok.mpr ⟨_, getU64_decimal (under 7 rfl) _, ?_⟩
  refine bind_eq_ok.mpr ⟨_, getB32_hexWord (under 8 rfl) _, ?_⟩
  refine bind_eq_ok.mpr ⟨_, getB32_hexWord (under 9 rfl) _, ?_⟩
  refine bind_eq_ok.mpr ⟨_, getB32_hexWord (under 10 rfl) _, ?_⟩
  refine bind_eq_ok.mpr ⟨_, getB32_hexWord (under 11 rfl) _, ?_⟩
  refine bind_eq_ok.mpr ⟨_, getB32_hexWord (under 12 rfl) _, ?_⟩
  refine bind_eq_ok.mpr ⟨_, getU64_decimal (under 15 rfl) _, ?_⟩
  refine bind_eq_ok.mpr ⟨_, getB32_hexWord (under 16 rfl) _, ?_⟩
  refine bind_eq_ok.mpr ⟨_, getB32_hexWord (under 17 rfl) _, ?_⟩
  refine bind_eq_ok.mpr ⟨_, getB32_hexWord (under 18 rfl) _, ?_⟩
  refine bind_eq_ok.mpr ⟨_, getU64_decimal (under 19 rfl) _, pure_eq_ok.mpr ?_⟩
  rw [setWidth_byte, setWidth_byte, setWidth_byte]

end ReadBack

/-- A journal of the current version that is printed is read back without the two lists the
statement does not cover, and its statement is the same; and so for an opening journal. -/
theorem journal_json_round_trip (library : TextLibrary) (keccak256 : Bytes → B256) :
    (∀ journal : BatchJournalV4, journal.v = 4 →
      library.fromStr (library.toText (batchJournalToTsValueV4 journal)) =
        .ok (batchJournalToTsValueV4 journal) →
      ∃ read, parseBatchJournalJsonV4 library
          (library.toText (batchJournalToTsValueV4 journal)) = .ok read ∧
        read = { journal with exitAllocations := [], assetAccounting := [] } ∧
        hashBatchJournalV4 keccak256 read = hashBatchJournalV4 keccak256 journal) ∧
    ∀ journal : GenesisJournalV4, journal.v = 4 →
      library.fromStr (library.toText (genesisJournalToTsValueV4 journal)) =
        .ok (genesisJournalToTsValueV4 journal) →
      ∃ read, parseGenesisJournalJsonV4 library
          (library.toText (genesisJournalToTsValueV4 journal)) = .ok read ∧
        read = { journal with exitAllocations := [], assetAccounting := [] } ∧
        hashGenesisJournalV4 keccak256 read = hashGenesisJournalV4 keccak256 journal := by
  constructor
  · intro journal version inverse
    have parsed := parseBatchJournalV4_written journal version
    exact ⟨_, bind_eq_ok.mpr ⟨_, mapError_eq_ok.mpr inverse, parsed⟩, rfl, rfl⟩
  · intro journal version inverse
    have parsed := parseGenesisJournalV4_written journal version
    exact ⟨_, bind_eq_ok.mpr ⟨_, mapError_eq_ok.mpr inverse, parsed⟩, rfl, rfl⟩

def sampleJournalV4 : BatchJournalV4 :=
  { (default : BatchJournalV4) with
    v := 4, roomId := 7, activeMask := 255, close := true, postStateRoot := 0xabc,
    blocks := [⟨1, 2, 3, 4⟩, ⟨2, 3, 4, 5⟩], exitAllocations := [⟨1, 2, 3, 4⟩] }

def sampleGenesisJournalV4 : GenesisJournalV4 :=
  { (default : GenesisJournalV4) with
    v := 4, l1BlockNumber := 19, usedMask := 3, assetAccounting := [⟨1, 2, 3, 4⟩] }

/-- A journal of two blocks with an allocation, and an opening with a total. -/
theorem journal_json_round_trip_sample :
    (∃ read, parseBatchJournalJsonV4 sampleTexts
        (sampleTexts.toText (batchJournalToTsValueV4 sampleJournalV4)) = .ok read ∧
      read = { sampleJournalV4 with exitAllocations := [] }) ∧
    ∃ read, parseGenesisJournalJsonV4 sampleTexts
        (sampleTexts.toText (genesisJournalToTsValueV4 sampleGenesisJournalV4)) = .ok read ∧
      read = { sampleGenesisJournalV4 with assetAccounting := [] } := by
  obtain ⟨batches, openings⟩ := journal_json_round_trip sampleTexts fun _ => 0
  obtain ⟨batch, batchParsed, batchEq, -⟩ := batches sampleJournalV4 rfl (sampleTexts_reads _)
  obtain ⟨genesis, genesisParsed, genesisEq, -⟩ :=
    openings sampleGenesisJournalV4 rfl (sampleTexts_reads _)
  exact ⟨⟨batch, batchParsed, batchEq⟩, genesis, genesisParsed, genesisEq⟩

end Zkdeal

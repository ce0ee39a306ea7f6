/-
This file opens a seven-member room: the L1 header the opening is anchored in, the
fresh room-local state, the preset and roster it is checked under, and the settlement
the opening already commits to.

The opening runs the preset check that every batch runs, on an input it makes up for
the purpose, so it is this check that sees the roster.
-/

import Zkdeal.Compact
import Zkdeal.Settlement.Exit

namespace Zkdeal

open Words Guard

/-- An RLP item: a string, or a list of encoded items. -/
inductive PayloadView where
  | string (payload : Bytes)
  | list (items : List Bytes)

/-- The RLP reader. Both functions also hand back what is left behind the item. -/
structure RlpLibrary where
  decodeRaw : Bytes → Except Message (PayloadView × Bytes)
  decodeBytes : Bytes → Except Message (Bytes × Bytes)

section Genesis

variable (primitives : Primitives) (json : JsonLibrary) (rlp : RlpLibrary)

def decodeHeaderString (raw : Bytes) (label : String) : Except StfError Bytes := do
  let decoded ← (rlp.decodeBytes raw).mapError fun error =>
    .genesisAnchor (.text label :: .text ": invalid RLP: " :: error)
  refuse (decoded.2 ≠ []) (.genesisAnchor [.text label, .text ": trailing RLP bytes"])
  pure decoded.1

/-- The fields of the anchoring header. -/
def headerFields (input : GenesisInputV4) : Except StfError (List Bytes) := do
  refuse (input.l1BlockHash = 0 ∨ input.l1StateRoot = 0)
    (.genesisAnchor "block hash and state root must be non-zero")
  refuse (input.l1HeaderRlp = [] ∨ 2048 < input.l1HeaderRlp.length)
    (.genesisAnchor "header RLP length is outside 1..=2048")
  refuse (primitives.keccak256 input.l1HeaderRlp ≠ input.l1BlockHash)
    (.genesisAnchor "header RLP does not hash to l1BlockHash")
  let decoded ← (rlp.decodeRaw input.l1HeaderRlp).mapError fun error =>
    .genesisAnchor (.text "invalid header RLP: " :: error)
  refuse (decoded.2 ≠ []) (.genesisAnchor "header RLP has trailing bytes")
  match decoded.1 with
  | .string _ => .error (.genesisAnchor "Ethereum header must be an RLP list")
  | .list fields =>
    refuse (fields.length < 15) (.genesisAnchor "Ethereum header has fewer than 15 fields")
    pure fields

def verifyGenesisL1AnchorV4 (input : GenesisInputV4) : Except StfError Unit := do
  let fields ← headerFields primitives rlp input
  let stateRoot ← decodeHeaderString rlp (fields.getD 3 []) "header.stateRoot"
  refuse (stateRoot ≠ wordBytes 32 input.l1StateRoot)
    (.genesisAnchor "header stateRoot does not match l1StateRoot")
  let number ← decodeHeaderString rlp (fields.getD 8 []) "header.number"
  refuse (8 < number.length ∨ (1 < number.length ∧ number.head? = some 0))
    (.genesisAnchor "header number is not canonical uint64")
  refuse (ofBigEndian number ≠ input.l1BlockNumber.toNat)
    (.genesisAnchor "header number does not match l1BlockNumber")
  refuse (input.l1InclusionDeadline < input.l1BlockNumber)
    (.genesisAnchor "L1 anchor is after inclusion deadline")

/-- The batch input the preset check is given: the opening roster on both sides, and no
blocks. -/
def GenesisInputV4.policyInput (input : GenesisInputV4) : BatchInputV4 :=
  { (default : BatchInputV4) with
    encodedWitnessBytes := input.encodedWitnessBytes
    deploymentId := input.deploymentId
    roomId := input.roomId
    presetHash := input.presetHash
    manifestHash := input.manifestHash
    proofProgramId := input.proofProgramId
    preRosterRoot := input.genesisRosterRoot
    postRosterRoot := input.genesisRosterRoot
    activeMask := input.activeMask
    preUsedMask := input.usedMask
    postActiveMask := input.activeMask
    usedMask := input.usedMask
    canonicalPresetJson := input.canonicalPresetJson
    canonicalExitProgramJson := input.canonicalExitProgramJson
    preRosterSlots := input.rosterSlots
    postRosterSlots := input.rosterSlots
    compactState := input.compactState }

/-- The journal of an opening. -/
def GenesisInputV4.journal (input : GenesisInputV4) (genesisStateRoot : B256)
    (settlement : DerivedSettlementV4) : GenesisJournalV4 where
  v := batchJournalVersionV4
  deploymentId := input.deploymentId
  roomId := input.roomId
  configHash := input.configHash
  presetHash := input.presetHash
  manifestHash := input.manifestHash
  proofProgramId := input.proofProgramId
  l1BlockNumber := input.l1BlockNumber
  l1BlockHash := input.l1BlockHash
  l1StateRoot := input.l1StateRoot
  genesisStateRoot := genesisStateRoot
  genesisRosterRoot := input.genesisRosterRoot
  genesisExitRoot := input.genesisExitRoot
  activeMask := input.activeMask
  usedMask := input.usedMask
  inboxCursor := input.inboxCursor
  assetTotalsHash := settlement.assetTotalsHash
  exitTotalsHash := settlement.exitTotalsHash
  feeTotalsHash := settlement.feeTotalsHash
  l1InclusionDeadline := input.l1InclusionDeadline
  exitAllocations := settlement.exitAllocations
  assetAccounting := settlement.accounting

def executeGenesisV4 (input : GenesisInputV4) : Except StfError GenesisJournalV4 := do
  refuse (input.genesisStateRoot = 0) (.invalidBatch "genesis state root must be non-zero")
  refuse (input.compactState.canonicalStateRoot ≠ 0)
    (.compactWitness "room-local genesis state must not masquerade as an L1 multiproof")
  refuse (input.inboxCursor ≠ 0) (.invalidBatch "genesis inbox cursor must be zero")
  verifyGenesisL1AnchorV4 primitives rlp input
  refuse (input.activeMask &&& ~~~127 ≠ 0 ∨ input.usedMask &&& ~~~127 ≠ 0)
    (.invalidBatch "genesis member masks exceed seven slots")
  refuse (input.activeMask &&& ~~~input.usedMask ≠ 0)
    (.invalidBatch "genesis active slots must be a subset of used slots")
  let state ← verifyCompactStateV4 primitives input.compactState
  let computedRoot := state.stateRoot primitives
  refuse (computedRoot ≠ input.genesisStateRoot)
    (.compactWitness [.text "compact genesis root ", .digest computedRoot,
      .text " does not match journal root ", .digest input.genesisStateRoot])
  let policy ← (PresetPolicyV4.fromInput primitives json input.policyInput state).mapError
    .certifiedPolicy
  let exitProgram ← (ExitProgramV4.parse json primitives.keccak256
    input.canonicalExitProgramJson policy).mapError .settlement
  let settlement ← (deriveSettlementV4 primitives.keccak256 exitProgram state input.rosterSlots
    input.assetTotals input.residualAllocations input.deploymentId input.roomId).mapError
      .settlement
  refuse (settlement.assetTotalsHash ≠ input.assetTotalsHash ∨
      settlement.exitTotalsHash ≠ input.exitTotalsHash ∨
      settlement.feeTotalsHash ≠ input.feeTotalsHash ∨
      settlement.exitRoot ≠ input.genesisExitRoot)
    (.settlement "derived genesis accounting/root does not match expected public statement")
  pure (input.journal computedRoot settlement)

end Genesis

/-! ### An RLP reader to evaluate the model with -/

/-- Whether the first item is a list, the length of its header and of its payload. Only items
with a payload of less than fifty-six octets are read. -/
def sampleRlpHeader : Bytes → Except Message (Bool × Nat × Nat)
  | [] => .error "input too short"
  | first :: _ =>
    if first.toNat < 128 then .ok (false, 0, 1)
    else if first.toNat < 184 then .ok (false, 1, first.toNat - 128)
    else if 192 ≤ first.toNat ∧ first.toNat < 248 then .ok (true, 1, first.toNat - 192)
    else .error "long items are not read"

/-- Cut a payload into its items. -/
def sampleRlpItems : Nat → Bytes → Except Message (List Bytes)
  | 0, rest => if rest = [] then .ok [] else .error "too many items"
  | fuel + 1, rest =>
    if rest = [] then .ok []
    else do
      let header ← sampleRlpHeader rest
      let length := header.2.1 + header.2.2
      refuse (rest.length < length) "input too short"
      let items ← sampleRlpItems fuel (rest.drop length)
      pure (rest.take length :: items)

def sampleRlp : RlpLibrary where
  decodeRaw raw := do
    let header ← sampleRlpHeader raw
    let length := header.2.1 + header.2.2
    refuse (raw.length < length) "input too short"
    let payload := (raw.take length).drop header.2.1
    if header.1 then do
      let items ← sampleRlpItems payload.length payload
      pure (.list items, raw.drop length)
    else pure (.string payload, raw.drop length)
  decodeBytes raw := do
    let header ← sampleRlpHeader raw
    let length := header.2.1 + header.2.2
    refuse (header.1 = true) "unexpected list"
    refuse (raw.length < length) "input too short"
    pure ((raw.take length).drop header.2.1, raw.drop length)

/-- A header of fifteen fields, all empty but the state root and the number. -/
def sampleHeader (stateRoot : B256) (number : U8) : Bytes :=
  [239, 128, 128, 128, 160] ++ wordBytes 32 stateRoot ++ [128, 128, 128, 128, number] ++
    List.replicate 6 128

end Zkdeal

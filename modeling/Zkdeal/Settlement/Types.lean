/-
This file states the data of the seven-member rooms: the roster slots and their
deltas, the numbered inbox, the accounting and exit claims of a settlement, and the
inputs and journals of a batch and of an opening.
-/

import Zkdeal.Types

namespace Zkdeal

/-! ### Bounds and codes -/

def batchJournalVersionV4 : U8 := 4
def maxBatchBlocksV4 : Nat := 4
def maxAssets : Nat := 16
def maxMembers : Nat := 7
def rosterSlots : Nat := 7
def inboxDeposit : U8 := 1
def inboxJoin : U8 := 2
def inboxPending : U8 := 1
def inboxConsumed : U8 := 2
def inboxSkipped : U8 := 3
def inboxRefunded : U8 := 4
def memberUnused : U8 := 0
def memberActive : U8 := 1
def memberRetired : U8 := 2
def memberActivate : U8 := 1
def memberRetire : U8 := 2
def joinSlotSentinel : U8 := 255

/-! ### Members, inbox and claims -/

/-- One member slot; state 0 is unused, 1 active and 2 retired. -/
structure MemberSlotWitnessV4 where
  slot : U8
  state : U8
  account : Address
  joinedAtBatch : U64
  retiredAtBatch : Option U64
deriving DecidableEq, Inhabited

/-- One move of a slot; action 1 activates it and 2 retires it. -/
structure MembershipDeltaWitnessV4 where
  action : U8
  slot : U8
  member : Address
  joinRequestIndex : U64
  acceptanceExpiry : U64
deriving DecidableEq, Inhabited

/-- The L1-funded amount of one asset. -/
structure AssetTotalWitnessV4 where
  assetId : U8
  total : U256
deriving DecidableEq, Inhabited

/-- One exit claim. -/
structure ExitAllocationV4 where
  slot : U8
  assetId : U8
  recipient : Address
  amount : U256
deriving DecidableEq, Inhabited

structure AssetAccountingV4 where
  assetId : U8
  total : U256
  exitTotal : U256
  feeTotal : U256
deriving DecidableEq, Inhabited

/-- The slot that takes the indivisible remainder of one backing of a pro-rata position. -/
structure ResidualAllocationV4 where
  position : U8
  assetId : U8
  recipientSlot : U8
deriving DecidableEq, Inhabited

structure InboxAssetAmountV4 where
  assetId : U8
  amount : U256
deriving DecidableEq, Inhabited

/-- One numbered L1 inbox entry; kind 1 is a top-up of a slot and 2 a join request. -/
structure InboxEntryWitnessV4 where
  index : U64
  kind : U8
  account : Address
  beneficiarySlot : U8
  status : U8
  deposits : List InboxAssetAmountV4
deriving DecidableEq, Inhabited

/-! ### The batch -/

structure BatchBlockV4 where
  blockNumber : U64
  rawTxs : List Bytes
  env : BlockEnvV1
  expectedPostStateRoot : B256
deriving DecidableEq, Inhabited

structure BatchInputV4 where
  encodedWitnessBytes : U32
  deploymentId : B256
  roomId : U64
  presetHash : B256
  manifestHash : B256
  proofProgramId : B256
  batchIndex : U64
  l2StartHeight : U64
  previousBlockTimestamp : U64
  prevStateRoot : B256
  preRosterRoot : B256
  postRosterRoot : B256
  activeMask : U8
  preUsedMask : U8
  postActiveMask : U8
  usedMask : U8
  inboxStart : U64
  inboxEnd : U64
  inboxInputsHash : B256
  expectedBlockDataHash : B256
  assetTotalsHash : B256
  exitTotalsHash : B256
  feeTotalsHash : B256
  membershipDeltasHash : B256
  previousExitRoot : B256
  exitRoot : B256
  close : Bool
  l1InclusionDeadline : U64
  canonicalPresetJson : Bytes
  canonicalExitProgramJson : Bytes
  preRosterSlots : List MemberSlotWitnessV4
  postRosterSlots : List MemberSlotWitnessV4
  membershipDeltas : List MembershipDeltaWitnessV4
  inboxEntries : List InboxEntryWitnessV4
  assetTotals : List AssetTotalWitnessV4
  residualAllocations : List ResidualAllocationV4
  previousExitAllocations : List ExitAllocationV4
  compactState : CompactStateWitnessV4
  blocks : List BatchBlockV4
deriving DecidableEq, Inhabited

structure BatchBlockJournalV4 where
  blockNumber : U64
  postStateRoot : B256
  txCommitment : B256
  envHash : B256
deriving DecidableEq, Inhabited

structure BatchJournalV4 where
  v : U8
  deploymentId : B256
  roomId : U64
  presetHash : B256
  manifestHash : B256
  proofProgramId : B256
  batchIndex : U64
  l2StartHeight : U64
  l2EndHeight : U64
  previousBlockTimestamp : U64
  finalBlockTimestamp : U64
  prevStateRoot : B256
  postStateRoot : B256
  blockRootsHash : B256
  blocks : List BatchBlockJournalV4
  preRosterRoot : B256
  postRosterRoot : B256
  activeMask : U8
  postActiveMask : U8
  usedMask : U8
  inboxStart : U64
  inboxEnd : U64
  inboxInputsHash : B256
  blockDataHash : B256
  assetTotalsHash : B256
  exitTotalsHash : B256
  feeTotalsHash : B256
  membershipDeltasHash : B256
  previousExitRoot : B256
  exitRoot : B256
  close : Bool
  l1InclusionDeadline : U64
  exitAllocations : List ExitAllocationV4
  assetAccounting : List AssetAccountingV4
deriving DecidableEq, Inhabited

/-! ### The opening -/

structure GenesisInputV4 where
  encodedWitnessBytes : U32
  deploymentId : B256
  roomId : U64
  configHash : B256
  presetHash : B256
  manifestHash : B256
  proofProgramId : B256
  l1BlockNumber : U64
  l1BlockHash : B256
  l1StateRoot : B256
  l1HeaderRlp : Bytes
  genesisStateRoot : B256
  genesisRosterRoot : B256
  genesisExitRoot : B256
  activeMask : U8
  usedMask : U8
  inboxCursor : U64
  assetTotalsHash : B256
  exitTotalsHash : B256
  feeTotalsHash : B256
  l1InclusionDeadline : U64
  canonicalPresetJson : Bytes
  canonicalExitProgramJson : Bytes
  rosterSlots : List MemberSlotWitnessV4
  assetTotals : List AssetTotalWitnessV4
  residualAllocations : List ResidualAllocationV4
  compactState : CompactStateWitnessV4
deriving DecidableEq, Inhabited

structure GenesisJournalV4 where
  v : U8
  deploymentId : B256
  roomId : U64
  configHash : B256
  presetHash : B256
  manifestHash : B256
  proofProgramId : B256
  l1BlockNumber : U64
  l1BlockHash : B256
  l1StateRoot : B256
  genesisStateRoot : B256
  genesisRosterRoot : B256
  genesisExitRoot : B256
  activeMask : U8
  usedMask : U8
  inboxCursor : U64
  assetTotalsHash : B256
  exitTotalsHash : B256
  feeTotalsHash : B256
  l1InclusionDeadline : U64
  exitAllocations : List ExitAllocationV4
  assetAccounting : List AssetAccountingV4
deriving DecidableEq, Inhabited

end Zkdeal

/-
This file is the commitment layer of the seven-member rooms: the ABI words of that
family, the two sorted-pair roots, the list hashes of the accounting, inbox and
membership records, the canonical batch bytes and the deployment-scoped domains.
-/

import Zkdeal.Library.SortedPairs
import Zkdeal.Commitments
import Zkdeal.Settlement.Types

namespace Zkdeal

open Words Binding

/-! ### ABI words -/

def u256Word (value : U64) : B256 := value.setWidth 256

def uint256Word (value : U256) : B256 := value

def addressWord (value : Address) : B256 := value.setWidth 256

def b256Word (value : B256) : B256 := value

/-- The word of a `u8`. -/
def u8Word (value : U8) : B256 := u256Word (value.setWidth 64)

theorem u256Word_injective {first second : U64} (equal : u256Word first = u256Word second) :
    first = second :=
  setWidth_injective (by decide) equal

theorem u8Word_injective {first second : U8} (equal : u8Word first = u8Word second) :
    first = second :=
  setWidth_injective (by decide) (u256Word_injective equal)

theorem addressWord_injective {first second : Address}
    (equal : addressWord first = addressWord second) : first = second :=
  setWidth_injective (by decide) equal

/-! ### Sorted pairs -/

/-- The message of an inner node: the two digests with the smaller one in front. -/
def sortedPair (first second : B256) : Bytes :=
  if first ≤ second then pairNode first second else pairNode second first

section Hashes

variable (keccak256 : Bytes → B256)

def hashWords (words : List B256) : B256 := keccak256 (encodeWords words)

/-- The words of one slot. A slot that was never retired is written as retired at zero. -/
def memberSlotWords (slot : MemberSlotWitnessV4) : List B256 :=
  [keccak256 (ascii ("MemberSlotV4(uint8 slot,uint8 state,address account," ++
      "uint64 joinedAtBatch,uint64 retiredAtBatch)")),
    u8Word slot.slot, u8Word slot.state, addressWord slot.account,
    u256Word slot.joinedAtBatch, u256Word (slot.retiredAtBatch.getD 0)]

def memberRosterRootV4 (slots : List MemberSlotWitnessV4) : Option B256 :=
  if slots.isEmpty then none
  else SortedPairs.root keccak256 sortedPair
    (slots.map fun slot => encodeWords (memberSlotWords keccak256 slot))

/-- The words of one exit claim. -/
def claimLeafWords (deploymentId : B256) (roomId : U64) (allocation : ExitAllocationV4) :
    List B256 :=
  [b256Word (keccak256 (ascii ("ClaimLeafV4(bytes32 deploymentDomain,uint256 roomId," ++
      "uint8 slot,uint8 assetId,address recipient,uint256 amount)"))),
    b256Word deploymentId, u256Word roomId, u8Word allocation.slot, u8Word allocation.assetId,
    addressWord allocation.recipient, uint256Word allocation.amount]

/-- The messages of the claims of a list. -/
def claimLeaves (deploymentId : B256) (roomId : U64) (allocations : List ExitAllocationV4) :
    List Bytes :=
  allocations.map fun allocation => encodeWords (claimLeafWords keccak256 deploymentId roomId
    allocation)

/-- The message of the root of no claims. -/
def emptyClaims : Bytes := ascii "zkdeal/merkle-empty/v4"

def claimMerkleRootV4 (deploymentId : B256) (roomId : U64)
    (allocations : List ExitAllocationV4) : B256 :=
  if allocations.isEmpty then keccak256 emptyClaims
  else (SortedPairs.root keccak256 sortedPair
    (claimLeaves keccak256 deploymentId roomId allocations)).getD 0

/-! ### Lists of records -/

def batchBlockRootsHashV4 (blocks : List BatchBlockJournalV4) : B256 :=
  hashWords keccak256 (keccak256 (ascii "BatchBlockRootsV4[]") :: u256Word (lengthWord blocks) ::
    blocks.map BatchBlockJournalV4.postStateRoot)

def hashAssetAmountV4 (assetId : U8) (amount : U256) : B256 :=
  hashWords keccak256 [b256Word (keccak256 (ascii "AssetAmountV4(uint8 assetId,uint256 amount)")),
    u8Word assetId, uint256Word amount]

def hashAmountProjectionV4 (listDomain : String) (values : List (U8 × U256)) : B256 :=
  hashWords keccak256 (keccak256 (ascii listDomain) :: u256Word (lengthWord values) ::
    values.map fun value => hashAssetAmountV4 keccak256 value.1 value.2)

def hashAssetTotalsV4 (values : List AssetAccountingV4) : B256 :=
  hashAmountProjectionV4 keccak256 "AssetTotalsV4[]"
    (values.map fun value => (value.assetId, value.total))

def hashExitTotalsV4 (values : List AssetAccountingV4) : B256 :=
  hashAmountProjectionV4 keccak256 "ExitTotalsV4[]"
    (values.map fun value => (value.assetId, value.exitTotal))

def hashFeeTotalsV4 (values : List AssetAccountingV4) : B256 :=
  hashAmountProjectionV4 keccak256 "FeeTotalsV4[]"
    (values.map fun value => (value.assetId, value.feeTotal))

def hashMembershipDeltasV4 (values : List MembershipDeltaWitnessV4) : B256 :=
  let itemType := keccak256 (ascii ("MembershipDeltaV4(uint8 action,uint8 slot,address member," ++
    "uint64 joinRequestIndex,uint64 acceptanceExpiry)"))
  hashWords keccak256 (keccak256 (ascii "MembershipDeltaV4[]") :: u256Word (lengthWord values) ::
    values.map fun value =>
      hashWords keccak256 [b256Word itemType, u8Word value.action, u8Word value.slot,
        addressWord value.member, u256Word value.joinRequestIndex,
        u256Word value.acceptanceExpiry])

/-- The hash of one inbox entry; an entry of neither kind is hashed to zero. -/
def hashInboxEntry (value : InboxEntryWitnessV4) : B256 :=
  let depositType := keccak256 (ascii ("DepositInboxV4(uint64 index,address depositor," ++
    "uint8 beneficiarySlot,uint8 assetId,uint256 amount,uint8 status)"))
  let joinType := keccak256 (ascii ("JoinRequestInboxV4(uint64 index,address candidate," ++
    "bytes32 depositsHash,uint8 status)"))
  match value.kind, value.deposits with
  | 1, [deposit] =>
    hashWords keccak256 [b256Word depositType, u256Word value.index, addressWord value.account,
      u8Word value.beneficiarySlot, u8Word deposit.assetId, uint256Word deposit.amount,
      u8Word value.status]
  | 2, deposits =>
    let depositsHash := hashAmountProjectionV4 keccak256 "AssetAmountV4[]"
      (deposits.map fun entry => (entry.assetId, entry.amount))
    hashWords keccak256 [b256Word joinType, u256Word value.index, addressWord value.account,
      b256Word depositsHash, u8Word value.status]
  | _, _ => 0

def hashInboxEntriesV4 (values : List InboxEntryWitnessV4) : B256 :=
  hashWords keccak256 (keccak256 (ascii "InboxSegmentV4[]") :: u256Word (lengthWord values) ::
    values.map (hashInboxEntry keccak256))

/-! ### Deployment-scoped domains -/

/-- The first fifty digest bits with bit fifty forced to one. -/
def roomChainIdV4 (deploymentId : B256) (roomId : U64) : U64 :=
  let typeHash := keccak256 (ascii "RoomChainIdV4(bytes32 deploymentDomain,uint256 roomId)")
  let digest := keccak256 (encodeWords [typeHash, deploymentId, u256Word roomId])
  (digest.extractLsb' 192 64 >>> 14) ||| ((1 : U64) <<< 50)

/-- The ABI encoding of a tag, a deployment and a room, with the tag as a dynamic tail. -/
def applicationDomainV4 (tag : Bytes) (deploymentId : B256) (roomId : U64) : B256 :=
  let padded := (tag.length + 31) / 32 * 32
  keccak256 (resize (128 + padded)
    (encodeWords [u256Word 96, deploymentId, u256Word roomId, u256Word (lengthWord tag)] ++ tag))

end Hashes

/-! ### Canonical batch bytes -/

/-- One block behind the root it is built on; of its environment only the timestamp is
written. -/
def encodeBatchBlockV4 (parent : B256) (block : BatchBlockV4) : Bytes :=
  Rlp.encodeList [Rlp.encodeWord block.blockNumber, Rlp.encodeWord block.env.timestamp,
    Rlp.encodeBytes (wordBytes 32 parent),
    Rlp.encodeBytes (wordBytes 32 block.expectedPostStateRoot),
    Rlp.encodeList (block.rawTxs.map Rlp.encodeBytes)]

def encodeBatchBlocksV4 : B256 → List BatchBlockV4 → List Bytes
  | _, [] => []
  | parent, block :: rest =>
    encodeBatchBlockV4 parent block :: encodeBatchBlocksV4 block.expectedPostStateRoot rest

def canonicalBatchBytesVersioned (version : U64) (blocks : List BatchBlockV4)
    (preStateRoot : B256) : Bytes :=
  Rlp.encodeList [Rlp.encodeWord version, Rlp.encodeList (encodeBatchBlocksV4 preStateRoot blocks)]

def canonicalBatchBytesV4 (blocks : List BatchBlockV4) (preStateRoot : B256) : Bytes :=
  canonicalBatchBytesVersioned 4 blocks preStateRoot

def batchBlockDataHashV4 (keccak256 : Bytes → B256) (blocks : List BatchBlockV4)
    (preStateRoot : B256) : B256 :=
  keccak256 (canonicalBatchBytesV4 blocks preStateRoot)

end Zkdeal

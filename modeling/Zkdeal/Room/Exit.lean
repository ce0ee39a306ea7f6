/-
This file derives the exits of a validity-only batch.

The policy-bound exit queue of the room is the only authority that can move
controlled escrow into claimable. The withdrawal leaves of a batch are read out
of the terminal storage of the queue; a closing batch also shares every residual
pro rata over the code-free accounts of the terminal state, and pays rounding
dust and residue without a holder to the fallback recipient. The withdrawals of
the witness are only compared with this derivation.
-/

import Zkdeal.State
import Zkdeal.Library.Accounting

namespace Zkdeal

open Words Binding Guard

/-- The capacity of the withdrawal tree: the next power of two, or zero without leaves. -/
def withdrawalTreeCapacityV5 (leafCount : Nat) : Except StfError U64 :=
  if leafCount = 0 then .ok 0
  else do
    refuse (maxWithdrawalCapacityV5.toNat < leafCount)
      (.longLivedRoom "exit allocation exceeds MAX_WITHDRAWAL_CAPACITY_V5")
    pure (BitVec.ofNat 64 (nextPowerOfTwo leafCount))

/-- One exit obligation, before it is given an index in the withdrawal tree. -/
structure ExitRecordV5 where
  recipient : Address
  asset : Address
  amount : U256
deriving DecidableEq

/-- The storage slot of one account in a mapping. -/
def mappingSlotV5 (keccak256 : Bytes → B256) (account : Address) (slot : U256) : U256 :=
  keccak256 (wordBytes 32 (abiAddressWordV5 account) ++ wordBytes 32 slot)

/-- Read one slot, which has to be inside the access envelope. -/
def readStorageV5 (state : StateMap) (address : Address) (slot : U256) (label : String) :
    Except StfError U256 := do
  refuse (state.declaresStorage address slot = false)
    (.longLivedRoom [.text label, .text ": storage ", .address address, .text "[", .hex slot,
      .text "] is outside the complete compact-state envelope"])
  pure (state.storageAt address slot)

def addressFromWordV5 (value : U256) (label : String) : Except StfError Address := do
  refuse (value >>> 160 ≠ 0) (.longLivedRoom [.text label, .text " is wider than an address"])
  pure (value.setWidth 160)

def checkedAddExitV5 (left right : U256) (label : String) : Except StfError U256 :=
  orRefuse (checkedAdd left right) (.longLivedRoom [.text label, .text " overflow"])

/-- Totals per asset. -/
def accumulateTotals (label : String) (entries : List (Address × U256)) :
    Except StfError (BTreeMap Address U256) :=
  entries.foldlM (fun totals entry => orRefuse (Accounting.credit totals entry.1 entry.2)
    (.longLivedRoom [.text label, .text " overflow"])) ∅

/-! ### Queue records -/

/-- The cursor of the exit queue. -/
def exitRecordCountV5 (binding : ExitBindingV5) (state : StateMap) : Except StfError U64 := do
  let count ← readStorageV5 state binding.queueContract binding.countSlot "exit record count"
  refuse (2 ^ 64 ≤ count.toNat) (.longLivedRoom "exit record count exceeds u64")
  pure (count.setWidth 64)

/-- The first of the three slots of a record. -/
def exitRecordSlot (binding : ExitBindingV5) (index : Nat) : Except StfError U256 :=
  orRefuse ((checkedMul (BitVec.ofNat 256 index) 3).bind (checkedAdd binding.recordsBaseSlot))
    (.longLivedRoom "exit record slot overflow")

/-- Read one record out of the terminal queue storage. It must name a non-zero recipient, a
positive amount and a declared asset. -/
def readExitRecordV5 (binding : ExitBindingV5) (terminalState : StateMap) (index : Nat) :
    Except StfError ExitRecordV5 := do
  let recipientSlot ← exitRecordSlot binding index
  let assetSlot ← checkedAddExitV5 recipientSlot 1 "exit record slot"
  let amountSlot ← checkedAddExitV5 recipientSlot 2 "exit record slot"
  let recipientWord ← readStorageV5 terminalState binding.queueContract recipientSlot
    "exit record recipient"
  let recipient ← addressFromWordV5 recipientWord "exit record recipient"
  let assetWord ← readStorageV5 terminalState binding.queueContract assetSlot
    "exit record asset"
  let asset ← addressFromWordV5 assetWord "exit record asset"
  let amount ← readStorageV5 terminalState binding.queueContract amountSlot
    "exit record amount"
  refuse (recipient = 0 ∨ amount = 0 ∨ ¬ ∃ bound ∈ binding.assets, bound.asset = asset)
    (.longLivedRoom "exit record has a zero recipient, zero amount, or undeclared asset")
  pure ⟨recipient, asset, amount⟩

/-- The record indices between two cursors. -/
def recordIndices (first last : U64) : List Nat :=
  List.range' first.toNat (last.toNat - first.toNat)

def readExitRecordsV5 (binding : ExitBindingV5) (terminalState : StateMap) (first last : U64) :
    Except StfError (List ExitRecordV5) :=
  (recordIndices first last).mapM (readExitRecordV5 binding terminalState)

/-! ### The close sweep -/

section Sweep

variable (keccak256 : Bytes → B256)

/-- The balance of one account in a declared asset. -/
def sweepBalance (bound : ExitAssetBindingV5) (terminalState : StateMap)
    (entry : Address × AccountRecord) : Except StfError U256 :=
  if bound.kind = 0 then .ok entry.2.balance
  else if bound.kind = 1 then
    readStorageV5 terminalState bound.token (mappingSlotV5 keccak256 entry.1 bound.balanceSlot)
      "exit sweep ERC-20 balance"
  else .error (.longLivedRoom "exit asset kind is not native or ERC-20")

/-- Add one account to the holders of an asset; the zero address, contracts and accounts
without a balance hold nothing. -/
def gatherBalance (bound : ExitAssetBindingV5) (terminalState : StateMap)
    (gathered : U256 × List (Address × U256)) (entry : Address × AccountRecord) :
    Except StfError (U256 × List (Address × U256)) :=
  if entry.1 = 0 ∨ entry.2.code ≠ [] then .ok gathered
  else do
    let balance ← sweepBalance keccak256 bound terminalState entry
    if balance = 0 then pure gathered
    else do
      let total ← checkedAddExitV5 gathered.1 balance "exit sweep balance total"
      pure (total, gathered.2 ++ [(entry.1, balance)])

/-- The share of one holder, rounded down; a zero share gets no leaf. -/
def shareResidual (asset : Address) (residual total : U256)
    (shared : U256 × List ExitRecordV5) (holder : Address × U256) :
    Except StfError (U256 × List ExitRecordV5) := do
  let product ← orRefuse (checkedMul residual holder.2)
    (.longLivedRoom "exit sweep share overflow")
  let share := product / total
  if share = 0 then pure shared
  else do
    let distributed ← checkedAddExitV5 shared.1 share "exit sweep distributed total"
    pure (distributed, shared.2 ++ [⟨holder.1, asset, share⟩])

/-- Share one residual over the holders of its asset, the rest to the fallback recipient. -/
def sweepAsset (binding : ExitBindingV5) (terminalState : StateMap) (bound : ExitAssetBindingV5)
    (residual : U256) : Except StfError (List ExitRecordV5) := do
  let gathered ← terminalState.accounts.toList.foldlM
    (gatherBalance keccak256 bound terminalState) (0, [])
  if gathered.1 = 0 then pure [⟨binding.fallbackRecipient, bound.asset, residual⟩]
  else do
    let shared ← gathered.2.foldlM (shareResidual bound.asset residual gathered.1) (0, [])
    let dust ← orRefuse (checkedSub residual shared.1)
      (.longLivedRoom "exit sweep distributed more than the residual")
    pure (shared.2 ++ if dust = 0 then [] else [⟨binding.fallbackRecipient, bound.asset, dust⟩])

/-- The leaves of one declared asset. -/
def sweepBoundAsset (binding : ExitBindingV5) (terminalState : StateMap)
    (residuals : BTreeMap Address U256) (bound : ExitAssetBindingV5) :
    Except StfError (List ExitRecordV5) :=
  if residuals.getD bound.asset 0 = 0 then .ok []
  else sweepAsset keccak256 binding terminalState bound (residuals.getD bound.asset 0)

def deriveCloseSweepV5 (binding : ExitBindingV5) (terminalState : StateMap)
    (residuals : BTreeMap Address U256) : Except StfError (List ExitRecordV5) := do
  let swept ← binding.assets.mapM (sweepBoundAsset keccak256 binding terminalState residuals)
  pure swept.flatten

end Sweep

/-! ### The whole allocation -/

/-- The value of a batch's deposits that are not refunded, by asset. -/
def consumedDeposits (deposits : List DepositV5) : List (Address × U256) :=
  (deposits.filter fun deposit => !deposit.refunded).map fun deposit =>
    (deposit.asset, deposit.amount)

/-- The value of exit obligations, by asset. -/
def exitAmounts (records : List ExitRecordV5) : List (Address × U256) :=
  records.map fun record => (record.asset, record.amount)

/-- What one asset has left in control after the records of the batch. -/
def addResidual (consumed recorded residuals : BTreeMap Address U256) (pre : AssetLiabilityV5) :
    Except StfError (BTreeMap Address U256) := do
  let available ← checkedAddExitV5 pre.controlled (consumed.getD pre.asset 0)
    "exit controlled total"
  let residual ← orRefuse (checkedSub available (recorded.getD pre.asset 0))
    (.longLivedRoom "exit records exceed controlled escrow")
  pure (if residual = 0 then residuals else residuals.insert pre.asset residual)

/-- The residual of every listed asset. -/
def closeResiduals (input : BatchInputV5) (records : List ExitRecordV5) :
    Except StfError (BTreeMap Address U256) := do
  let consumed ← accumulateTotals "exit deposit total" (consumedDeposits input.deposits)
  let recorded ← accumulateTotals "exit record total" (exitAmounts records)
  input.preLiabilities.foldlM (addResidual consumed recorded) ∅

/-- The sweep of a closing batch; an open one sweeps nothing. -/
def closeSweep (keccak256 : Bytes → B256) (input : BatchInputV5) (binding : ExitBindingV5)
    (terminalState : StateMap) (records : List ExitRecordV5) :
    Except StfError (List ExitRecordV5) :=
  if input.journal.close then do
    let residuals ← closeResiduals input records
    deriveCloseSweepV5 keccak256 binding terminalState residuals
  else .ok []

/-- The leaf of an obligation at its position in the withdrawal tree. -/
def positionExit (rosterEpoch : U64) (record : ExitRecordV5 × Nat) : WithdrawalV5 where
  index := BitVec.ofNat 64 record.2
  rosterEpoch := rosterEpoch
  recipient := record.1.recipient
  asset := record.1.asset
  amount := record.1.amount

/-- Give the obligations their positions in the withdrawal tree. -/
def positionExits (rosterEpoch : U64) (records : List ExitRecordV5) : List WithdrawalV5 :=
  records.zipIdx.map (positionExit rosterEpoch)

/-- Compare the withdrawals of a batch with the allocation an exit binding derives. -/
def validateBoundExit (keccak256 : Bytes → B256) (input : BatchInputV5) (binding : ExitBindingV5)
    (preExitCount : U64) (terminalState : StateMap) : Except StfError Unit := do
  let postCount ← exitRecordCountV5 binding terminalState
  refuse (postCount < preExitCount)
    (.longLivedRoom "exit record count regressed inside the batch")
  let records ← readExitRecordsV5 binding terminalState preExitCount postCount
  let swept ← closeSweep keccak256 input binding terminalState records
  let expected := positionExits input.journal.postRosterEpoch (records ++ swept)
  let expectedCapacity ← withdrawalTreeCapacityV5 expected.length
  refuse (input.withdrawals ≠ expected ∨ input.withdrawalCapacity ≠ expectedCapacity)
    (.longLivedRoom "withdrawals do not equal the proof-derived exit allocation")

/-- Only a validity-only batch under a policy with an exit binding is compared. -/
def validateExitV5 (keccak256 : Bytes → B256) (input : BatchInputV5) (preExitCount : U64)
    (terminalState : StateMap) : Except StfError Unit :=
  match input.policy.exit with
  | none => .ok ()
  | some binding =>
    if input.journal.authorizationMode ≠ 1 then .ok ()
    else validateBoundExit keccak256 input binding preExitCount terminalState

end Zkdeal

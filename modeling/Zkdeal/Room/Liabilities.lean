/-
This file is the escrow accounting of one batch: the credit of consumed deposits
to their beneficiaries, and the conservation rule between the liabilities before
and after the batch.
-/

import Zkdeal.Room.Exit

namespace Zkdeal

open Words Guard

def checkedAddV5 (left right : U256) (label : String) : Except StfError U256 :=
  orRefuse (checkedAdd left right) (.longLivedRoom [.text label, .text " overflow"])

/-! ### Deposit credits -/

/-- The admission fees of every receipt that references a deposit. -/
def depositFees (admissions : List AdmissionRecordV5) (deposit : DepositV5) :
    Except StfError U256 :=
  admissions.foldlM (fun fees record =>
    if record.receipt.depositInboxId = deposit.inboxId then
      checkedAddV5 fees record.receipt.admissionFee "admission fee total"
    else .ok fees) 0

/-- A native deposit raises the balance of its beneficiary. -/
def creditNative (state : StateMap) (beneficiary : Address) (net : U256) :
    Except StfError StateMap := do
  refuse (state.declaresAccount beneficiary = false)
    (.longLivedRoom "deposit beneficiary is outside the complete compact-state envelope")
  let account := state.accounts.getD beneficiary default
  let balance ← checkedAddV5 account.balance net "beneficiary balance"
  pure { state with
    accounts := state.accounts.insert beneficiary { account with balance := balance } }

/-- The in-room token a policy binds to an asset. -/
def boundToken (policy : ExecutionPolicyV5) (asset : Address) : Option ExitAssetBindingV5 :=
  policy.exit.bind fun exit =>
    exit.assets.find? fun bound => bound.asset == asset && bound.kind == 1

/-- An ERC-20 deposit raises the balance slot of its beneficiary in the bound token. -/
def creditToken (keccak256 : Bytes → B256) (policy : ExecutionPolicyV5) (state : StateMap)
    (deposit : DepositV5) (net : U256) : Except StfError StateMap := do
  let bound ← orRefuse (boundToken policy deposit.asset)
    (.longLivedRoom "deposit asset has no certified in-room token binding")
  let slot := mappingSlotV5 keccak256 deposit.beneficiary bound.balanceSlot
  let current ← readStorageV5 state bound.token slot "deposit credit"
  let credited ← checkedAddV5 current net "beneficiary token balance"
  let account ← orRefuse state.accounts[bound.token]?
    (.longLivedRoom "deposit credit token account is absent")
  pure { state with
    accounts := state.accounts.insert bound.token
      { account with storage := account.storage.insert slot credited } }

/-- Credit the value of one deposit less the fees withheld from it. -/
def creditDeposit (keccak256 : Bytes → B256) (input : BatchInputV5) (state : StateMap)
    (deposit : DepositV5) : Except StfError StateMap :=
  if deposit.refunded then .ok state
  else do
    let fees ← depositFees input.admissions deposit
    let net ← orRefuse (checkedSub deposit.amount fees)
      (.longLivedRoom "admission fees exceed the consumed deposit they reference")
    if net = 0 then pure state
    else if deposit.asset = 0 then creditNative state deposit.beneficiary net
    else creditToken keccak256 input.policy state deposit net

def applyDepositCreditsV5 (keccak256 : Bytes → B256) (input : BatchInputV5) (state : StateMap) :
    Except StfError StateMap :=
  input.deposits.foldlM (creditDeposit keccak256 input) state

/-! ### Conservation -/

/-- Read one inbox record: its identity is the next one and it is well formed; a refunded
record is crossed without moving value. -/
def consumeDeposit (journal : BatchJournalV5) (deposits : BTreeMap Address U256)
    (item : DepositV5 × Nat) : Except StfError (BTreeMap Address U256) := do
  let expectedId ← orRefuse (checkedAdvance journal.inboxCursorBefore (item.2 + 1))
    (.longLivedRoom "inbox id overflow")
  let deposit := item.1
  refuse (deposit.inboxId ≠ expectedId ∨ deposit.depositor = 0 ∨ deposit.amount = 0 ∨
      deposit.beneficiary = 0 ∨ deposit.queuedAtBlock = 0 ∨ deposit.consumed)
    (.longLivedRoom "deposit preimage is malformed or non-contiguous")
  if deposit.refunded then pure deposits
  else
    orRefuse (Accounting.credit deposits deposit.asset deposit.amount)
      (.longLivedRoom [.text "deposit total", .text " overflow"])

/-- The value of a batch's withdrawals, by asset. -/
def withdrawnAmounts (withdrawals : List WithdrawalV5) : List (Address × U256) :=
  withdrawals.map fun withdrawal => (withdrawal.asset, withdrawal.amount)

/-- The two drained maps and the last asset while the liability lists are compared. -/
structure LiabilityProgress where
  previousAsset : Option Address
  deposits : BTreeMap Address U256
  withdrawals : BTreeMap Address U256

/-- Compare one asset before and after the batch. -/
def conserveLiability (close : Bool) (progress : LiabilityProgress)
    (pair : AssetLiabilityV5 × AssetLiabilityV5) : Except StfError LiabilityProgress := do
  let pre := pair.1
  let post := pair.2
  refuse (pre.asset ≠ post.asset ∨ (progress.previousAsset.any fun asset => pre.asset ≤ asset) ∨
      pre.paid ≠ post.paid)
    (.longLivedRoom "liabilities must use the same sorted assets and paid total")
  let deposit := progress.deposits.getD pre.asset 0
  let withdrawal := progress.withdrawals.getD pre.asset 0
  let expectedPending ← orRefuse (checkedSub pre.pending deposit)
    (.longLivedRoom "deposit exceeds pending liability")
  let expectedClaimable ← checkedAddV5 pre.claimable withdrawal "claimable total"
  let availableControlled ← checkedAddV5 pre.controlled deposit "controlled total"
  let expectedControlled ← orRefuse (checkedSub availableControlled withdrawal)
    (.longLivedRoom "withdrawal exceeds controlled liability")
  refuse (post.pending ≠ expectedPending ∨ post.claimable ≠ expectedClaimable ∨
      post.controlled ≠ expectedControlled)
    (.longLivedRoom "post-liabilities do not conserve consumed deposits and withdrawals")
  refuse (close ∧ post.controlled ≠ 0)
    (.longLivedRoom "closing batch leaves controlled escrow that could never be withdrawn")
  pure {
    previousAsset := some pre.asset
    deposits := progress.deposits.erase pre.asset
    withdrawals := progress.withdrawals.erase pre.asset }

/-- Authenticate the escrow data of a batch against its journal and total the deposits and
withdrawals of every asset. -/
def liabilityTotals (keccak256 : Bytes → B256) (input : BatchInputV5) :
    Except StfError (BTreeMap Address U256 × BTreeMap Address U256) := do
  let journal := input.journal
  refuse (journal.authorizationMode = 1 ∧ input.policy.exit = none)
    (.longLivedRoom "validity-only rooms are unprovable without an exit binding")
  refuse (liabilitiesHashV5 keccak256 input.preLiabilities ≠ journal.preLiabilitiesHash ∨
      liabilitiesHashV5 keccak256 input.postLiabilities ≠ journal.postLiabilitiesHash ∨
      input.preLiabilities.length ≠ input.postLiabilities.length)
    (.longLivedRoom "liability preimages do not match the journal")
  refuse (inboxRecordsHashV5 keccak256 input.deposits ≠ journal.inboxRecordsHash)
    (.longLivedRoom "L1 inbox records do not match the journal commitment")
  let deposits ← input.deposits.zipIdx.foldlM (consumeDeposit journal) ∅
  let cursorAfter ← orRefuse (checkedAdvance journal.inboxCursorBefore input.deposits.length)
    (.longLivedRoom "inbox cursor overflow")
  refuse (journal.inboxCursorAfter ≠ cursorAfter)
    (.longLivedRoom "inbox cursor does not match consumed deposits")
  let withdrawals ← accumulateTotals "withdrawal total" (withdrawnAmounts input.withdrawals)
  let expectedRoot ← orRefuse
    (withdrawalRootV5 keccak256 journal.deploymentDomain journal.roomId journal.outboxEpoch
      input.withdrawals input.withdrawalCapacity)
    (.longLivedRoom "invalid withdrawal tree preimage")
  refuse (expectedRoot ≠ journal.withdrawalRoot)
    (.longLivedRoom "withdrawal tree does not match the journal")
  pure (deposits, withdrawals)

def validateLiabilitiesV5 (keccak256 : Bytes → B256) (input : BatchInputV5) :
    Except StfError Unit := do
  let totals ← liabilityTotals keccak256 input
  let progress ← (input.preLiabilities.zip input.postLiabilities).foldlM
    (conserveLiability input.journal.close) ⟨none, totals.1, totals.2⟩
  refuse (progress.deposits ≠ ∅ ∨ progress.withdrawals ≠ ∅)
    (.longLivedRoom "deposit or withdrawal names an unsupported asset")

end Zkdeal

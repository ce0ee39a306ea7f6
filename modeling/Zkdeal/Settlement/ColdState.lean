/-
This file is the part of a prepared room that stays fixed when the room is bound: the
accounts and slots of the template, the values a binding may refresh, and the
commitment to everything else. The commitment is computed over the initialized state of
the template and again over the state a batch opens at.
-/

import Zkdeal.Compact
import Zkdeal.Settlement.Commitments

namespace Zkdeal

open Words Guard

/-- Runtime code found after the constructors ran. -/
structure ColdRuntimeCodeV4 where
  address : Address
  codeHash : B256
deriving DecidableEq, Inhabited

/-- An account of the template with its slots. -/
structure ColdStateAccessV4 where
  address : Address
  storageSlots : List U256
deriving DecidableEq, Inhabited

/-- The values of an account that may change when the template is bound. -/
structure ColdStateRefreshV4 where
  address : Address
  refreshNonce : Bool
  refreshBalance : Bool
  refreshAllStorage : Bool
  storageSlots : List U256
deriving DecidableEq, Inhabited

/-! ### Hashes -/

section Hashes

variable (keccak256 : Bytes → B256)

def hashColdRuntimeCodeV4 (values : List ColdRuntimeCodeV4) : B256 :=
  let typeHash :=
    keccak256 (ascii "ColdRuntimeCodeV4(address contractAddress,bytes32 codeHash)")
  hashWords keccak256 (keccak256 (ascii "ColdRuntimeCodeV4[]") :: u256Word (lengthWord values) ::
    values.map fun value => hashWords keccak256 [b256Word typeHash, addressWord value.address,
      b256Word value.codeHash])

def hashColdSlotListV4 (domain : String) (slots : List U256) : B256 :=
  hashWords keccak256 (keccak256 (ascii domain) :: u256Word (lengthWord slots) ::
    slots.map uint256Word)

def hashColdStateAccessV4 (values : List ColdStateAccessV4) : B256 :=
  let typeHash :=
    keccak256 (ascii "ColdStateAccessV4(address account,bytes32 storageSlotsHash)")
  hashWords keccak256 (keccak256 (ascii "ColdStateAccessV4[]") :: u256Word (lengthWord values) ::
    values.map fun value => hashWords keccak256 [b256Word typeHash, addressWord value.address,
      b256Word (hashColdSlotListV4 keccak256 "ColdStateAccessStorageSlotV4[]"
        value.storageSlots)])

/-- The word of a flag. -/
def boolWord (value : Bool) : B256 := u256Word (if value then 1 else 0)

def hashColdStateRefreshV4 (values : List ColdStateRefreshV4) : B256 :=
  let typeHash := keccak256 (ascii ("ColdStateRefreshV4(address account,bool refreshNonce," ++
    "bool refreshBalance,bool refreshAllStorage,bytes32 storageSlotsHash)"))
  hashWords keccak256 (keccak256 (ascii "ColdStateRefreshV4[]") :: u256Word (lengthWord values) ::
    values.map fun value => hashWords keccak256 [b256Word typeHash, addressWord value.address,
      boolWord value.refreshNonce, boolWord value.refreshBalance,
      boolWord value.refreshAllStorage,
      b256Word (hashColdSlotListV4 keccak256 "ColdStateRefreshStorageSlotV4[]"
        value.storageSlots)])

end Hashes

/-! ### Shapes -/

/-- Every word of a list is below the next one. -/
def strictlySorted {width : Nat} : List (BitVec width) → Bool
  | first :: second :: rest => decide (first < second) && strictlySorted (second :: rest)
  | _ => true

section State

variable (primitives : Primitives)

/-- Enter one account of the template, with the number of slots so far. -/
def enterColdAccess (entered : BTreeMap Address (List U256) × Nat) (access : ColdStateAccessV4) :
    Except StfError (BTreeMap Address (List U256) × Nat) := do
  refuse (entered.1.contains access.address)
    (.coldPreparation "state access accounts must be unique")
  refuse (strictlySorted access.storageSlots = false)
    (.coldPreparation "state access slots must be strictly sorted and unique")
  let accessSlots ← orRefuse (primitives.checkedUsizeAdd entered.2 access.storageSlots.length)
    (.coldPreparation "state access slot count overflow")
  pure (entered.1.insert access.address access.storageSlots, accessSlots)

/-- Check one refresh rule. The slots of the account are sorted here, so the binary search in
them finds what they contain. -/
def checkColdRefresh (accessByAddress : BTreeMap Address (List U256))
    (previousRefresh : Option Address) (refresh : ColdStateRefreshV4) :
    Except StfError (Option Address) := do
  refuse (previousRefresh.any fun previous => refresh.address ≤ previous)
    (.coldPreparation "state refresh accounts must be strictly address-sorted and unique")
  let allowedSlots ← orRefuse accessByAddress[refresh.address]?
    (.coldPreparation "state refresh account is outside the template access set")
  refuse (strictlySorted refresh.storageSlots = false)
    (.coldPreparation "state refresh slots must be strictly sorted and unique")
  refuse (refresh.refreshAllStorage = false ∧
      refresh.storageSlots.any fun slot => !allowedSlots.contains slot)
    (.coldPreparation "state refresh slot is outside the template access set")
  pure (some refresh.address)

def validateColdShapesV4 (runtimeCode : List ColdRuntimeCodeV4)
    (stateAccess : List ColdStateAccessV4) (stateRefresh : List ColdStateRefreshV4) :
    Except StfError Unit := do
  refuse (maxCompactAccountsV4 < runtimeCode.length ∨ maxCompactAccountsV4 < stateAccess.length ∨
      maxCompactAccountsV4 < stateRefresh.length)
    (.coldPreparation "runtime/access/refresh account cap exceeded")
  refuse (strictlySorted (runtimeCode.map ColdRuntimeCodeV4.address) = false)
    (.coldPreparation "runtime code must be strictly address-sorted and unique")
  refuse (∃ entry ∈ runtimeCode, entry.codeHash = 0)
    (.coldPreparation "runtime code hash cannot be zero")
  let entered ← stateAccess.foldlM (enterColdAccess primitives) (∅, 0)
  refuse (strictlySorted (stateAccess.map ColdStateAccessV4.address) = false)
    (.coldPreparation "state access accounts must be strictly address-sorted")
  refuse (maxCompactStorageSlotsV4 < entered.2)
    (.coldPreparation "state access slot cap exceeded")
  refuse (∃ code ∈ runtimeCode, entered.1.contains code.address = false)
    (.coldPreparation "every runtime contract must have a state access entry")
  let _ ← stateRefresh.foldlM (checkColdRefresh entered.1) none
  pure ()

/-- One committed contract, which must be deployed with the committed code. -/
def checkRuntimeCode (state : StateMap) (entry : ColdRuntimeCodeV4) : Except StfError Unit := do
  let account ← orRefuse state.accounts[entry.address]?
    (.coldPreparation [.text "prepared runtime account ", .address entry.address,
      .text " is absent"])
  refuse (account.code = [] ∨ account.codeHash primitives ≠ entry.codeHash)
    (.coldPreparation [.text "prepared runtime code hash mismatch at ", .address entry.address])

/-- The committed contracts are the deployed ones; accounts without code are free. -/
def verifyColdRuntimeCodeV4 (state : StateMap) (runtimeCode : List ColdRuntimeCodeV4) :
    Except StfError Unit := do
  forEach runtimeCode (checkRuntimeCode primitives state)
  forEach state.accounts.toList fun item =>
    refuse (item.2.code ≠ [] ∧ ¬ ∃ entry ∈ runtimeCode, entry.address = item.1)
      (.coldPreparation [.text "uncommitted runtime code at ", .address item.1])

/-! ### The commitment -/

/-- The refresh rules by account. -/
def coldRules (stateRefresh : List ColdStateRefreshV4) : BTreeMap Address ColdStateRefreshV4 :=
  stateRefresh.foldl (fun entered rule => entered.insert rule.address rule) ∅

/-- The slots of an account that are committed to. -/
def staticSlots (rule : Option ColdStateRefreshV4) (access : ColdStateAccessV4) : List U256 :=
  if rule.any ColdStateRefreshV4.refreshAllStorage then []
  else access.storageSlots.filter fun slot =>
    !rule.any fun entry => entry.storageSlots.contains slot

/-- The words of one committed slot. -/
def staticSlotWords (keccak256 : Bytes → B256) (account : AccountRecord) (slot : U256) :
    List B256 :=
  [keccak256 (ascii "ColdStaticStorageV4(uint256 slot,uint256 value)"), slot, account.slot slot]

/-- The words of the committed storage of an account. -/
def staticStorageWords (keccak256 : Bytes → B256) (account : AccountRecord)
    (slots : List U256) : List B256 :=
  keccak256 (ascii "ColdStaticStorageV4[]") :: u256Word (lengthWord slots) ::
    slots.map fun slot => hashWords keccak256 (staticSlotWords keccak256 account slot)

/-- The words of one account. A value its rule refreshes is written as zero. -/
def staticAccountWords (access : ColdStateAccessV4) (rule : Option ColdStateRefreshV4)
    (account : AccountRecord) : List B256 :=
  [primitives.keccak256 (ascii ("ColdStaticAccountV4(address account,uint64 nonce," ++
      "uint256 balance,bytes32 codeHash,bytes32 staticStorageHash)")),
    addressWord access.address,
    u256Word (if rule.any ColdStateRefreshV4.refreshNonce then 0 else account.nonce),
    if rule.any ColdStateRefreshV4.refreshBalance then 0 else account.balance,
    account.codeHash primitives,
    hashWords primitives.keccak256
      (staticStorageWords primitives.keccak256 account (staticSlots rule access))]

/-- The hash of one account of the template. Unless all its storage is refreshed, no slot
outside the template may be stored. -/
def staticAccountHash (state : StateMap) (rules : BTreeMap Address ColdStateRefreshV4)
    (access : ColdStateAccessV4) : Except StfError B256 := do
  let account ← orRefuse state.accounts[access.address]?
    (.coldPreparation [.text "template access account ", .address access.address,
      .text " is absent"])
  let rule := rules[access.address]?
  refuse (rule.any ColdStateRefreshV4.refreshAllStorage = false ∧
      account.storage.keys.any fun slot => !access.storageSlots.contains slot)
    (.coldPreparation [.text "account ", .address access.address,
      .text " contains storage outside its cold access set"])
  pure (hashWords primitives.keccak256 (staticAccountWords primitives access rule account))

/-- The words of the commitment over the hashes of the accounts. -/
def staticStateWords (keccak256 : Bytes → B256) (stateAccess : List ColdStateAccessV4)
    (stateRefresh : List ColdStateRefreshV4) (accountHashes : List B256) : List B256 :=
  keccak256 (ascii ("ColdStaticStateV4(bytes32 stateAccessRoot,bytes32 stateRefreshRoot," ++
      "bytes32 accountHashes)")) ::
    hashColdStateAccessV4 keccak256 stateAccess :: hashColdStateRefreshV4 keccak256 stateRefresh ::
    u256Word (lengthWord accountHashes) :: accountHashes

def coldStaticStateCommitmentV4 (state : StateMap) (stateAccess : List ColdStateAccessV4)
    (stateRefresh : List ColdStateRefreshV4) : Except StfError B256 := do
  validateColdShapesV4 primitives [] stateAccess stateRefresh
  let accountHashes ← stateAccess.mapM
    (staticAccountHash primitives state (coldRules stateRefresh))
  pure (hashWords primitives.keccak256
    (staticStateWords primitives.keccak256 stateAccess stateRefresh accountHashes))

end State

end Zkdeal

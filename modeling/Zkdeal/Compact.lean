/-
This file authenticates the compact state witness a batch opens with.

The witness lists every address of the access envelope in order, with its slots
in order. Under a zero canonical root it is the complete room-local state and may
carry no proofs; under any other root every account and slot is proved against
it. The second half reads an accepted complete witness back: the state holds no
empty record and no zero slot, and stays inside the envelope's bounds.
-/

import Zkdeal.State

namespace Zkdeal

open Words Guard

/-- The slots of one account read so far. -/
structure CompactStorageProgress where
  previousSlot : Option U256
  slots : BTreeSet U256
  storage : BTreeMap U256 U256

/-- The accounts of a witness read so far, with the resources they took. -/
structure CompactProgress where
  previousAddress : Option Address
  codeBytes : Nat
  storageCount : Nat
  proofCount : Nat
  records : BTreeMap Address AccountRecord
  allowedAccounts : BTreeSet Address
  allowedStorage : BTreeMap Address (BTreeSet U256)

def CompactStorageProgress.start : CompactStorageProgress := ⟨none, ∅, ∅⟩

def CompactProgress.start : CompactProgress := ⟨none, 0, 0, 0, ∅, ∅, ∅⟩

section Verify

variable (primitives : Primitives)

/-- Prove one slot against the storage root of its account. -/
def authenticateSlot (storageRoot : B256) (slot : CompactStorageWitnessV4) :
    Except StfError Unit :=
  (primitives.verifyProof storageRoot (primitives.keccak256 (wordBytes 32 slot.slot))
    (if slot.value = 0 then none else some (Rlp.encodeWord slot.value)) slot.proof).mapError
      fun error => .compactWitness [.text "storage proof: ", .text error]

def verifyCompactSlot (canonical : Bool) (storageRoot : B256)
    (progress : CompactStorageProgress) (slot : CompactStorageWitnessV4) :
    Except StfError CompactStorageProgress := do
  refuse (progress.previousSlot.any fun previous => slot.slot ≤ previous)
    (.compactWitness "storage slots must be strictly sorted and unique")
  checkWhen canonical (authenticateSlot primitives storageRoot slot)
  pure {
    previousSlot := some slot.slot
    slots := progress.slots.insert slot.slot
    storage :=
      if slot.value = 0 then progress.storage else progress.storage.insert slot.slot slot.value }

/-- The trie leaf an account claims, or none for an address declared absent. -/
def compactAccountValue (account : CompactAccountWitnessV4) :
    Except StfError (Option Bytes) :=
  if account.exists then do
    refuse (account.nonce = 0 ∧ account.balance = 0 ∧ account.code = [])
      (.compactWitness
        "EIP-161-empty account must be represented as absent and cannot carry storage")
    pure (some (encodeTrieAccount {
      nonce := account.nonce
      balance := account.balance
      storageRoot := account.canonicalStorageRoot
      codeHash := if account.code.isEmpty then primitives.keccakEmpty
        else primitives.keccak256 account.code }))
  else do
    refuse (account.nonce ≠ 0 ∨ account.balance ≠ 0 ∨ account.code ≠ [] ∨
        account.storage ≠ [] ∨ account.canonicalStorageRoot ≠ primitives.emptyRootHash)
      (.compactWitness "excluded account carries non-empty state")
    pure none

/-- Count the code, slots and proof nodes of one account into the resource envelope. -/
def countCompactResources (progress : CompactProgress) (account : CompactAccountWitnessV4) :
    Except StfError CompactProgress := do
  let codeBytes ← orRefuse
    (primitives.checkedUsizeAdd progress.codeBytes account.code.length)
    (.compactWitness "code byte count overflow")
  let storageCount ← orRefuse
    (primitives.checkedUsizeAdd progress.storageCount account.storage.length)
    (.compactWitness "storage count overflow")
  let proofCount ← orRefuse
    ((primitives.checkedUsizeAdd progress.proofCount account.accountProof.length).bind
      (account.storage.foldlM fun sum slot =>
        primitives.checkedUsizeAdd sum slot.proof.length))
    (.compactWitness "proof count overflow")
  refuse (maxCompactStorageSlotsV4 < storageCount ∨ maxCompactProofNodesV4 < proofCount ∨
      maxCompactCodeBytesV4 < codeBytes)
    (.compactWitness "account/storage/proof/code resource envelope exceeded")
  pure { progress with
    codeBytes := codeBytes
    storageCount := storageCount
    proofCount := proofCount }

/-- Prove one account, or its absence, against the canonical root. -/
def authenticateAccount (canonicalStateRoot : B256) (account : CompactAccountWitnessV4)
    (value : Option Bytes) : Except StfError Unit :=
  (primitives.verifyProof canonicalStateRoot
    (primitives.keccak256 (wordBytes 20 account.address)) value account.accountProof).mapError
      fun error => .compactWitness [.text "account proof: ", .text error]

/-- All proof nodes an account carries, its own and its slots'. -/
def CompactAccountWitnessV4.proofNodes (account : CompactAccountWitnessV4) : List Bytes :=
  account.accountProof ++ account.storage.flatMap CompactStorageWitnessV4.proof

def verifyCompactAccount (canonicalStateRoot : B256) (progress : CompactProgress)
    (account : CompactAccountWitnessV4) : Except StfError CompactProgress := do
  let canonical := canonicalStateRoot != 0
  refuse (progress.previousAddress.any fun previous => account.address ≤ previous)
    (.compactWitness "accounts must be strictly address-sorted and unique")
  let counted ← countCompactResources primitives progress account
  refuse (∃ node ∈ account.proofNodes, 1024 < node.length)
    (.compactWitness "MPT proof node exceeds 1024 bytes")
  refuse (canonical = false ∧ (account.accountProof ≠ [] ∨
      ∃ slot ∈ account.storage, slot.proof ≠ []))
    (.compactWitness
      "later room-root witness must not smuggle unauthenticated canonical proofs")
  let value ← compactAccountValue primitives account
  checkWhen canonical (authenticateAccount primitives canonicalStateRoot account value)
  let storage ← account.storage.foldlM
    (verifyCompactSlot primitives canonical account.canonicalStorageRoot)
    CompactStorageProgress.start
  pure { counted with
    previousAddress := some account.address
    allowedAccounts := progress.allowedAccounts.insert account.address
    allowedStorage := progress.allowedStorage.insert account.address storage.slots
    records :=
      if account.exists then
        progress.records.insert account.address
          ⟨account.nonce, account.balance, account.code, storage.storage⟩
      else progress.records }

def verifyCompactStateV4 (witness : CompactStateWitnessV4) : Except StfError StateMap := do
  refuse (maxCompactAccountsV4 < witness.accounts.length)
    (.compactWitness [.decimal witness.accounts.length, .text " accounts exceeds cap ",
      .decimal maxCompactAccountsV4])
  let progress ← witness.accounts.foldlM
    (verifyCompactAccount primitives witness.canonicalStateRoot) CompactProgress.start
  pure (StateMap.fromCompact progress.records progress.allowedAccounts progress.allowedStorage)

end Verify

/-! ### What an accepted complete witness establishes -/

/-- A record of an accepted witness is not empty, holds no zero slot, and is inside the
resource envelope. -/
structure AccountRecord.IsCompact (account : AccountRecord) : Prop where
  live : account.isEmpty = false
  slotsLive : ∀ slot : U256, account.storage[slot]? ≠ some 0
  slotCount : account.storage.size ≤ maxCompactStorageSlotsV4

/-- The state of an accepted witness has few accounts, all of them compact. -/
structure StateMap.IsCompact (state : StateMap) : Prop where
  records : ∀ (address : Address) (account : AccountRecord),
    state.accounts[address]? = some account → account.IsCompact
  accountCount : state.accounts.size ≤ maxCompactAccountsV4

section Accepted

variable {primitives : Primitives}

/-- Reading the slots of one account keeps no zero and at most one entry per slot read. -/
theorem verifyCompactSlots_spec {canonical : Bool} {storageRoot : B256}
    {slots : List CompactStorageWitnessV4} {finish : CompactStorageProgress}
    (ran : slots.foldlM (verifyCompactSlot primitives canonical storageRoot)
      CompactStorageProgress.start = .ok finish) :
    (∀ slot : U256, finish.storage[slot]? ≠ some 0) ∧ finish.storage.size ≤ slots.length := by
  refine foldlM_invariant (fun consumed progress =>
    (∀ slot : U256, progress.storage[slot]? ≠ some 0) ∧ progress.storage.size ≤ consumed.length)
    ran ⟨fun slot => by simp [CompactStorageProgress.start], by
      simp [CompactStorageProgress.start]⟩ ?_
  intro consumed item before after holds stepped
  obtain ⟨-, stepped⟩ := refuse_bind_eq_ok.mp stepped
  obtain ⟨-, -, stepped⟩ := bind_eq_ok.mp stepped
  rw [← pure_eq_ok.mp stepped, List.length_append, List.length_singleton]
  by_cases zero : item.value = 0
  · rw [if_pos zero]
    exact ⟨holds.1, Nat.le_succ_of_le holds.2⟩
  · rw [if_neg zero]
    refine ⟨fun slot => ?_, ?_⟩
    · rw [Std.ExtTreeMap.getElem?_insert]
      split
      · simpa using zero
      · exact holds.1 slot
    · exact (Std.ExtTreeMap.size_insert_le).trans (Nat.succ_le_succ holds.2)

theorem countCompactResources_storageCount {before after : CompactProgress}
    {account : CompactAccountWitnessV4}
    (counted : countCompactResources primitives before account = .ok after) :
    after.storageCount = before.storageCount + account.storage.length ∧
      after.storageCount ≤ maxCompactStorageSlotsV4 := by
  obtain ⟨codeBytes, -, counted⟩ := bind_eq_ok.mp counted
  obtain ⟨storageCount, added, counted⟩ := bind_eq_ok.mp counted
  obtain ⟨proofCount, -, counted⟩ := bind_eq_ok.mp counted
  obtain ⟨within, counted⟩ := refuse_bind_eq_ok.mp counted
  have sum := orRefuse_eq_ok.mp added
  unfold Primitives.checkedUsizeAdd at sum
  cases pure_eq_ok.mp counted
  split at sum
  · rw [Option.some.injEq] at sum
    dsimp only
    omega
  · cases sum

/-- An account declared present is not empty. -/
theorem compactAccountValue_spec {account : CompactAccountWitnessV4} {value : Option Bytes}
    (accepted : compactAccountValue primitives account = .ok value)
    (present : account.exists = true) :
    ¬ (account.nonce = 0 ∧ account.balance = 0 ∧ account.code = []) := by
  unfold compactAccountValue at accepted
  rw [if_pos present] at accepted
  exact (refuse_bind_eq_ok.mp accepted).1

/-- What an account of a witness passed, and how it was entered. -/
theorem verifyCompactAccount_eq_ok {canonicalStateRoot : B256} {before after : CompactProgress}
    {account : CompactAccountWitnessV4}
    (accepted : verifyCompactAccount primitives canonicalStateRoot before account = .ok after) :
    ∃ counted value storage,
      ¬ (before.previousAddress.any fun previous => account.address ≤ previous) = true ∧
      countCompactResources primitives before account = .ok counted ∧
      (∀ node ∈ account.proofNodes, node.length ≤ 1024) ∧
      ((canonicalStateRoot != 0) = false →
        account.accountProof = [] ∧ ∀ slot ∈ account.storage, slot.proof = []) ∧
      compactAccountValue primitives account = .ok value ∧
      checkWhen (canonicalStateRoot != 0)
        (authenticateAccount primitives canonicalStateRoot account value) = .ok () ∧
      account.storage.foldlM (verifyCompactSlot primitives (canonicalStateRoot != 0)
        account.canonicalStorageRoot) CompactStorageProgress.start = .ok storage ∧
      after = { counted with
        previousAddress := some account.address
        allowedAccounts := before.allowedAccounts.insert account.address
        allowedStorage := before.allowedStorage.insert account.address storage.slots
        records :=
          if account.exists then
            before.records.insert account.address
              ⟨account.nonce, account.balance, account.code, storage.storage⟩
          else before.records } := by
  obtain ⟨ordered, accepted⟩ := refuse_bind_eq_ok.mp accepted
  obtain ⟨counted, resources, accepted⟩ := bind_eq_ok.mp accepted
  obtain ⟨short, accepted⟩ := refuse_bind_eq_ok.mp accepted
  obtain ⟨unproved, accepted⟩ := refuse_bind_eq_ok.mp accepted
  obtain ⟨value, shaped, accepted⟩ := bind_eq_ok.mp accepted
  obtain ⟨⟨⟩, authentic, accepted⟩ := bind_eq_ok.mp accepted
  obtain ⟨storage, read, accepted⟩ := bind_eq_ok.mp accepted
  refine ⟨counted, value, storage, ordered, resources, fun node among => ?_, fun later => ?_,
    shaped, authentic, read, (pure_eq_ok.mp accepted).symm⟩
  · exact not_lt.mp fun long => short ⟨node, among, long⟩
  · obtain ⟨noProof, noSlotProof⟩ := not_or.mp fun smuggled => unproved ⟨later, smuggled⟩
    exact ⟨not_not.mp noProof, fun slot among => not_not.mp fun proved =>
      noSlotProof ⟨slot, among, proved⟩⟩

/-- What reading one account adds to the records. -/
theorem verifyCompactAccount_spec {canonicalStateRoot : B256} {before after : CompactProgress}
    {account : CompactAccountWitnessV4}
    (accepted : verifyCompactAccount primitives canonicalStateRoot before account = .ok after) :
    after.records = before.records ∨ ∃ record : AccountRecord,
      after.records = before.records.insert account.address record ∧ record.IsCompact := by
  obtain ⟨counted, value, storage, -, resources, -, -, shaped, -, read, rfl⟩ :=
    verifyCompactAccount_eq_ok accepted
  obtain ⟨slotsLive, slotCount⟩ := verifyCompactSlots_spec read
  obtain ⟨total, fewSlots⟩ := countCompactResources_storageCount resources
  by_cases present : account.exists = true
  · right
    refine ⟨⟨account.nonce, account.balance, account.code, storage.storage⟩,
      if_pos present, ?_, slotsLive, slotCount.trans (by omega)⟩
    have nonempty := compactAccountValue_spec shaped present
    simp only [AccountRecord.isEmpty, Bool.and_eq_false_iff, beq_eq_false_iff_ne,
      List.isEmpty_eq_false_iff]
    tauto
  · exact Or.inl (if_neg present)

/-- A witness that is accepted describes a compact state. -/
theorem verifyCompactStateV4_isCompact {witness : CompactStateWitnessV4} {state : StateMap}
    (accepted : verifyCompactStateV4 primitives witness = .ok state) : state.IsCompact := by
  obtain ⟨few, accepted⟩ := refuse_bind_eq_ok.mp accepted
  obtain ⟨progress, ran, accepted⟩ := bind_eq_ok.mp accepted
  rw [← pure_eq_ok.mp accepted]
  have read := foldlM_invariant (fun consumed progress =>
    (∀ (address : Address) (account : AccountRecord),
      progress.records[address]? = some account → account.IsCompact) ∧
      progress.records.size ≤ consumed.length)
    ran (by simp [CompactProgress.start]) (by
      intro consumed item before after holds stepped
      rw [List.length_append, List.length_singleton]
      rcases verifyCompactAccount_spec stepped with same | ⟨record, inserted, compact⟩
      · rw [same]
        exact ⟨holds.1, Nat.le_succ_of_le holds.2⟩
      · rw [inserted]
        refine ⟨fun address account found => ?_,
          (Std.ExtTreeMap.size_insert_le).trans (Nat.succ_le_succ holds.2)⟩
        rw [Std.ExtTreeMap.getElem?_insert] at found
        split at found
        · rw [Option.some.injEq] at found
          exact found ▸ compact
        · exact holds.1 address account found)
  exact ⟨read.1, read.2.trans (Nat.le_of_not_lt few)⟩

end Accepted

end Zkdeal

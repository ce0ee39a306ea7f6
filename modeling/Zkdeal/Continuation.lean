/-
This file follows the representation of the room state through a batch and into
the next one.

Four writers touch the account map: the opening reader, the import mirror, the
deposit credits and the commit of a transaction. None of them leaves an empty
record or a zero slot behind, and none writes outside the access envelope unless
it latches a violation. A state without a violation is therefore small enough to
be listed again: its accounts and slots, in order and without proofs, are a
complete witness, and reading that witness gives the same account map back.
-/

import Zkdeal.Library.Maps
import Zkdeal.Deposits

namespace Zkdeal

open Words Guard Maps

/-! ### What the writers keep -/

/-- An account that the trie would not drop: it has a nonce, a balance or code. -/
def AccountRecord.IsPresent (account : AccountRecord) : Prop :=
  ¬ (account.nonce = 0 ∧ account.balance = 0 ∧ account.code = [])

/-- A record is not empty and stores no zero. -/
structure AccountRecord.IsSound (account : AccountRecord) : Prop where
  live : account.isEmpty = false
  slotsLive : ∀ (slot value : U256), account.storage[slot]? = some value → value ≠ 0

theorem AccountRecord.IsPresent.live {account : AccountRecord} (present : account.IsPresent) :
    account.isEmpty = false := by
  unfold AccountRecord.IsPresent at present
  simp only [AccountRecord.isEmpty, Bool.and_eq_false_iff, beq_eq_false_iff_ne,
    List.isEmpty_eq_false_iff]
  tauto

/-- The record lies inside the access envelope. -/
structure StateMap.Encloses (state : StateMap) (address : Address) (account : AccountRecord) :
    Prop where
  declared : state.declaresAccount address = true
  slots : ∀ (slot value : U256), account.storage[slot]? = some value →
    state.declaresStorage address slot = true

/-- The representation invariant: every record is sound, and lies inside the envelope as long
as no violation is latched. -/
structure StateMap.IsSound (state : StateMap) : Prop where
  records : ∀ (address : Address) (account : AccountRecord),
    state.accounts[address]? = some account → account.IsSound
  inside : state.accessViolation = none → ∀ (address : Address) (account : AccountRecord),
    state.accounts[address]? = some account → state.Encloses address account

/-- Two states under one envelope. -/
structure StateMap.SameEnvelope (first second : StateMap) : Prop where
  accounts : second.accessAccounts = first.accessAccounts
  storage : second.accessStorage = first.accessStorage

theorem StateMap.SameEnvelope.encloses {first second : StateMap} {address : Address}
    {account : AccountRecord} (same : first.SameEnvelope second)
    (encloses : first.Encloses address account) : second.Encloses address account := by
  obtain ⟨accounts, storage⟩ := same
  obtain ⟨declared, slots⟩ := encloses
  unfold StateMap.declaresAccount at declared
  unfold StateMap.declaresStorage at slots
  constructor
  · rw [StateMap.declaresAccount, accounts]
    exact declared
  · intro slot value found
    rw [StateMap.declaresStorage, storage]
    exact slots slot value found

theorem StateMap.SameEnvelope.trans {first second third : StateMap}
    (left : first.SameEnvelope second) (right : second.SameEnvelope third) :
    first.SameEnvelope third :=
  ⟨right.accounts.trans left.accounts, right.storage.trans left.storage⟩

theorem StateMap.SameEnvelope.symm {first second : StateMap} (same : first.SameEnvelope second) :
    second.SameEnvelope first :=
  ⟨same.accounts.symm, same.storage.symm⟩

/-- Writing a slot leaves the old entries and, unless it is zero, the new one. -/
theorem forall_writeSlot {property : U256 → U256 → Prop} {storage : BTreeMap U256 U256}
    {entry : U256 × U256}
    (holds : ∀ (slot value : U256), storage[slot]? = some value → property slot value)
    (written : entry.2 ≠ 0 → property entry.1 entry.2) :
    ∀ (slot value : U256), (writeSlot storage entry)[slot]? = some value →
      property slot value := by
  unfold writeSlot
  split
  · exact forall_getElem?_erase holds
  · rename_i nonzero
    exact forall_getElem?_insert holds (written nonzero)

theorem forall_foldl_writeSlot {property : U256 → U256 → Prop} {storage : BTreeMap U256 U256}
    {entries : List (U256 × U256)}
    (holds : ∀ (slot value : U256), storage[slot]? = some value → property slot value)
    (written : ∀ entry ∈ entries, entry.2 ≠ 0 → property entry.1 entry.2) :
    ∀ (slot value : U256), (entries.foldl writeSlot storage)[slot]? = some value →
      property slot value := by
  induction entries generalizing storage with
  | nil => exact holds
  | cons entry rest inductionHypothesis =>
    rw [List.forall_mem_cons] at written
    exact inductionHypothesis (forall_writeSlot holds written.1) written.2

/-- The slots of a record that is looked up with the empty one as a default. -/
theorem forall_storage_getD {property : U256 → U256 → Prop} {state : StateMap} {address : Address}
    (holds : ∀ account, state.accounts[address]? = some account →
      ∀ (slot value : U256), account.storage[slot]? = some value → property slot value) :
    ∀ (slot value : U256), (state.accounts.getD address default).storage[slot]? = some value →
      property slot value := by
  rw [Std.ExtTreeMap.getD_eq_getD_getElem?]
  cases found : state.accounts[address]? with
  | some account => exact holds account found
  | none =>
    intro slot value stored
    have none : (∅ : BTreeMap U256 U256)[slot]? = some value := stored
    rw [Std.ExtTreeMap.getElem?_empty] at none
    cases none

/-- Replacing one record by a sound one inside the envelope keeps the invariant. -/
theorem StateMap.IsSound.insert {before after : StateMap} {address : Address}
    {account : AccountRecord} (sound : before.IsSound) (envelope : before.SameEnvelope after)
    (violation : after.accessViolation = none → before.accessViolation = none)
    (accounts : after.accounts = before.accounts.insert address account)
    (added : account.IsSound)
    (inside : after.accessViolation = none → before.Encloses address account) :
    after.IsSound := by
  constructor
  · rw [accounts]
    exact forall_getElem?_insert sound.records added
  · intro clean
    rw [accounts]
    exact forall_getElem?_insert
      (fun other found lookup =>
        envelope.encloses (sound.inside (violation clean) other found lookup))
      (envelope.encloses (inside clean))

/-- Removing one record keeps the invariant. -/
theorem StateMap.IsSound.erase {before after : StateMap} {address : Address}
    (sound : before.IsSound) (envelope : before.SameEnvelope after)
    (violation : after.accessViolation = none → before.accessViolation = none)
    (accounts : after.accounts = before.accounts.erase address) : after.IsSound := by
  constructor
  · rw [accounts]
    exact forall_getElem?_erase sound.records
  · intro clean
    rw [accounts]
    exact forall_getElem?_erase fun other found lookup =>
      envelope.encloses (sound.inside (violation clean) other found lookup)

/-! ### Commits -/

/-- No violation is latched exactly when there was none and everything written is declared. -/
theorem StateMap.latchViolation_eq_none {state : StateMap} {address : Address}
    {account : EvmAccount} :
    state.latchViolation address account = none ↔
      state.accessViolation = none ∧ state.declaresAccount address = true ∧
        ∀ entry ∈ account.storage.entries, state.declaresStorage address entry.1 = true := by
  have latch : ∀ (entries : List (U256 × U256)) (latched : Option StfDbError),
      entries.foldl (fun latched entry => latched.or
        (if state.declaresStorage address entry.1 then none
          else some (.undeclaredStorage address entry.1))) latched = none ↔
        latched = none ∧ ∀ entry ∈ entries, state.declaresStorage address entry.1 = true := by
    intro entries
    induction entries with
    | nil => simp
    | cons entry rest inductionHypothesis =>
      intro latched
      rw [List.foldl_cons, inductionHypothesis, Option.or_eq_none_iff, List.forall_mem_cons]
      simp [and_assoc]
  unfold StateMap.latchViolation
  rw [latch, Option.or_eq_none_iff]
  simp [and_assoc]

/-- Merging a change into a sound record leaves only non-zero slots, each of them old or
written. -/
theorem mergeRecord_storage {property : U256 → U256 → Prop} {primitives : Primitives}
    {record : AccountRecord} {account : EvmAccount}
    (holds : ∀ (slot value : U256), record.storage[slot]? = some value → property slot value)
    (written : ∀ entry ∈ account.storage.entries, entry.2 ≠ 0 → property entry.1 entry.2) :
    ∀ (slot value : U256), (mergeRecord primitives record account).storage[slot]? = some value →
      property slot value := by
  refine forall_foldl_writeSlot ?_ written
  split
  · intro slot value stored
    rw [Std.ExtTreeMap.getElem?_empty] at stored
    cases stored
  · exact holds

theorem StateMap.IsSound.commitAccount {state : StateMap} (sound : state.IsSound)
    (primitives : Primitives) (change : Address × EvmAccount) :
    (state.commitAccount primitives change).IsSound ∧
      state.SameEnvelope (state.commitAccount primitives change) := by
  unfold StateMap.commitAccount
  split
  · have clean : state.latchViolation change.1 change.2 = none → state.accessViolation = none :=
      fun latched => (StateMap.latchViolation_eq_none.mp latched).1
    dsimp only
    split
    · exact ⟨sound.erase ⟨rfl, rfl⟩ clean rfl, ⟨rfl, rfl⟩⟩
    · rename_i kept
      rw [Bool.or_eq_true, not_or, Bool.not_eq_true, Bool.not_eq_true] at kept
      refine ⟨sound.insert ⟨rfl, rfl⟩ clean rfl ⟨kept.2, ?_⟩ fun latched => ?_, ⟨rfl, rfl⟩⟩
      · refine mergeRecord_storage (forall_storage_getD fun account found => ?_)
          fun entry _ nonzero => nonzero
        exact (sound.records change.1 account found).slotsLive
      · obtain ⟨none, declared, slots⟩ := StateMap.latchViolation_eq_none.mp latched
        refine ⟨declared, mergeRecord_storage (forall_storage_getD fun account found => ?_)
          fun entry member _ => slots entry member⟩
        exact (sound.inside none change.1 account found).slots
  · exact ⟨sound, ⟨rfl, rfl⟩⟩

/-- A property that the commit of every account keeps survives any number of commits. -/
theorem StateMap.commits_preserve {primitives : Primitives} (property : StateMap → Prop)
    (step : ∀ state change, property state → property (state.commitAccount primitives change))
    {state : StateMap} (holds : property state) (changes : List AccountChanges) :
    property (changes.foldl (StateMap.commit primitives) state) := by
  have flat : changes.foldl (StateMap.commit primitives) state =
      (changes.flatMap AccountChanges.entries).foldl (StateMap.commitAccount primitives) state :=
    List.foldl_flatMap.symm
  rw [flat]
  clear flat
  induction changes.flatMap AccountChanges.entries generalizing state with
  | nil => exact holds
  | cons change rest inductionHypothesis => exact inductionHypothesis (step state change holds)

/-! ### The import and the credits -/

/-- What holds between the opening and the first transaction: the invariant, with every account
present and no violation, under the envelope of the opening. -/
structure StateMap.IsOpen (opening state : StateMap) : Prop where
  sound : state.IsSound
  present : ∀ (address : Address) (account : AccountRecord),
    state.accounts[address]? = some account → account.IsPresent
  clean : state.accessViolation = none
  envelope : opening.SameEnvelope state

/-- Replacing one record by a present one with non-zero slots inside the envelope. -/
theorem StateMap.IsOpen.insert {opening state : StateMap} {address : Address}
    {account : AccountRecord} (opened : opening.IsOpen state) (present : account.IsPresent)
    (slotsLive : ∀ (slot value : U256), account.storage[slot]? = some value → value ≠ 0)
    (inside : state.Encloses address account) :
    opening.IsOpen { state with accounts := state.accounts.insert address account } where
  sound := opened.sound.insert ⟨rfl, rfl⟩ id rfl ⟨present.live, slotsLive⟩ fun _ => inside
  present := forall_getElem?_insert opened.present present
  clean := opened.clean
  envelope := opened.envelope.trans ⟨rfl, rfl⟩

theorem mirrorBinding_isOpen {values : BTreeMap U256 U256} {opening before after : StateMap}
    {pair : L1MirrorBindingV5 × CertifiedImportBindingV5} (opened : opening.IsOpen before)
    (mirrored : mirrorBinding values before pair = .ok after) : opening.IsOpen after := by
  obtain ⟨-, mirrored⟩ := refuse_bind_eq_ok.mp mirrored
  obtain ⟨value, -, mirrored⟩ := bind_eq_ok.mp mirrored
  obtain ⟨declared, mirrored⟩ := refuse_bind_eq_ok.mp mirrored
  obtain ⟨account, found, mirrored⟩ := bind_eq_ok.mp mirrored
  have known := orRefuse_eq_ok.mp found
  have sound := opened.sound.records _ account known
  have inside := opened.sound.inside opened.clean _ account known
  have target : before.declaresStorage pair.1.roomContract pair.1.roomSlot = true := by
    unfold StateMap.declaresStorage
    split
    · rename_i allowed same
      simpa [same] using declared
    · rfl
  cases pure_eq_ok.mp mirrored
  refine opened.insert (opened.present _ account known) ?_ ⟨inside.declared, ?_⟩
  · exact forall_writeSlot sound.slotsLive id
  · exact forall_writeSlot inside.slots fun _ => target

theorem verifyAndApplyImportV5_isOpen {primitives : Primitives} {input : BatchInputV5}
    {opening before after : StateMap} (opened : opening.IsOpen before)
    (applied : verifyAndApplyImportV5 primitives input before = .ok after) :
    opening.IsOpen after := by
  unfold verifyAndApplyImportV5 at applied
  split at applied
  · obtain ⟨⟨⟩, -, applied⟩ := bind_eq_ok.mp applied
    cases pure_eq_ok.mp applied
    exact opened
  · obtain ⟨⟨⟩, -, applied⟩ := bind_eq_ok.mp applied
    obtain ⟨⟨⟩, -, applied⟩ := bind_eq_ok.mp applied
    obtain ⟨progress, -, applied⟩ := bind_eq_ok.mp applied
    obtain ⟨-, applied⟩ := refuse_bind_eq_ok.mp applied
    obtain ⟨-, applied⟩ := refuse_bind_eq_ok.mp applied
    exact foldlM_preserves opening.IsOpen applied opened
      fun _ _ _ _ opened mirrored => mirrorBinding_isOpen opened mirrored

theorem creditNative_isOpen {opening before after : StateMap} {beneficiary : Address} {net : U256}
    (positive : 0 < net.toNat) (opened : opening.IsOpen before)
    (credited : creditNative before beneficiary net = .ok after) : opening.IsOpen after := by
  obtain ⟨declared, credited⟩ := refuse_bind_eq_ok.mp credited
  obtain ⟨balance, added, credited⟩ := bind_eq_ok.mp credited
  have sum := checkedAdd_eq_some.mp (orRefuse_eq_ok.mp added)
  cases pure_eq_ok.mp credited
  refine opened.insert ?_ ?_ ⟨Bool.not_eq_false _ ▸ declared, ?_⟩
  · rintro ⟨-, zero, -⟩
    have := toNat_eq_zero.mpr zero
    dsimp only at this
    omega
  · exact forall_storage_getD fun account found =>
      (opened.sound.records beneficiary account found).slotsLive
  · exact forall_storage_getD fun account found =>
      (opened.sound.inside opened.clean beneficiary account found).slots

theorem creditToken_isOpen {keccak256 : Bytes → B256} {policy : ExecutionPolicyV5}
    {opening before after : StateMap} {deposit : DepositV5} {net : U256}
    (positive : 0 < net.toNat) (opened : opening.IsOpen before)
    (credited : creditToken keccak256 policy before deposit net = .ok after) :
    opening.IsOpen after := by
  obtain ⟨bound, -, credited⟩ := bind_eq_ok.mp credited
  obtain ⟨current, read, credited⟩ := bind_eq_ok.mp credited
  obtain ⟨total, added, credited⟩ := bind_eq_ok.mp credited
  obtain ⟨account, found, credited⟩ := bind_eq_ok.mp credited
  obtain ⟨declared, -⟩ := refuse_bind_eq_ok.mp read
  have sum := checkedAdd_eq_some.mp (orRefuse_eq_ok.mp added)
  have known := orRefuse_eq_ok.mp found
  have inside := opened.sound.inside opened.clean _ account known
  cases pure_eq_ok.mp credited
  refine opened.insert (opened.present _ account known) ?_ ⟨inside.declared, ?_⟩
  · refine forall_getElem?_insert (opened.sound.records _ account known).slotsLive ?_
    intro zero
    have := toNat_eq_zero.mpr zero
    omega
  · exact forall_getElem?_insert inside.slots (Bool.not_eq_false _ ▸ declared)

theorem applyDepositCreditsV5_isOpen {keccak256 : Bytes → B256} {input : BatchInputV5}
    {opening before after : StateMap} (opened : opening.IsOpen before)
    (applied : applyDepositCreditsV5 keccak256 input before = .ok after) :
    opening.IsOpen after := by
  refine foldlM_preserves opening.IsOpen applied opened
    fun deposit _ state next opened stepped => ?_
  cases creditDeposit_cases stepped with
  | refunded _ same => exact same ▸ opened
  | usedUp _ _ same => exact same ▸ opened
  | native _ net positive _ _ credited => exact creditNative_isOpen positive opened credited
  | token _ net positive _ _ credited => exact creditToken_isOpen positive opened credited

/-! ### The opening -/

/-- The slots read from one account: the set holds all of them, the map the non-zero ones. -/
theorem verifyCompactSlots_listed {primitives : Primitives} {canonical : Bool}
    {storageRoot : B256} {slots : List CompactStorageWitnessV4} {finish : CompactStorageProgress}
    (ran : slots.foldlM (verifyCompactSlot primitives canonical storageRoot)
      CompactStorageProgress.start = .ok finish) :
    (∀ slot : U256, finish.slots.contains slot = slots.any fun entry => entry.slot == slot) ∧
      ∀ slot value : U256, finish.storage[slot]? = some value →
        value ≠ 0 ∧ finish.slots.contains slot = true := by
  refine foldlM_invariant (fun consumed progress =>
    (∀ slot : U256, progress.slots.contains slot = consumed.any fun entry => entry.slot == slot) ∧
      ∀ slot value : U256, progress.storage[slot]? = some value →
        value ≠ 0 ∧ progress.slots.contains slot = true) ran
    (by simp [CompactStorageProgress.start]) ?_
  intro consumed item before after holds stepped
  obtain ⟨-, stepped⟩ := refuse_bind_eq_ok.mp stepped
  obtain ⟨-, -, stepped⟩ := bind_eq_ok.mp stepped
  cases pure_eq_ok.mp stepped
  refine ⟨fun slot => ?_, ?_⟩
  · rw [contains_insert, holds.1, List.any_append, List.any_cons, List.any_nil, Bool.or_false,
      Bool.or_comm]
  · have kept : ∀ slot value : U256, before.storage[slot]? = some value →
        value ≠ 0 ∧ (before.slots.insert item.slot).contains slot = true := by
      intro slot value stored
      rw [contains_insert, (holds.2 slot value stored).2, Bool.or_true]
      exact ⟨(holds.2 slot value stored).1, rfl⟩
    dsimp only
    split
    · exact kept
    · rename_i nonzero
      exact forall_getElem?_insert kept ⟨nonzero, by simp⟩

/-- What reading one account of a witness does. -/
structure ReadsAccount (before : CompactProgress) (account : CompactAccountWitnessV4)
    (after : CompactProgress) : Prop where
  above : ∀ previous, before.previousAddress = some previous → previous < account.address
  last : after.previousAddress = some account.address
  storageCount : after.storageCount = before.storageCount + account.storage.length
  fewSlots : after.storageCount ≤ maxCompactStorageSlotsV4
  allowedAccounts : after.allowedAccounts = before.allowedAccounts.insert account.address
  reads : ∃ slots : BTreeSet U256,
    after.allowedStorage = before.allowedStorage.insert account.address slots ∧
      (∀ slot, slots.contains slot = account.storage.any fun entry => entry.slot == slot) ∧
      (after.records = before.records ∨ ∃ record : AccountRecord,
        after.records = before.records.insert account.address record ∧ record.IsPresent ∧
          ∀ slot value : U256, record.storage[slot]? = some value →
            value ≠ 0 ∧ slots.contains slot = true)

theorem verifyCompactAccount_reads {primitives : Primitives} {canonicalStateRoot : B256}
    {before after : CompactProgress} {account : CompactAccountWitnessV4}
    (accepted : verifyCompactAccount primitives canonicalStateRoot before account = .ok after) :
    ReadsAccount before account after := by
  obtain ⟨counted, value, storage, ordered, resources, -, -, shaped, -, read, rfl⟩ :=
    verifyCompactAccount_eq_ok accepted
  obtain ⟨listed, stored⟩ := verifyCompactSlots_listed read
  obtain ⟨storageCount, fewSlots⟩ := countCompactResources_storageCount resources
  refine ⟨?_, rfl, storageCount, fewSlots, rfl, storage.slots, rfl, listed, ?_⟩
  · intro previous known
    simpa [known] using ordered
  · by_cases present : account.exists = true
    · exact .inr ⟨_, if_pos present, compactAccountValue_spec shaped present, stored⟩
    · exact .inl (if_neg present)

/-- What a loop over the accounts of a witness has read: the addresses in order, the slots
counted, the envelope listed, and present records inside it. -/
structure ReadsAccounts (consumed : List CompactAccountWitnessV4) (progress : CompactProgress) :
    Prop where
  increasing : Increasing CompactAccountWitnessV4.address consumed progress.previousAddress
  storageCount : progress.storageCount = (consumed.map fun account => account.storage.length).sum
  fewSlots : progress.storageCount ≤ maxCompactStorageSlotsV4
  allowedAccounts : ∀ address, progress.allowedAccounts.contains address =
    consumed.any fun account => account.address == address
  allowedStorage : ∀ address slot,
    (progress.allowedStorage[address]?.any fun slots => slots.contains slot) =
      (consumed.find? fun account => account.address == address).any fun account =>
        account.storage.any fun entry => entry.slot == slot
  records : ∀ (address : Address) (record : AccountRecord),
    progress.records[address]? = some record → record.IsPresent ∧
      progress.allowedAccounts.contains address = true ∧
        ∀ slot value : U256, record.storage[slot]? = some value → value ≠ 0 ∧
          (progress.allowedStorage[address]?.any fun slots => slots.contains slot) = true

theorem readsAccounts_start : ReadsAccounts [] CompactProgress.start where
  increasing := increasing_nil
  storageCount := rfl
  fewSlots := Nat.zero_le _
  allowedAccounts _ := by simp [CompactProgress.start]
  allowedStorage _ _ := by simp [CompactProgress.start]
  records _ _ found := by simp [CompactProgress.start] at found

theorem ReadsAccounts.concat {consumed : List CompactAccountWitnessV4}
    {before after : CompactProgress} {account : CompactAccountWitnessV4}
    (known : ReadsAccounts consumed before) (step : ReadsAccount before account after) :
    ReadsAccounts (consumed ++ [account]) after := by
  obtain ⟨slots, allowedStorage, listed, records⟩ := step.reads
  have fresh : ∀ other ∈ consumed, other.address ≠ account.address := fun other member same =>
    absurd (known.increasing.above step.above other member) (by rw [same]; exact BitVec.lt_irrefl _)
  have new : ∀ address, (consumed.any fun other => other.address == address) = true →
      account.address ≠ address := by
    intro address old same
    obtain ⟨other, member, equal⟩ := List.any_eq_true.mp old
    exact fresh other member ((beq_iff_eq.mp equal).trans same.symm)
  have lookup : ∀ address, account.address ≠ address →
      after.allowedStorage[address]? = before.allowedStorage[address]? := by
    intro address different
    rw [allowedStorage, Std.ExtTreeMap.getElem?_insert,
      if_neg (mt Std.compare_eq_iff_eq.mp different)]
  have added : after.allowedStorage[account.address]? = some slots := by
    rw [allowedStorage, Std.ExtTreeMap.getElem?_insert_self]
  refine ⟨?_, ?_, step.fewSlots, ?_, ?_, ?_⟩
  · rw [step.last]
    exact known.increasing.concat step.above
  · rw [step.storageCount, known.storageCount, List.map_append, List.sum_append, List.map_singleton,
      List.sum_singleton]
  · intro address
    rw [step.allowedAccounts, contains_insert, known.allowedAccounts, List.any_append,
      List.any_cons,
      List.any_nil, Bool.or_false, Bool.or_comm]
  · intro address slot
    rw [List.find?_append]
    by_cases same : account.address = address
    · have absent : (consumed.find? fun other => other.address == address) = none := by
        rw [List.find?_eq_none]
        intro other member
        rw [beq_iff_eq, ← same]
        exact fresh other member
      rw [absent, Option.none_or, List.find?_cons_of_pos (by simpa using same), ← same, added,
        Option.any_some, Option.any_some, listed]
    · rw [List.find?_cons_of_neg (by simpa using same), List.find?_nil, Option.or_none,
        ← known.allowedStorage, lookup address same]
  · have kept : ∀ (address : Address) (record : AccountRecord),
        before.records[address]? = some record → record.IsPresent ∧
          after.allowedAccounts.contains address = true ∧
            ∀ slot value : U256, record.storage[slot]? = some value → value ≠ 0 ∧
              (after.allowedStorage[address]?.any fun slots => slots.contains slot) = true := by
      intro address record found
      obtain ⟨present, allowed, stored⟩ := known.records address record found
      refine ⟨present, ?_, ?_⟩
      · rw [step.allowedAccounts, contains_insert, allowed, Bool.or_true]
      · rw [lookup address (new address (known.allowedAccounts address ▸ allowed))]
        exact stored
    obtain same | ⟨record, inserted, present, stored⟩ := records
    · rw [same]
      exact kept
    · rw [inserted]
      refine forall_getElem?_insert kept ⟨present, ?_, ?_⟩
      · rw [step.allowedAccounts, contains_insert, beq_self_eq_true, Bool.true_or]
      · rw [added]
        exact stored

/-- A state that a witness opens: its envelope is what the witness lists, within the bounds. -/
structure OpensWith (witness : CompactStateWitnessV4) (state : StateMap) : Prop where
  isOpen : state.IsOpen state
  fewAccounts : witness.accounts.length ≤ maxCompactAccountsV4
  fewSlots : (witness.accounts.map fun account => account.storage.length).sum ≤
    maxCompactStorageSlotsV4
  declaresAccount : ∀ address, state.declaresAccount address =
    witness.accounts.any fun account => account.address == address
  declaresStorage : ∀ address slot, state.declaresStorage address slot =
    (witness.accounts.find? fun account => account.address == address).any fun account =>
      account.storage.any fun entry => entry.slot == slot

theorem verifyCompactStateV4_opensWith {primitives : Primitives} {witness : CompactStateWitnessV4}
    {state : StateMap} (accepted : verifyCompactStateV4 primitives witness = .ok state) :
    OpensWith witness state := by
  obtain ⟨few, accepted⟩ := refuse_bind_eq_ok.mp accepted
  obtain ⟨progress, ran, accepted⟩ := bind_eq_ok.mp accepted
  have read : ReadsAccounts witness.accounts progress :=
    foldlM_invariant ReadsAccounts ran readsAccounts_start
      fun _ _ _ _ known stepped => known.concat (verifyCompactAccount_reads stepped)
  cases pure_eq_ok.mp accepted
  refine ⟨⟨⟨?_, ?_⟩, ?_, rfl, ⟨rfl, rfl⟩⟩, Nat.le_of_not_lt few, ?_, read.allowedAccounts,
    read.allowedStorage⟩
  · intro address account found
    obtain ⟨present, -, stored⟩ := read.records address account found
    exact ⟨present.live, fun slot value holds => (stored slot value holds).1⟩
  · intro _ address account found
    obtain ⟨-, allowed, stored⟩ := read.records address account found
    exact ⟨allowed, fun slot value holds => (stored slot value holds).2⟩
  · exact fun address account found => (read.records address account found).1
  · exact read.storageCount ▸ read.fewSlots

/-! ### The size of a state inside the envelope -/

/-- Inside the envelope, every record has a listed account with at least as many slots. -/
theorem OpensWith.exists_listed {witness : CompactStateWitnessV4} {opening : StateMap}
    (opened : OpensWith witness opening) {address : Address} {account : AccountRecord}
    (inside : opening.Encloses address account) :
    ∃ listed ∈ witness.accounts, listed.address = address ∧
      account.storage.size ≤ listed.storage.length := by
  obtain ⟨declared, slots⟩ := inside
  rw [opened.declaresAccount, List.any_eq_true] at declared
  obtain ⟨listed, found⟩ := Option.isSome_iff_exists.mp (List.find?_isSome.mpr declared)
  refine ⟨listed, List.mem_of_find?_eq_some found, by simpa using List.find?_some found, ?_⟩
  rw [← List.length_map CompactStorageWitnessV4.slot]
  refine size_le_length fun slot value stored => ?_
  have listedSlot := slots slot value stored
  rw [opened.declaresStorage, found, Option.any_some, List.any_eq_true] at listedSlot
  obtain ⟨entry, member, same⟩ := listedSlot
  exact List.mem_map.mpr ⟨entry, member, beq_iff_eq.mp same⟩

/-- A state inside the envelope of the opening has no more accounts and slots than a witness
may list. -/
theorem OpensWith.size_le {witness : CompactStateWitnessV4} {opening state : StateMap}
    (opened : OpensWith witness opening)
    (inside : ∀ (address : Address) (account : AccountRecord),
      state.accounts[address]? = some account → opening.Encloses address account) :
    state.accounts.toList.length ≤ maxCompactAccountsV4 ∧
      (state.accounts.toList.map fun entry => entry.2.storage.size).sum ≤
        maxCompactStorageSlotsV4 := by
  have listed : ∀ entry ∈ state.accounts.toList, ∃ account ∈ witness.accounts,
      account.address = entry.1 ∧ entry.2.storage.size ≤ account.storage.length :=
    fun entry member => opened.exists_listed
      (inside entry.1 entry.2 (Std.ExtTreeMap.mem_toList_iff_getElem?_eq_some.mp member))
  constructor
  · rw [Std.ExtTreeMap.length_toList]
    refine le_trans ?_ opened.fewAccounts
    rw [← List.length_map CompactAccountWitnessV4.address]
    refine size_le_length fun address account found => ?_
    obtain ⟨other, member, same, -⟩ :=
      listed (address, account) (Std.ExtTreeMap.mem_toList_iff_getElem?_eq_some.mpr found)
    exact List.mem_map.mpr ⟨other, member, same⟩
  · exact (sum_le_sum_of_partner nodup_map_fst_toList listed).trans opened.fewSlots

/-! ### Reading a listed state -/

/-- A slot listed without a proof. -/
def listSlot (entry : U256 × U256) : CompactStorageWitnessV4 := ⟨entry.1, entry.2, []⟩

theorem proof_eq_nil_of_listed {entries : List (U256 × U256)} {slot : CompactStorageWitnessV4}
    (member : slot ∈ entries.map listSlot) : slot.proof = [] := by
  obtain ⟨entry, -, rfl⟩ := List.mem_map.mp member
  rfl

/-- An account listed without proofs; its storage root is not looked at. -/
def listAccount (storageRoots : Address → B256) (entry : Address × AccountRecord) :
    CompactAccountWitnessV4 where
  address := entry.1
  «exists» := true
  nonce := entry.2.nonce
  balance := entry.2.balance
  code := entry.2.code
  canonicalStorageRoot := storageRoots entry.1
  accountProof := []
  storage := entry.2.storage.toList.map listSlot

/-- The accounts and slots of a state, in order and without proofs. -/
def StateMap.listed (state : StateMap) (storageRoots : Address → B256) :
    CompactStateWitnessV4 where
  canonicalStateRoot := 0
  accounts := state.accounts.toList.map (listAccount storageRoots)

section Relisted

variable {primitives : Primitives}

/-- The slots read from a list: the last one is among them, and the map holds just them. -/
structure ReadsSlots (consumed : List (U256 × U256)) (progress : CompactStorageProgress) :
    Prop where
  last : ∀ previous, progress.previousSlot = some previous → ∃ entry ∈ consumed, entry.1 = previous
  entries : ∀ slot value : U256, progress.storage[slot]? = some value ↔ (slot, value) ∈ consumed

/-- Listing non-zero slots in order and reading them gives the storage back. -/
theorem exists_verifyCompactSlots (primitives : Primitives) {storage : BTreeMap U256 U256}
    (storageRoot : B256)
    (live : ∀ slot value : U256, storage[slot]? = some value → value ≠ 0) :
    ∃ finish, (storage.toList.map listSlot).foldlM
        (verifyCompactSlot primitives false storageRoot) CompactStorageProgress.start =
          .ok finish ∧ finish.storage = storage := by
  have reads : ∃ finish, storage.toList.foldlM (fun progress entry =>
      verifyCompactSlot primitives false storageRoot progress (listSlot entry))
        CompactStorageProgress.start = .ok finish ∧ ReadsSlots storage.toList finish := by
    refine foldlM_exists_eq_ok ReadsSlots ⟨by simp [CompactStorageProgress.start], by
      simp [CompactStorageProgress.start]⟩ fun consumed entry rest progress split known => ?_
    have above := lt_of_toList_eq split
    have nonzero : entry.2 ≠ 0 := live entry.1 entry.2
      (Std.ExtTreeMap.mem_toList_iff_getElem?_eq_some.mp (split ▸ by simp))
    have ordered : ¬ (progress.previousSlot.any fun previous => entry.1 ≤ previous) = true := by
      intro refused
      obtain ⟨previous, found, low⟩ := (Option.any_eq_true _ _).mp refused
      obtain ⟨other, member, rfl⟩ := known.last previous found
      exact BitVec.not_lt.mpr (of_decide_eq_true low) (above other member)
    refine ⟨_, refuse_bind_eq_ok.mpr ⟨ordered, bind_eq_ok.mpr ⟨(), rfl, rfl⟩⟩, ?_, ?_⟩
    · intro previous found
      exact ⟨entry, by simp, Option.some.inj found⟩
    · rw [if_neg (show ¬ (listSlot entry).value = 0 from nonzero)]
      exact getElem?_insert_iff_mem known.entries fun other member same =>
        BitVec.lt_irrefl _ (same ▸ above other member)
  rw [List.foldlM_map]
  obtain ⟨finish, ran, read⟩ := reads
  exact ⟨finish, ran, eq_of_mem_toList read.entries⟩

theorem checkedUsizeAdd_eq_some {left right : Nat}
    (fits : left + right < 2 ^ primitives.usizeBits) :
    primitives.checkedUsizeAdd left right = some (left + right) := if_pos fits

/-- Slots without proofs add no proof nodes. -/
theorem foldlM_proofs_listSlot (entries : List (U256 × U256)) :
    (entries.map listSlot).foldlM (fun sum slot =>
      primitives.checkedUsizeAdd sum slot.proof.length) 0 = some 0 := by
  induction entries with
  | nil => rfl
  | cons entry rest inductionHypothesis =>
    rw [List.map_cons, List.foldlM_cons]
    have added : primitives.checkedUsizeAdd 0 (listSlot entry).proof.length = some 0 :=
      checkedUsizeAdd_eq_some (by simp [listSlot])
    rw [added]
    exact inductionHypothesis

theorem countCompactResources_listAccount (progress : CompactProgress)
    {entry : Address × AccountRecord} (storageRoots : Address → B256)
    (capFits : maxCompactCodeBytesV4 < 2 ^ primitives.usizeBits)
    (code : progress.codeBytes + entry.2.code.length ≤ maxCompactCodeBytesV4)
    (slots : progress.storageCount + entry.2.storage.size ≤ maxCompactStorageSlotsV4)
    (proofs : progress.proofCount = 0) :
    countCompactResources primitives progress (listAccount storageRoots entry) = .ok { progress with
      codeBytes := progress.codeBytes + entry.2.code.length
      storageCount := progress.storageCount + entry.2.storage.size
      proofCount := 0 } := by
  have slotLength : (listAccount storageRoots entry).storage.length = entry.2.storage.size := by
    rw [listAccount, List.length_map, Std.ExtTreeMap.length_toList]
  have smaller : maxCompactStorageSlotsV4 < maxCompactCodeBytesV4 := by decide
  refine bind_eq_ok.mpr ⟨_, orRefuse_eq_ok.mpr (checkedUsizeAdd_eq_some (by
    dsimp only [listAccount]; omega)), ?_⟩
  refine bind_eq_ok.mpr ⟨_, orRefuse_eq_ok.mpr (checkedUsizeAdd_eq_some (by
    rw [slotLength]; omega)), ?_⟩
  refine bind_eq_ok.mpr ⟨0, orRefuse_eq_ok.mpr ?_, ?_⟩
  · have own : primitives.checkedUsizeAdd progress.proofCount
        (listAccount storageRoots entry).accountProof.length = some 0 := by
      rw [proofs]
      exact checkedUsizeAdd_eq_some (by simp [listAccount])
    rw [own]
    exact foldlM_proofs_listSlot _
  · rw [slotLength]
    refine refuse_bind_eq_ok.mpr ⟨?_, rfl⟩
    dsimp only [listAccount]
    omega

/-- The accounts read from a list: the last one is among them, their code and slots are counted,
and the map holds just them. -/
structure ReadsListed (consumed : List (Address × AccountRecord)) (progress : CompactProgress) :
    Prop where
  last : ∀ previous, progress.previousAddress = some previous →
    ∃ entry ∈ consumed, entry.1 = previous
  codeBytes : progress.codeBytes = (consumed.map fun entry => entry.2.code.length).sum
  storageCount : progress.storageCount = (consumed.map fun entry => entry.2.storage.size).sum
  proofCount : progress.proofCount = 0
  entries : ∀ (address : Address) (account : AccountRecord),
    progress.records[address]? = some account ↔ (address, account) ∈ consumed

/-- A part of a list sums up to no more than the whole. -/
theorem sum_map_le_of_split {Item : Type} {items consumed rest : List Item} {item : Item}
    (size : Item → Nat) {bound : Nat} (split : consumed ++ item :: rest = items)
    (bounded : (items.map size).sum ≤ bound) : (consumed.map size).sum + size item ≤ bound := by
  rw [← split, List.map_append, List.sum_append, List.map_cons, List.sum_cons] at bounded
  omega

/-- Reading the next listed account succeeds and adds it. -/
theorem exists_verifyCompactAccount {accounts : BTreeMap Address AccountRecord}
    (storageRoots : Address → B256)
    (capFits : maxCompactCodeBytesV4 < 2 ^ primitives.usizeBits)
    (code : (accounts.toList.map fun entry => entry.2.code.length).sum ≤ maxCompactCodeBytesV4)
    (slots : (accounts.toList.map fun entry => entry.2.storage.size).sum ≤ maxCompactStorageSlotsV4)
    {consumed rest : List (Address × AccountRecord)} {entry : Address × AccountRecord}
    {progress : CompactProgress} (split : consumed ++ entry :: rest = accounts.toList)
    (present : entry.2.IsPresent)
    (live : ∀ slot value : U256, entry.2.storage[slot]? = some value → value ≠ 0)
    (known : ReadsListed consumed progress) :
    ∃ next, verifyCompactAccount primitives 0 progress (listAccount storageRoots entry) = .ok next ∧
      ReadsListed (consumed ++ [entry]) next := by
  have above := lt_of_toList_eq split
  have ordered : ¬ (progress.previousAddress.any fun previous => entry.1 ≤ previous) = true := by
    intro refused
    obtain ⟨previous, found, low⟩ := (Option.any_eq_true _ _).mp refused
    obtain ⟨other, member, rfl⟩ := known.last previous found
    exact BitVec.not_lt.mpr (of_decide_eq_true low) (above other member)
  have counted := countCompactResources_listAccount progress storageRoots capFits
    (known.codeBytes ▸ sum_map_le_of_split _ split code)
    (known.storageCount ▸ sum_map_le_of_split _ split slots) known.proofCount
  have noProofs : (listAccount storageRoots entry).proofNodes = [] := by
    rw [CompactAccountWitnessV4.proofNodes, listAccount, List.nil_append, List.flatMap_eq_nil_iff]
    exact fun slot member => proof_eq_nil_of_listed member
  obtain ⟨storage, read, same⟩ :=
    exists_verifyCompactSlots primitives (storageRoots entry.1) live
  refine ⟨_, refuse_bind_eq_ok.mpr ⟨ordered, bind_eq_ok.mpr ⟨_, counted,
    refuse_bind_eq_ok.mpr ⟨by simp [noProofs], refuse_bind_eq_ok.mpr ⟨?_,
      bind_eq_ok.mpr ⟨_, refuse_bind_eq_ok.mpr ⟨present, rfl⟩,
        bind_eq_ok.mpr ⟨(), rfl, bind_eq_ok.mpr ⟨storage, read, rfl⟩⟩⟩⟩⟩⟩⟩, ?_⟩
  · simp [listAccount, listSlot]
  · refine ⟨fun previous found => ⟨entry, by simp, Option.some.inj found⟩, ?_, ?_, rfl, ?_⟩
    · simp [known.codeBytes]
    · simp [known.storageCount]
    · have record : (⟨entry.2.nonce, entry.2.balance, entry.2.code, storage.storage⟩ :
          AccountRecord) = entry.2 := by rw [same]
      rw [if_pos (show (listAccount storageRoots entry).exists = true from rfl)]
      show ∀ (address : Address) (account : AccountRecord), (progress.records.insert entry.1
        ⟨entry.2.nonce, entry.2.balance, entry.2.code, storage.storage⟩)[address]? =
          some account ↔ _
      rw [record]
      exact getElem?_insert_iff_mem known.entries fun other member equal =>
        BitVec.lt_irrefl _ (equal ▸ above other member)

/-- A small state of present records without zero slots is read back from its list. -/
theorem verifyCompactStateV4_listed {state : StateMap} (storageRoots : Address → B256)
    (capFits : maxCompactCodeBytesV4 < 2 ^ primitives.usizeBits)
    (few : state.accounts.toList.length ≤ maxCompactAccountsV4)
    (code : (state.accounts.toList.map fun entry => entry.2.code.length).sum ≤
      maxCompactCodeBytesV4)
    (slots : (state.accounts.toList.map fun entry => entry.2.storage.size).sum ≤
      maxCompactStorageSlotsV4)
    (present : ∀ (address : Address) (account : AccountRecord),
      state.accounts[address]? = some account → account.IsPresent)
    (live : ∀ (address : Address) (account : AccountRecord),
      state.accounts[address]? = some account →
        ∀ slot value : U256, account.storage[slot]? = some value → value ≠ 0) :
    ∃ next, verifyCompactStateV4 primitives (state.listed storageRoots) = .ok next ∧
      next.accounts = state.accounts := by
  have reads : ∃ finish, state.accounts.toList.foldlM (fun progress entry =>
      verifyCompactAccount primitives 0 progress (listAccount storageRoots entry))
        CompactProgress.start = .ok finish ∧ ReadsListed state.accounts.toList finish := by
    refine foldlM_exists_eq_ok ReadsListed ⟨by simp [CompactProgress.start], rfl, rfl, rfl, by
      simp [CompactProgress.start]⟩ fun consumed entry rest progress split known => ?_
    have found : state.accounts[entry.1]? = some entry.2 :=
      Std.ExtTreeMap.mem_toList_iff_getElem?_eq_some.mp (split ▸ by simp)
    exact exists_verifyCompactAccount storageRoots capFits code slots split
      (present _ _ found) (live _ _ found) known
  obtain ⟨finish, ran, read⟩ := reads
  refine ⟨_, refuse_bind_eq_ok.mpr ⟨?_, bind_eq_ok.mpr ⟨finish, ?_, rfl⟩⟩,
    eq_of_mem_toList read.entries⟩
  · simpa [StateMap.listed] using few
  · rw [StateMap.listed, List.foldlM_map]
    exact ran

end Relisted

/-! ### A whole batch -/

/-- The states of a run: the opening, the state after the import, and the states after the
credits and any number of commits. -/
inductive RunReaches (primitives : Primitives) (input : BatchInputV5) (opening : StateMap) :
    StateMap → Prop
  | opened : RunReaches primitives input opening opening
  | imported {state : StateMap}
      (applied : verifyAndApplyImportV5 primitives input opening = .ok state) :
      RunReaches primitives input opening state
  | committed {imported credited : StateMap}
      (applied : verifyAndApplyImportV5 primitives input opening = .ok imported)
      (credits : applyDepositCreditsV5 primitives.keccak256 input imported = .ok credited)
      (changes : List AccountChanges) :
      RunReaches primitives input opening (changes.foldl (StateMap.commit primitives) credited)

theorem RunReaches.sound {primitives : Primitives} {input : BatchInputV5}
    {opening state : StateMap} (opened : opening.IsOpen opening)
    (reached : RunReaches primitives input opening state) :
    state.IsSound ∧ opening.SameEnvelope state := by
  cases reached with
  | opened => exact ⟨opened.sound, opened.envelope⟩
  | imported applied =>
    have reached := verifyAndApplyImportV5_isOpen opened applied
    exact ⟨reached.sound, reached.envelope⟩
  | committed applied credits changes =>
    have reached := applyDepositCreditsV5_isOpen
      (verifyAndApplyImportV5_isOpen opened applied) credits
    refine StateMap.commits_preserve (fun state => state.IsSound ∧ opening.SameEnvelope state) ?_
      ⟨reached.sound, reached.envelope⟩ changes
    intro state change holds
    obtain ⟨sound, envelope⟩ := holds.1.commitAccount primitives change
    exact ⟨sound, holds.2.trans envelope⟩

/-- In every state of a run no record is empty and no slot is zero, and everything lies inside
the envelope the batch opened with unless a violation is latched. A state without one whose
records are all present and whose code fits is a witness for the next opening: listed in order,
it is accepted and gives the same accounts. -/
theorem run_keeps_representation (primitives : Primitives) (witness : CompactStateWitnessV4)
    (opening : StateMap) (accepted : verifyCompactStateV4 primitives witness = .ok opening)
    (input : BatchInputV5) (state : StateMap)
    (reached : RunReaches primitives input opening state)
    (capFits : maxCompactCodeBytesV4 < 2 ^ primitives.usizeBits) :
    (∀ (address : Address) (account : AccountRecord), state.accounts[address]? = some account →
        account.isEmpty = false ∧
          ∀ slot value : U256, account.storage[slot]? = some value → value ≠ 0) ∧
      (state.accessViolation = none →
        ∀ (address : Address) (account : AccountRecord), state.accounts[address]? = some account →
          opening.declaresAccount address = true ∧
            ∀ slot value : U256, account.storage[slot]? = some value →
              opening.declaresStorage address slot = true) ∧
      (state.accessViolation = none →
        (∀ (address : Address) (account : AccountRecord), state.accounts[address]? = some account →
          ¬ (account.nonce = 0 ∧ account.balance = 0 ∧ account.code = [])) →
        (state.accounts.toList.map fun entry => entry.2.code.length).sum ≤
          maxCompactCodeBytesV4 →
        ∀ storageRoots : Address → B256, ∃ next,
          verifyCompactStateV4 primitives (state.listed storageRoots) = .ok next ∧
            next.accounts = state.accounts) := by
  have opened := verifyCompactStateV4_opensWith accepted
  obtain ⟨sound, envelope⟩ := reached.sound opened.isOpen
  have inside : state.accessViolation = none → ∀ (address : Address) (account : AccountRecord),
      state.accounts[address]? = some account → opening.Encloses address account :=
    fun clean address account found =>
      envelope.symm.encloses (sound.inside clean address account found)
  refine ⟨fun address account found => ?_, fun clean address account found => ?_,
    fun clean present code storageRoots => ?_⟩
  · exact ⟨(sound.records address account found).live,
      (sound.records address account found).slotsLive⟩
  · exact ⟨(inside clean address account found).declared,
      (inside clean address account found).slots⟩
  · obtain ⟨few, slots⟩ := opened.size_le (inside clean)
    exact verifyCompactStateV4_listed storageRoots capFits few code slots present
      fun address account found => (sound.records address account found).slotsLive

/-- The changes of a payment in the sample room. -/
def sampleChanges : AccountChanges where
  entries := [(3, ⟨true, false, false, 1, 99, sampleDigest [], none, ⟨[], by decide⟩⟩),
    (4, ⟨true, false, false, 0, 101, sampleDigest [], none, ⟨[], by decide⟩⟩)]
  distinct := by decide

/-- The opening of the sample room, its import and the credit of a deposit. -/
def sampleCredited : Except StfError (StateMap × StateMap × StateMap) := do
  let opening ← verifyCompactStateV4 samplePrimitives (sampleCompactState 0 sampleEmptyQueue)
  let imported ← verifyAndApplyImportV5 samplePrimitives sampleDepositBatch opening
  let credited ← applyDepositCreditsV5 sampleDigest sampleDepositBatch imported
  pure (opening, imported, credited)

theorem run_keeps_representation_sample :
    ∃ opening imported credited, sampleCredited = .ok (opening, imported, credited) ∧
      ∃ next, verifyCompactStateV4 samplePrimitives
          ((credited.commit samplePrimitives sampleChanges).listed fun _ => 0) = .ok next ∧
        next.accounts = (credited.commit samplePrimitives sampleChanges).accounts := by
  have evaluated : (sampleCredited.toOption.map fun states =>
      let state := states.2.2.commit samplePrimitives sampleChanges
      state.accessViolation.isNone &&
        state.accounts.toList.all (fun entry => ¬ (entry.2.nonce = 0 ∧ entry.2.balance = 0 ∧
          entry.2.code = [])) &&
        (state.accounts.toList.map fun entry => entry.2.code.length).sum ≤
          maxCompactCodeBytesV4) = some true := by
    decide +kernel
  obtain ⟨⟨opening, imported, credited⟩, ran, facts⟩ := toOption_map_eq_some evaluated
  simp only [Bool.and_eq_true, decide_eq_true_eq, Option.isNone_iff_eq_none,
    List.all_eq_true] at facts
  obtain ⟨⟨clean, present⟩, code⟩ := facts
  refine ⟨opening, imported, credited, ran, ?_⟩
  obtain ⟨_, accepted, ran⟩ := bind_eq_ok.mp ran
  obtain ⟨_, applied, ran⟩ := bind_eq_ok.mp ran
  obtain ⟨_, credits, ran⟩ := bind_eq_ok.mp ran
  cases pure_eq_ok.mp ran
  exact (run_keeps_representation samplePrimitives _ opening accepted sampleDepositBatch _
    (.committed applied credits [sampleChanges]) (by decide)).2.2 clean
      (fun address account found => present (address, account)
        (Std.ExtTreeMap.mem_toList_iff_getElem?_eq_some.mpr found)) code fun _ => 0

end Zkdeal

/-
This file is about what an authenticated L1 import leaves in the room. The mirror
writes run one after the other, so a slot holds what the last binding with that
destination wrote. The policy constructor keeps the destinations inside the
writable regions, but it does not keep them apart from each other.
-/

import Zkdeal.Library.Writes
import Zkdeal.Room.Batch

namespace Zkdeal

open Words Guard

section Import

variable {primitives : Primitives} {input : BatchInputV5} {l1Import : L1ImportWitnessV5}

/-! ### Authenticated values -/

/-- The value an import carries for a storage key of its source; an absent one is zero. -/
def L1ImportWitnessV5.valueAt (l1Import : L1ImportWitnessV5) (key : U256) : U256 :=
  ((l1Import.storage.find? fun slot => slot.key == key).map L1StorageSlotV5.value).getD 0

/-- A slot of the source account is proved against its storage root. -/
def SlotProved (primitives : Primitives) (l1Import : L1ImportWitnessV5) (slot : L1StorageSlotV5) :
    Prop :=
  primitives.verifyProof l1Import.sourceStorageRoot (primitives.keccak256 (wordBytes 32 slot.key))
    (if slot.value = 0 then none else some (Rlp.encodeWord slot.value)) slot.proof = .ok ()

/-- The slots authenticated so far and the map they are read from. -/
structure SlotsProved (primitives : Primitives) (l1Import : L1ImportWitnessV5)
    (slots : List L1StorageSlotV5) (progress : ImportProgress) : Prop where
  proofs : ∀ slot ∈ slots, SlotProved primitives l1Import slot
  bounded : ∀ slot ∈ slots, ∃ key, progress.previousKey = some key ∧ slot.key ≤ key
  sorted : slots.Pairwise fun earlier later => earlier.key < later.key
  values : ∀ key : U256, progress.values[key]? =
    (slots.find? fun slot => slot.key == key).map L1StorageSlotV5.value

theorem authenticateImportSlot_proved {slots : List L1StorageSlotV5} {slot : L1StorageSlotV5}
    {before after : ImportProgress} (holds : SlotsProved primitives l1Import slots before)
    (stepped : authenticateImportSlot primitives l1Import before slot = .ok after) :
    SlotsProved primitives l1Import (slots ++ [slot]) after := by
  obtain ⟨sorted, stepped⟩ := refuse_bind_eq_ok.mp stepped
  obtain ⟨proofNodes, -, stepped⟩ := bind_eq_ok.mp stepped
  obtain ⟨-, stepped⟩ := refuse_bind_eq_ok.mp stepped
  obtain ⟨⟨⟩, proof, stepped⟩ := bind_eq_ok.mp stepped
  rw [mapError_eq_ok] at proof
  rw [← pure_eq_ok.mp stepped]
  have beyond : ∀ previous, before.previousKey = some previous → previous < slot.key := by
    intro previous known
    rwa [known, Option.any_some, decide_eq_true_eq, BitVec.not_le] at sorted
  have increasing : Increasing L1StorageSlotV5.key slots before.previousKey :=
    ⟨holds.sorted, holds.bounded⟩
  have fresh : before.values[slot.key]? = none := by
    rw [holds.values, Option.map_eq_none_iff, List.find?_eq_none]
    intro other member same
    exact BitVec.ne_of_lt (increasing.above beyond other member) (beq_iff_eq.mp same)
  refine ⟨?_, (increasing.concat beyond).bounded, (increasing.concat beyond).sorted,
    getElem?_insert_eq_find? L1StorageSlotV5.key L1StorageSlotV5.value holds.values fresh⟩
  intro other member
  rcases List.mem_append.mp member with earlier | last
  · exact holds.proofs other earlier
  · rw [List.mem_singleton.mp last]
    exact proof

/-! ### Mirror writes -/

/-- The storage of a state as one memory. -/
def StateMap.memory (state : StateMap) : Address × U256 → U256 := fun cell =>
  state.storageAt cell.1 cell.2

/-- An account apart from its storage. -/
def AccountRecord.apartFromStorage (account : AccountRecord) : U64 × U256 × Bytes :=
  (account.nonce, account.balance, account.code)

/-- A state differs from another by a list of storage writes and by nothing else. -/
structure WroteStorage (writes : List ((Address × U256) × U256)) (before after : StateMap) :
    Prop where
  memory : after.memory = Writes.apply before.memory writes
  accounts : ∀ address : Address,
    after.accounts[address]?.map AccountRecord.apartFromStorage =
      before.accounts[address]?.map AccountRecord.apartFromStorage
  rest : { after with accounts := before.accounts } = before

/-- What a certified binding writes. -/
def mirrorWrite (l1Import : L1ImportWitnessV5) (binding : CertifiedImportBindingV5) :
    (Address × U256) × U256 :=
  ((binding.roomContract, binding.roomSlot), l1Import.valueAt binding.sourceKey)

/-- One mirror write, and the slot its value is authenticated by. -/
theorem mirrorBinding_wrote {progress : ImportProgress} {start before after : StateMap}
    {writes : List ((Address × U256) × U256)}
    {pair : L1MirrorBindingV5 × CertifiedImportBindingV5}
    (proved : SlotsProved primitives l1Import l1Import.storage progress)
    (holds : WroteStorage writes start before)
    (mirrored : mirrorBinding progress.values before pair = .ok after) :
    WroteStorage (writes ++ [mirrorWrite l1Import pair.2]) start after ∧
      ∃ slot ∈ l1Import.storage, slot.key = pair.2.sourceKey ∧
        slot.value = l1Import.valueAt pair.2.sourceKey := by
  obtain ⟨certified, mirrored⟩ := refuse_bind_eq_ok.mp mirrored
  obtain ⟨value, authentic, mirrored⟩ := bind_eq_ok.mp mirrored
  obtain ⟨-, mirrored⟩ := refuse_bind_eq_ok.mp mirrored
  obtain ⟨account, present, mirrored⟩ := bind_eq_ok.mp mirrored
  simp only [not_or, ne_eq, not_not] at certified
  obtain ⟨sameKey, sameContract, sameSlot⟩ := certified
  rw [orRefuse_eq_ok, sameKey, proved.values] at authentic
  rw [orRefuse_eq_ok, sameContract] at present
  have carried : l1Import.valueAt pair.2.sourceKey = value := by
    rw [L1ImportWitnessV5.valueAt, authentic, Option.getD_some]
  obtain ⟨slot, found, slotValue⟩ := Option.map_eq_some_iff.mp authentic
  rw [← pure_eq_ok.mp mirrored, sameContract, sameSlot]
  refine ⟨⟨?_, ?_, holds.rest⟩, slot, List.mem_of_find?_eq_some found, ?_, ?_⟩
  · rw [Writes.apply_concat, ← holds.memory]
    funext cell
    rw [StateMap.memory, StateMap.storageAt_insert, Function.update_apply, mirrorWrite, carried]
    by_cases sameAddress : pair.2.roomContract = cell.1
    · rw [if_pos sameAddress, AccountRecord.slot_writeSlot]
      by_cases sameCell : pair.2.roomSlot = cell.2
      · rw [if_pos sameCell, if_pos (Prod.ext sameAddress.symm sameCell.symm)]
      · rw [if_neg sameCell, if_neg fun same => sameCell (congrArg Prod.snd same).symm,
          StateMap.memory, StateMap.storageAt, ← sameAddress, present]
    · rw [if_neg sameAddress, if_neg fun same => sameAddress (congrArg Prod.fst same).symm,
        StateMap.memory]
  · intro address
    rw [← holds.accounts address, Std.ExtTreeMap.getElem?_insert]
    by_cases same : pair.2.roomContract = address
    · rw [if_pos (Std.compare_eq_iff_eq.mpr same), ← same, present]
      rfl
    · rw [if_neg (mt Std.compare_eq_iff_eq.mp same)]
  · simpa using List.find?_some found
  · rw [slotValue, carried]

/-! ### The whole import -/

/-- What an accepted import establishes. -/
structure ImportApplied (primitives : Primitives) (input : BatchInputV5)
    (l1Import : L1ImportWitnessV5) (before after : StateMap) : Prop where
  cursor : input.journal.importCursorAfter = saturatingAdd input.journal.importCursorBefore 1
  source : authenticateSource primitives l1Import = .ok ()
  proofs : ∀ slot ∈ l1Import.storage, SlotProved primitives l1Import slot
  sorted : l1Import.storage.Pairwise fun earlier later => earlier.key < later.key
  carried : ∀ binding ∈ certifiedBindings input.policy l1Import, ∃ slot ∈ l1Import.storage,
    slot.key = binding.sourceKey ∧ slot.value = l1Import.valueAt binding.sourceKey
  wrote : WroteStorage ((certifiedBindings input.policy l1Import).map (mirrorWrite l1Import))
    before after

theorem applyImport_spec {before after : StateMap}
    (imported : applyImport primitives input before l1Import = .ok after) :
    ImportApplied primitives input l1Import before after := by
  obtain ⟨⟨⟩, metadata, imported⟩ := bind_eq_ok.mp imported
  obtain ⟨⟨⟩, source, imported⟩ := bind_eq_ok.mp imported
  obtain ⟨progress, authenticated, imported⟩ := bind_eq_ok.mp imported
  obtain ⟨-, imported⟩ := refuse_bind_eq_ok.mp imported
  obtain ⟨complete, imported⟩ := refuse_bind_eq_ok.mp imported
  obtain ⟨published, -⟩ := refuse_bind_eq_ok.mp metadata
  have proved : SlotsProved primitives l1Import l1Import.storage progress := by
    refine foldlM_invariant (SlotsProved primitives l1Import) authenticated ?_
      fun _ _ _ _ => authenticateImportSlot_proved
    exact ⟨fun slot member => absurd member List.not_mem_nil,
      fun slot member => absurd member List.not_mem_nil, .nil,
      fun _ => Std.ExtTreeMap.getElem?_empty⟩
  have paired : (l1Import.mirrorBindings.zip (certifiedBindings input.policy l1Import)).map
      Prod.snd = certifiedBindings input.policy l1Import :=
    List.map_snd_zip (not_not.mp complete).le
  have mirrored := foldlM_invariant
    (fun consumed state => WroteStorage ((consumed.map Prod.snd).map (mirrorWrite l1Import))
      before state ∧ ∀ pair ∈ consumed, ∃ slot ∈ l1Import.storage,
        slot.key = pair.2.sourceKey ∧ slot.value = l1Import.valueAt pair.2.sourceKey)
    imported ⟨⟨rfl, fun _ => rfl, rfl⟩, fun pair member => absurd member List.not_mem_nil⟩
    fun consumed pair state next holds stepped => by
      obtain ⟨wrote, slot⟩ := mirrorBinding_wrote proved holds.1 stepped
      refine ⟨by rwa [List.map_append, List.map_append], fun other member => ?_⟩
      rcases List.mem_append.mp member with earlier | last
      · exact holds.2 other earlier
      · rw [List.mem_singleton.mp last]
        exact slot
  refine ⟨not_not.mp (not_or.mp published).1, source, proved.proofs, proved.sorted, ?_, ?_⟩
  · intro binding member
    rw [← paired] at member
    obtain ⟨pair, zipped, rfl⟩ := List.mem_map.mp member
    exact mirrored.2 pair zipped
  · have wrote := mirrored.1
    rwa [paired] at wrote

theorem ImportApplied.valueAt_eq {before after : StateMap}
    (applied : ImportApplied primitives input l1Import before after) {slot : L1StorageSlotV5}
    (listed : slot ∈ l1Import.storage) : l1Import.valueAt slot.key = slot.value := by
  rw [L1ImportWitnessV5.valueAt, find?_key_eq_some (nodup_of_increasing applied.sorted) listed]
  rfl

end Import

/-! ### Mirrors of a batch -/

/-- A value an import proves for a storage key of its source account. -/
def AuthenticValue (primitives : Primitives) (l1Import : L1ImportWitnessV5) (key value : U256) :
    Prop :=
  authenticateSource primitives l1Import = .ok () ∧
    ∃ slot ∈ l1Import.storage, slot.key = key ∧ slot.value = value ∧
      SlotProved primitives l1Import slot

/-- The state after an import is the one before it with every certified slot set to the
authenticated value of its own source key. -/
structure MirrorsExactly (primitives : Primitives) (policy : ExecutionPolicyV5)
    (l1Import : L1ImportWitnessV5) (before after : StateMap) : Prop where
  mirrored : ∀ binding ∈ certifiedBindings policy l1Import,
    AuthenticValue primitives l1Import binding.sourceKey
      (after.storageAt binding.roomContract binding.roomSlot)
  kept : ∀ contract slot,
    (∀ binding ∈ certifiedBindings policy l1Import,
      (binding.roomContract, binding.roomSlot) ≠ (contract, slot)) →
    after.storageAt contract slot = before.storageAt contract slot
  accounts : ∀ address : Address,
    after.accounts[address]?.map AccountRecord.apartFromStorage =
      before.accounts[address]?.map AccountRecord.apartFromStorage

/-- The import of an accepted batch mirrors exactly when certified bindings with one destination
carry one value. -/
theorem import_mirrors_iff {externals : Externals} (batch : AcceptedBatch externals)
    (l1Import : L1ImportWitnessV5) (present : batch.input.l1Import = some l1Import) :
    MirrorsExactly externals.toPrimitives batch.input.policy l1Import batch.opened.opening
        batch.opened.imported ↔
      ∀ first ∈ certifiedBindings batch.input.policy l1Import,
        ∀ second ∈ certifiedBindings batch.input.policy l1Import,
          (first.roomContract, first.roomSlot) = (second.roomContract, second.roomSlot) →
          l1Import.valueAt first.sourceKey = l1Import.valueAt second.sourceKey := by
  have imported := (openBatch_spec batch.opens).imported
  rw [verifyAndApplyImportV5, present] at imported
  have applied := applyImport_spec imported
  have memory (contract : Address) (slot : U256) :=
    congrFun applied.wrote.memory (contract, slot)
  constructor
  · intro exactly first firstListed second secondListed same
    obtain ⟨-, firstSlot, firstCarried, firstKey, firstValue, -⟩ :=
      exactly.mirrored first firstListed
    obtain ⟨-, secondSlot, secondCarried, secondKey, secondValue, -⟩ :=
      exactly.mirrored second secondListed
    obtain ⟨sameContract, sameSlot⟩ := Prod.mk.inj same
    rw [← firstKey, ← secondKey, applied.valueAt_eq firstCarried,
      applied.valueAt_eq secondCarried, firstValue, secondValue, sameContract, sameSlot]
  · intro agree
    have readBack := (Writes.apply_eq_iff batch.opened.opening.memory
      ((certifiedBindings batch.input.policy l1Import).map (mirrorWrite l1Import))).mpr (by
        intro first firstListed second secondListed same
        obtain ⟨firstBinding, firstCertified, rfl⟩ := List.mem_map.mp firstListed
        obtain ⟨secondBinding, secondCertified, rfl⟩ := List.mem_map.mp secondListed
        exact agree firstBinding firstCertified secondBinding secondCertified same)
    refine ⟨?_, ?_, applied.wrote.accounts⟩
    · intro binding member
      obtain ⟨slot, listed, key, value⟩ := applied.carried binding member
      have written := readBack (mirrorWrite l1Import binding) (List.mem_map_of_mem member)
      rw [← applied.wrote.memory] at written
      exact ⟨applied.source, slot, listed, key, value.trans written.symm,
        applied.proofs slot listed⟩
    · intro contract slot outside
      refine (memory contract slot).trans (Writes.apply_of_notMem fun write listed same => ?_)
      obtain ⟨binding, member, rfl⟩ := List.mem_map.mp listed
      exact outside binding member same

/-- An import of two slots of an L1 account, mirrored as certified. -/
def sampleImport (bindings : List CertifiedImportBindingV5) : L1ImportWitnessV5 :=
  { (default : L1ImportWitnessV5) with
    expiryBlock := 9
    source := 0x50
    sourceCodeHash := 1
    storageKeysRoot := storageKeysRootV5 sampleDigest [1, 2]
    storage := [⟨1, 10, []⟩, ⟨2, 20, []⟩]
    mirrorBindings := bindings.map fun binding =>
      ⟨binding.sourceKey, binding.roomContract, binding.roomSlot⟩ }

/-- A binding of a key of the imported account to a slot of the registry contract. -/
def sampleBinding (sourceKey roomSlot : U256) : CertifiedImportBindingV5 :=
  { (default : CertifiedImportBindingV5) with
    source := 0x50
    sourceKey := sourceKey
    roomContract := 11
    roomSlot := roomSlot }

/-- The sample batch with an import. -/
def sampleImportBatch (cursor : U64) (bindings : List CertifiedImportBindingV5) : BatchInputV5 :=
  let compactState := sampleCompactState 0 sampleEmptyQueue
  { sampleExitBatch with
    policy := { samplePolicy with imports := bindings }
    compactState := { compactState with
      accounts := compactState.accounts.map fun account =>
        if account.address = 11 then
          { account with storage := account.storage ++ [⟨5, 0, []⟩, ⟨6, 0, []⟩] }
        else account }
    l1Import := some (sampleImport bindings)
    journal := { sampleExitBatch.journal with
      importCursorBefore := cursor
      importCursorAfter := saturatingAdd cursor 1
      importRoot := importRootV5 sampleDigest 1 0 (sampleImport bindings) } }

theorem import_mirrors_iff_sample :
    ∃ batch : AcceptedBatch sampleExternals,
      batch.input = sampleComposed (sampleImportBatch 0 [sampleBinding 1 5, sampleBinding 2 6]) ∧
        MirrorsExactly samplePrimitives batch.input.policy
          (sampleImport [sampleBinding 1 5, sampleBinding 2 6]) batch.opened.opening
          batch.opened.imported := by
  obtain ⟨batch, same, composed, -⟩ := exists_sampleBatch
    (sampleImportBatch 0 [sampleBinding 1 5, sampleBinding 2 6]) (fun _ _ => true)
    (by decide +kernel)
  refine ⟨batch, same, (import_mirrors_iff batch _ composed.l1Import).mpr ?_⟩
  rw [composed.policy]
  decide

/-- Two certified bindings write the value of different keys into one slot, so the first of them
is not mirrored. -/
theorem import_mirror_overwritten :
    ∃ batch : AcceptedBatch sampleExternals,
      batch.input = sampleComposed (sampleImportBatch 0 [sampleBinding 1 5, sampleBinding 2 5]) ∧
        sampleBinding 1 5 ∈ certifiedBindings batch.input.policy
          (sampleImport [sampleBinding 1 5, sampleBinding 2 5]) ∧
        (sampleImport [sampleBinding 1 5, sampleBinding 2 5]).valueAt 1 = 10 ∧
        batch.opened.imported.storageAt 11 5 = 20 ∧
        ¬ MirrorsExactly samplePrimitives batch.input.policy
          (sampleImport [sampleBinding 1 5, sampleBinding 2 5]) batch.opened.opening
          batch.opened.imported := by
  obtain ⟨batch, same, composed, stored⟩ := exists_sampleBatch
    (sampleImportBatch 0 [sampleBinding 1 5, sampleBinding 2 5])
    (fun opened _ => opened.imported.storageAt 11 5 == 20) (by decide +kernel)
  have certified : sampleBinding 1 5 ∈ certifiedBindings batch.input.policy
      (sampleImport [sampleBinding 1 5, sampleBinding 2 5]) := by
    rw [composed.policy]
    decide
  refine ⟨batch, same, certified, rfl, beq_iff_eq.mp stored, fun mirrors => ?_⟩
  obtain ⟨-, slot, listed, key, value, -⟩ := mirrors.mirrored _ certified
  change slot.value = batch.opened.imported.storageAt 11 5 at value
  rw [beq_iff_eq.mp stored] at value
  have carried : ∀ slot ∈ (sampleImport [sampleBinding 1 5, sampleBinding 2 5]).storage,
      slot.key = 1 → slot.value ≠ 20 := by decide
  exact carried slot listed key value

end Zkdeal

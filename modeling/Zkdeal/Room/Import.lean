/-
This file is the authenticated L1 import of a batch, which mirrors proved L1
storage into certified room slots, and the view of the room's participant
registry.
-/

import Zkdeal.State
import Zkdeal.Library.Guard

namespace Zkdeal

open Words Guard

/-! ### The import -/

section Import

variable (primitives : Primitives)

/-- A batch without an import has empty import fields. -/
def refuseImportFields (journal : BatchJournalV5) : Except StfError Unit :=
  refuse (journal.importCursorAfter ≠ journal.importCursorBefore ∨ journal.importedL1Block ≠ 0 ∨
      journal.importedL1HeaderHash ≠ 0 ∨ journal.importedL1StateRoot ≠ 0 ∨
      journal.importRoot ≠ 0)
    (.longLivedRoom "empty import witness has non-empty public fields")

/-- The public fields of an import are those of its witness. -/
def checkImportMetadata (input : BatchInputV5) (l1Import : L1ImportWitnessV5) :
    Except StfError Unit := do
  let journal := input.journal
  refuse (journal.importCursorAfter ≠ saturatingAdd journal.importCursorBefore 1 ∨
      l1Import.sourceBlock ≠ journal.importedL1Block ∨
      l1Import.headerHash ≠ journal.importedL1HeaderHash ∨
      l1Import.stateRoot ≠ journal.importedL1StateRoot ∨
      importRootV5 primitives.keccak256 journal.roomId input.l1ChainId l1Import ≠
        journal.importRoot ∨
      l1Import.expiryBlock < journal.l1InclusionDeadline ∨ l1Import.source = 0 ∨
      l1Import.sourceCodeHash = 0)
    (.longLivedRoom "L1 import metadata does not match the journal")
  refuse (maxCompactProofNodesV4 < l1Import.accountProof.length ∨
      ∃ node ∈ l1Import.accountProof, 1024 < node.length)
    (.longLivedRoom "L1 account proof exceeds the resource envelope")

/-- Prove the source account against the imported state root. -/
def authenticateSource (l1Import : L1ImportWitnessV5) : Except StfError Unit :=
  (primitives.verifyProof l1Import.stateRoot
    (primitives.keccak256 (wordBytes 20 l1Import.source))
    (some (encodeTrieAccount {
      nonce := l1Import.sourceNonce
      balance := l1Import.sourceBalance
      storageRoot := l1Import.sourceStorageRoot
      codeHash := l1Import.sourceCodeHash }))
    l1Import.accountProof).mapError
      fun error => .longLivedRoom [.text "L1 account proof: ", .text error]

/-- The authenticated slots read so far. -/
structure ImportProgress where
  previousKey : Option U256
  proofNodes : Nat
  values : BTreeMap U256 U256

/-- Prove one slot of the source account. -/
def authenticateImportSlot (l1Import : L1ImportWitnessV5) (progress : ImportProgress)
    (slot : L1StorageSlotV5) : Except StfError ImportProgress := do
  refuse (progress.previousKey.any fun key => slot.key ≤ key)
    (.longLivedRoom "L1 storage keys must be strictly sorted")
  let proofNodes ← orRefuse (primitives.checkedUsizeAdd progress.proofNodes slot.proof.length)
    (.longLivedRoom "L1 proof-node count overflow")
  refuse (maxCompactProofNodesV4 < proofNodes ∨ ∃ node ∈ slot.proof, 1024 < node.length)
    (.longLivedRoom "L1 storage proof exceeds the resource envelope")
  (primitives.verifyProof l1Import.sourceStorageRoot
    (primitives.keccak256 (wordBytes 32 slot.key))
    (if slot.value = 0 then none else some (Rlp.encodeWord slot.value)) slot.proof).mapError
      fun error => .longLivedRoom [.text "L1 storage proof: ", .text error]
  pure ⟨some slot.key, proofNodes, progress.values.insert slot.key slot.value⟩

/-- The certified bindings of the import's adapter and source. -/
def certifiedBindings (policy : ExecutionPolicyV5) (l1Import : L1ImportWitnessV5) :
    List CertifiedImportBindingV5 :=
  policy.imports.filter fun binding =>
    binding.adapterId == l1Import.adapterId && binding.adapterVersion == l1Import.adapterVersion &&
      binding.source == l1Import.source

/-- Mirror one authenticated value into its certified room slot. -/
def mirrorBinding (values : BTreeMap U256 U256) (state : StateMap)
    (pair : L1MirrorBindingV5 × CertifiedImportBindingV5) : Except StfError StateMap := do
  let binding := pair.1
  let expected := pair.2
  refuse (binding.sourceKey ≠ expected.sourceKey ∨
      binding.roomContract ≠ expected.roomContract ∨ binding.roomSlot ≠ expected.roomSlot)
    (.longLivedRoom "import mirror write differs from the certified adapter")
  let value ← orRefuse values[binding.sourceKey]?
    (.longLivedRoom "import mirror source key is not authenticated")
  refuse (((state.accessStorage.bind fun allowed => allowed[binding.roomContract]?).any
      fun slots => slots.contains binding.roomSlot) = false)
    (.longLivedRoom "import mirror destination is outside the state witness")
  let account ← orRefuse state.accounts[binding.roomContract]?
    (.longLivedRoom "import mirror contract is absent")
  pure { state with
    accounts := state.accounts.insert binding.roomContract
      { account with storage := writeSlot account.storage (binding.roomSlot, value) } }

/-- Authenticate an import and mirror its values into the room. -/
def applyImport (input : BatchInputV5) (state : StateMap) (l1Import : L1ImportWitnessV5) :
    Except StfError StateMap := do
  checkImportMetadata primitives input l1Import
  authenticateSource primitives l1Import
  let progress ← l1Import.storage.foldlM (authenticateImportSlot primitives l1Import)
    ⟨none, l1Import.accountProof.length, ∅⟩
  refuse (storageKeysRootV5 primitives.keccak256 progress.values.keys ≠ l1Import.storageKeysRoot)
    (.longLivedRoom "authenticated L1 key set does not match storageKeysRoot")
  let certified := certifiedBindings input.policy l1Import
  refuse (certified.length ≠ l1Import.mirrorBindings.length)
    (.longLivedRoom "import mirror map is not the complete certified adapter map")
  (l1Import.mirrorBindings.zip certified).foldlM (mirrorBinding progress.values) state

def verifyAndApplyImportV5 (input : BatchInputV5) (state : StateMap) :
    Except StfError StateMap :=
  match input.l1Import with
  | none => do
    refuseImportFields input.journal
    pure state
  | some l1Import => applyImport primitives input state l1Import

end Import

/-! ### The participant registry -/

/-- The registry values a batch publishes: root, epoch, count and capacity. -/
structure ParticipantState where
  root : B256
  epoch : U64
  count : U64
  capacity : U64
deriving DecidableEq

def participantStateV5 (input : BatchInputV5) (state : StateMap) :
    Except StfError ParticipantState := do
  let binding ← orRefuse input.policy.participantRegistry
    (.longLivedRoom "participant registry binding is required")
  let account ← orRefuse state.accounts[binding.contract]?
    (.longLivedRoom "participant registry contract is absent")
  let root := account.slot binding.rootSlot
  let epochValue := account.slot binding.epochSlot
  let countValue := account.slot binding.countSlot
  let capacityValue := account.slot binding.capacitySlot
  refuse (2 ^ 64 ≤ epochValue.toNat ∨ 2 ^ 64 ≤ countValue.toNat ∨ 2 ^ 64 ≤ capacityValue.toNat)
    (.longLivedRoom "participant registry metadata exceeds uint64")
  let epoch : U64 := epochValue.setWidth 64
  let count : U64 := countValue.setWidth 64
  let capacity : U64 := capacityValue.setWidth 64
  refuse (root = 0 ∨ epoch = 0 ∨ capacity < 128 ∨ 32768 < capacity ∨
      ¬ Binding.IsPowerOfTwo capacity.toNat ∨ capacity < count)
    (.longLivedRoom "participant registry root, epoch, count or capacity is invalid")
  pure ⟨root, epoch, count, capacity⟩

end Zkdeal

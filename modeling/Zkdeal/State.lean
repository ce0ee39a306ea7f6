/-
This file is the room state between transactions: account records, the access
envelope they were authenticated under, the commit of one transaction's changes,
the two state commitments, and the authentication of the compact witness the
state is built from.

The hash function, the trie library and the bytecode analysis are parameters,
gathered in `Primitives`.
-/

import Zkdeal.Commitments
import Zkdeal.Library.Guard

namespace Zkdeal

open Words Binding Guard

/-! ### What the state rests on -/

/-- The formats the bytecode analysis distinguishes. -/
inductive BytecodeKind where
  | legacy
  | eip7702
deriving DecidableEq

/-- Analysed bytecode keeps the bytes it was analysed from. -/
structure Bytecode where
  originalBytes : Bytes
  kind : BytecodeKind
deriving DecidableEq

structure TrieAccount where
  nonce : U64
  balance : U256
  storageRoot : B256
  codeHash : B256
deriving DecidableEq

/-- The functions of other libraries the state and its policy are built on: Keccak-256, the
secure Merkle trie, the bytecode analysis, the precompile set of the fork, and the width of
the host's machine word. -/
structure Primitives where
  keccak256 : Bytes → B256
  stateRootUnhashed : List (Address × TrieAccount) → B256
  storageRootUnhashed : List (B256 × U256) → B256
  emptyRootHash : B256
  verifyProof : B256 → B256 → Option Bytes → List Bytes → Except String Unit
  bytecodeKind : Bytes → Option BytecodeKind
  isPrecompile : Address → Bool
  usizeBits : Nat

/-- The hash of the empty string. -/
def Primitives.keccakEmpty (primitives : Primitives) : B256 := primitives.keccak256 []

/-- Analyse bytecode; the analysis fails on a malformed designator. -/
def Primitives.newRawChecked (primitives : Primitives) (code : Bytes) : Option Bytecode :=
  (primitives.bytecodeKind code).map fun kind => ⟨code, kind⟩

/-- Addition of two counts in a machine word. -/
def Primitives.checkedUsizeAdd (primitives : Primitives) (left right : Nat) : Option Nat :=
  if left + right < 2 ^ primitives.usizeBits then some (left + right) else none

def encodeTrieAccount (account : TrieAccount) : Bytes :=
  Rlp.encodeList [Rlp.encodeWord account.nonce, Rlp.encodeWord account.balance,
    Rlp.encodeBytes (wordBytes 32 account.storageRoot),
    Rlp.encodeBytes (wordBytes 32 account.codeHash)]

/-! ### Records -/

/-- One account as tracked between transactions. -/
structure AccountRecord where
  nonce : U64
  balance : U256
  code : Bytes
  storage : BTreeMap U256 U256
deriving DecidableEq

instance : Inhabited AccountRecord := ⟨⟨0, 0, [], ∅⟩⟩

def AccountRecord.isEmpty (account : AccountRecord) : Bool :=
  account.nonce == 0 && account.balance == 0 && account.code.isEmpty && account.storage.isEmpty

/-- The value of one slot; an absent slot is zero. -/
def AccountRecord.slot (account : AccountRecord) (slot : U256) : U256 := account.storage.getD slot 0

/-- The non-zero slots of an account in slot order. -/
def AccountRecord.liveStorage (account : AccountRecord) : List (U256 × U256) :=
  account.storage.toList.filter fun entry => entry.2 != 0

def AccountRecord.codeHash (primitives : Primitives) (account : AccountRecord) : B256 :=
  if account.code.isEmpty then primitives.keccakEmpty else primitives.keccak256 account.code

def AccountRecord.storageRoot (primitives : Primitives) (account : AccountRecord) : B256 :=
  if account.storage.isEmpty then primitives.emptyRootHash
  else primitives.storageRootUnhashed account.liveStorage

/-- An access outside the authenticated witness envelope. -/
inductive StfDbError where
  | undeclaredAccount (address : Address)
  | undeclaredStorage (address : Address) (slot : U256)
deriving DecidableEq

def StfDbError.display : StfDbError → Message
  | .undeclaredAccount address =>
    [.text "account ", .address address, .text " is outside the v4 access envelope"]
  | .undeclaredStorage address slot =>
    [.text "storage ", .address address, .text "[", .hex slot,
      .text "] is outside the v4 access envelope"]

/-- Execution-shape telemetry. It never contributes to a state root. -/
structure DbAccessMetrics where
  accountReads : U64
  codeReads : U64
  storageReads : U64
  blockHashReads : U64
  accountWrites : U64
  storageWrites : U64
deriving DecidableEq, Inhabited

/-- The complete room state. Without an access envelope every access is allowed; a write
outside the envelope is latched in `accessViolation`. -/
structure StateMap where
  accounts : BTreeMap Address AccountRecord
  blockHashes : BTreeMap U64 B256
  accessAccounts : Option (BTreeSet Address)
  accessStorage : Option (BTreeMap Address (BTreeSet U256))
  accessViolation : Option StfDbError
  preparedCode : BTreeMap B256 Bytecode
  preparedCodeAddresses : BTreeMap Address B256
  accessMetrics : DbAccessMetrics
deriving DecidableEq

/-- The value of one storage slot; an absent account or slot reads zero. -/
def StateMap.storageAt (state : StateMap) (address : Address) (slot : U256) : U256 :=
  match state.accounts[address]? with
  | some account => account.slot slot
  | none => 0

theorem StateMap.storageAt_eq_getD (state : StateMap) (address : Address) (slot : U256) :
    state.storageAt address slot = (state.accounts.getD address default).slot slot := by
  unfold StateMap.storageAt
  rw [Std.ExtTreeMap.getD_eq_getD_getElem?]
  cases state.accounts[address]? with
  | none => exact Std.ExtTreeMap.getD_empty.symm
  | some account => rfl

/-- Whether a storage slot is inside the access envelope. -/
def StateMap.declaresStorage (state : StateMap) (address : Address) (slot : U256) : Bool :=
  match state.accessStorage with
  | some allowed => allowed[address]?.any fun slots => slots.contains slot
  | none => true

/-- Whether an account is inside the access envelope. -/
def StateMap.declaresAccount (state : StateMap) (address : Address) : Bool :=
  match state.accessAccounts with
  | some allowed => allowed.contains address
  | none => true

def StateMap.fromCompact (accounts : BTreeMap Address AccountRecord)
    (accessAccounts : BTreeSet Address) (accessStorage : BTreeMap Address (BTreeSet U256)) :
    StateMap where
  accounts := accounts
  blockHashes := ∅
  accessAccounts := some accessAccounts
  accessStorage := some accessStorage
  accessViolation := none
  preparedCode := ∅
  preparedCodeAddresses := ∅
  accessMetrics := default

/-! ### Block-hash history -/

/-- Admit one entry of the rolling history: inside the window and above the entry before. -/
def installBlockHash (oldest currentNumber : U64) (installed : Option U64 × BTreeMap U64 B256)
    (entry : U64 × B256) : Except Message (Option U64 × BTreeMap U64 B256) := do
  refuse (entry.1 < oldest ∨ currentNumber ≤ entry.1)
    [.text "block-hash entry ", .decimal entry.1.toNat, .text " is outside [",
      .decimal oldest.toNat, .text ", ", .decimal currentNumber.toNat, .text ")"]
  refuse (installed.1.any fun prior => entry.1 ≤ prior)
    ("block-hash history must be strictly ordered and unique" : Message)
  pure (some entry.1, installed.2.insert entry.1 entry.2)

/-- Install the exact rolling history admitted for one block. -/
def StateMap.installBlockHashes (state : StateMap) (currentNumber : U64)
    (history : List (U64 × B256)) : Except Message StateMap := do
  refuse (256 < history.length) ("block-hash history exceeds 256 entries" : Message)
  let oldest : U64 := if currentNumber < 256 then 0 else currentNumber - 256
  let installed ← history.foldlM (installBlockHash oldest currentNumber) (none, ∅)
  pure { state with blockHashes := installed.2 }

/-! ### Prepared runtime code -/

/-- Scan opcodes while skipping push immediates, for at most `fuel` instructions. -/
def scanDynamicControlFlow : Nat → Bytes → Bool
  | 0, _ => false
  | _, [] => false
  | fuel + 1, opcode :: rest =>
    if opcode ∈ [0x56, 0x57, 0xf0, 0xf1, 0xf2, 0xf4, 0xf5, 0xfa] then true
    else if 0x60 ≤ opcode ∧ opcode ≤ 0x7f then
      scanDynamicControlFlow fuel (rest.drop (opcode - 0x5f).toNat)
    else scanDynamicControlFlow fuel rest

def hasDynamicInterpreterControlFlow (code : Bytes) : Bool :=
  scanDynamicControlFlow code.length code

structure PreparedCodeCacheReport where
  requestedContracts : Nat
  cachedContracts : Nat
  dynamicInterpreterContracts : Nat
  fallbackContracts : Nat
deriving DecidableEq

/-- Check one frozen code hash against the state and cache the analysed code. -/
def prepareRuntimeCode (primitives : Primitives) (accounts : BTreeMap Address AccountRecord)
    (prepared : PreparedCodeCacheReport × BTreeMap B256 Bytecode) (frozen : Address × B256) :
    Except Message (PreparedCodeCacheReport × BTreeMap B256 Bytecode) := do
  let account ← orRefuse accounts[frozen.1]?
    [.text "prepared runtime account ", .address frozen.1, .text " is absent"]
  refuse (account.codeHash primitives ≠ frozen.2)
    [.text "prepared runtime code hash mismatch at ", .address frozen.1, .text ": expected ",
      .digest frozen.2, .text ", got ", .digest (account.codeHash primitives)]
  let fallback :=
    { prepared.1 with fallbackContracts := prepared.1.fallbackContracts + 1 }
  if account.code.isEmpty then pure (fallback, prepared.2)
  else
    match primitives.newRawChecked account.code with
    | some ⟨code, .legacy⟩ =>
      let dynamic := if hasDynamicInterpreterControlFlow account.code then 1 else 0
      pure ({ prepared.1 with
        dynamicInterpreterContracts := prepared.1.dynamicInterpreterContracts + dynamic
        cachedContracts := prepared.1.cachedContracts + 1 },
        prepared.2.insert (account.codeHash primitives) ⟨code, .legacy⟩)
    | _ => pure (fallback, prepared.2)

/-- Cache the analysed code of a frozen set of accounts. Only the cache changes. -/
def StateMap.installPreparedRuntimeCode (primitives : Primitives) (state : StateMap)
    (frozenCodeHashes : BTreeMap Address B256) :
    Except Message (StateMap × PreparedCodeCacheReport) := do
  let prepared ← frozenCodeHashes.toList.foldlM (prepareRuntimeCode primitives state.accounts)
    (⟨frozenCodeHashes.size, 0, 0, 0⟩, ∅)
  pure ({ state with
    preparedCode := prepared.2
    preparedCodeAddresses := frozenCodeHashes }, prepared.1)

/-- The cached code of an account, if it is still the code the account has. -/
def StateMap.validatedPreparedCode (state : StateMap) (address : Address)
    (account : AccountRecord) : Option (B256 × Bytecode) :=
  match state.preparedCodeAddresses[address]? with
  | none => none
  | some codeHash =>
    match state.preparedCode[codeHash]? with
    | none => none
    | some bytecode =>
      if bytecode.originalBytes = account.code then some (codeHash, bytecode) else none

/-! ### Commit -/

/-- The slots a transaction leaves changed or loaded in one account, each once. -/
structure SlotChanges where
  entries : List (U256 × U256)
  distinct : (entries.map Prod.fst).Nodup
deriving DecidableEq

/-- One account as the interpreter hands it back. -/
structure EvmAccount where
  isTouched : Bool
  isSelfdestructed : Bool
  isCreated : Bool
  nonce : U64
  balance : U256
  codeHash : B256
  code : Option Bytes
  storage : SlotChanges
deriving DecidableEq

/-- The accounts a transaction hands back, each once, in the order of the hash map. -/
structure AccountChanges where
  entries : List (Address × EvmAccount)
  distinct : (entries.map Prod.fst).Nodup
deriving DecidableEq

/-- Write one slot; a zero value deletes it. -/
def writeSlot (storage : BTreeMap U256 U256) (entry : U256 × U256) : BTreeMap U256 U256 :=
  if entry.2 = 0 then storage.erase entry.1 else storage.insert entry.1 entry.2

theorem AccountRecord.slot_writeSlot (account : AccountRecord) (entry : U256 × U256) (slot : U256) :
    AccountRecord.slot { account with storage := writeSlot account.storage entry } slot =
      if entry.1 = slot then entry.2 else account.slot slot := by
  unfold AccountRecord.slot writeSlot
  dsimp only
  by_cases same : entry.1 = slot
  · rw [if_pos same]
    split
    · rename_i zero
      rw [Std.ExtTreeMap.getD_erase, same, if_pos (Std.compare_eq_iff_eq.mpr rfl), zero]
    · rw [same, Std.ExtTreeMap.getD_insert_self]
  · have different : compare entry.1 slot ≠ .eq := fun equal =>
      same (Std.compare_eq_iff_eq.mp equal)
    rw [if_neg same]
    split
    · rw [Std.ExtTreeMap.getD_erase, if_neg different]
    · rw [Std.ExtTreeMap.getD_insert, if_neg different]

/-- Replacing one account leaves the storage of every other one alone. -/
theorem StateMap.storageAt_insert (state : StateMap) (address contract : Address)
    (account : AccountRecord) (slot : U256) :
    StateMap.storageAt { state with accounts := state.accounts.insert address account }
        contract slot =
      if address = contract then account.slot slot else state.storageAt contract slot := by
  unfold StateMap.storageAt
  dsimp only
  rw [Std.ExtTreeMap.getElem?_insert]
  by_cases same : address = contract
  · rw [if_pos (Std.compare_eq_iff_eq.mpr same), if_pos same]
  · rw [if_neg fun equal => same (Std.compare_eq_iff_eq.mp equal), if_neg same]

/-- Merge the changes of one account into its record. -/
def mergeRecord (primitives : Primitives) (record : AccountRecord) (account : EvmAccount) :
    AccountRecord where
  nonce := account.nonce
  balance := account.balance
  code :=
    match account.code with
    | some (octet :: rest) => octet :: rest
    | _ => if account.codeHash = primitives.keccakEmpty then [] else record.code
  storage :=
    account.storage.entries.foldl writeSlot (if account.isCreated then ∅ else record.storage)

/-- Latch the first access outside the envelope. -/
def StateMap.latchViolation (state : StateMap) (address : Address) (account : EvmAccount) :
    Option StfDbError :=
  let latched := state.accessViolation.or
    (if state.declaresAccount address then none else some (.undeclaredAccount address))
  account.storage.entries.foldl (fun latched entry => latched.or
    (if state.declaresStorage address entry.1 then none
      else some (.undeclaredStorage address entry.1))) latched

/-- Commit the changes of one account: untouched accounts are ignored, selfdestructed and
empty ones removed, and changed code drops out of the prepared set. -/
def StateMap.commitAccount (primitives : Primitives) (state : StateMap)
    (change : Address × EvmAccount) : StateMap :=
  if change.2.isTouched then
    let counted := { state with
      accessMetrics := { state.accessMetrics with
        accountWrites := saturatingAdd state.accessMetrics.accountWrites 1
        storageWrites := saturatingAdd state.accessMetrics.storageWrites
          (lengthWord change.2.storage.entries) }
      accessViolation := state.latchViolation change.1 change.2 }
    let record := mergeRecord primitives (state.accounts.getD change.1 default) change.2
    if change.2.isSelfdestructed || record.isEmpty then
      { counted with
        accounts := state.accounts.erase change.1
        preparedCodeAddresses := state.preparedCodeAddresses.erase change.1 }
    else
      { counted with
        accounts := state.accounts.insert change.1 record
        preparedCodeAddresses :=
          if state.preparedCodeAddresses[change.1]?.any
              (fun expected => record.codeHash primitives != expected) then
            state.preparedCodeAddresses.erase change.1
          else state.preparedCodeAddresses }
  else state

def StateMap.commit (primitives : Primitives) (state : StateMap) (changes : AccountChanges) :
    StateMap :=
  changes.entries.foldl (StateMap.commitAccount primitives) state

/-! ### Commitments -/

/-- The non-empty accounts in address order. -/
def StateMap.liveAccounts (state : StateMap) : List (Address × AccountRecord) :=
  state.accounts.toList.filter fun entry => !entry.2.isEmpty

/-- The secure-trie root over the non-empty accounts. -/
def StateMap.stateRoot (primitives : Primitives) (state : StateMap) : B256 :=
  primitives.stateRootUnhashed (state.liveAccounts.map fun entry =>
    (entry.1, { nonce := entry.2.nonce
                balance := entry.2.balance
                storageRoot := entry.2.storageRoot primitives
                codeHash := ((state.validatedPreparedCode entry.1 entry.2).map Prod.fst).getD
                  (entry.2.codeHash primitives) }))

section Sparse

variable (keccak256 : Bytes → B256)

/-- The message of an inner node of a sparse tree. -/
def sparseNode (tag : Bytes) (left right : B256) : Bytes :=
  wordBytes 32 (keccak256 tag) ++ wordBytes 32 left ++ wordBytes 32 right

/-- Fill a level up with zero leaves to a power of two, and to one leaf if it is empty. -/
def padLeaves (leaves : List B256) : List B256 :=
  if leaves.isEmpty then [0]
  else leaves ++ List.replicate (nextPowerOfTwo leaves.length - leaves.length) 0

/-- What a sparse tree commits to: its tag, its leaf count and its top digest. -/
def sparseTreePreimage (tag : Bytes) (leaves : List B256) : Bytes :=
  tag ++ wordBytes 8 (lengthWord leaves) ++
    wordBytes 32 ((collapse keccak256 (sparseNode keccak256 tag) (padLeaves leaves).length
      (padLeaves leaves)).headD 0)

def treeRoot (tag : Bytes) (leaves : List B256) : B256 :=
  keccak256 (sparseTreePreimage keccak256 tag leaves)

def storageLeafPreimage (entry : U256 × U256) : Bytes :=
  wordBytes 32 (keccak256 (ascii "zkdeal/sparse-storage-leaf/v5")) ++ wordBytes 32 entry.1 ++
    wordBytes 32 entry.2

def storageTreeTag : Bytes := ascii "zkdeal/sparse-storage-tree/v5"

def accountTreeTag : Bytes := ascii "zkdeal/sparse-account-tree/v5"

def sparseStorageRoot (account : AccountRecord) : B256 :=
  treeRoot keccak256 storageTreeTag
    (account.liveStorage.map fun entry => keccak256 (storageLeafPreimage keccak256 entry))

end Sparse

def accountLeafPreimage (primitives : Primitives) (entry : Address × AccountRecord) : Bytes :=
  wordBytes 32 (primitives.keccak256 (ascii "zkdeal/sparse-account-leaf/v5")) ++
    wordBytes 32 (abiAddressWordV5 entry.1) ++ wordBytes 32 (abiU64WordV5 entry.2.nonce) ++
    wordBytes 32 entry.2.balance ++ wordBytes 32 (entry.2.codeHash primitives) ++
    wordBytes 32 (sparseStorageRoot primitives.keccak256 entry.2)

def StateMap.sparseStateRootV5 (primitives : Primitives) (state : StateMap) : B256 :=
  treeRoot primitives.keccak256 accountTreeTag
    (state.liveAccounts.map fun entry =>
      primitives.keccak256 (accountLeafPreimage primitives entry))

/-- The state commitment of a room: the trie root or the sparse root. -/
def roomStateRootV5 (primitives : Primitives) (state : StateMap) (mode : U8) :
    Except StfError B256 :=
  if mode = 0 then .ok (state.stateRoot primitives)
  else if mode = 1 then .ok (state.sparseStateRootV5 primitives)
  else .error (.longLivedRoom "unknown v5 state commitment mode")

/-- Primitives to evaluate the model on concrete inputs with: the polynomial digest, a trie
whose roots are digests of its entries and whose proofs are not checked. -/
def samplePrimitives : Primitives where
  keccak256 := sampleDigest
  stateRootUnhashed accounts := sampleMix (accounts.flatMap fun entry =>
    [entry.1.toNat, entry.2.nonce.toNat, entry.2.balance.toNat, entry.2.storageRoot.toNat,
      entry.2.codeHash.toNat])
  storageRootUnhashed slots := sampleMix (slots.flatMap fun entry =>
    [entry.1.toNat, entry.2.toNat])
  emptyRootHash := sampleDigest []
  verifyProof _ _ _ _ := .ok ()
  bytecodeKind _ := some .legacy
  isPrecompile address := 1 ≤ address && address ≤ 17
  usizeBits := 32

end Zkdeal

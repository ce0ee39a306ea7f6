/-
This file builds the policy of a seven-member room: the canonical preset is read,
compared with its hash and its resource envelope, the roster is authenticated, and
every rule is resolved against the code the preset pins.
-/

import Zkdeal.Policy
import Zkdeal.Settlement.Roster
import Zkdeal.Settlement.Schema

namespace Zkdeal

open Words Guard

/-- The policy of a preset, with what its settlement is bound to. -/
structure PresetPolicyV4 extends ExecutionPolicyV4 where
  exitProgramId : B256
  presetAssetIds : List U8
deriving DecidableEq

/-- A field of an element of a list of the document. -/
def fieldLabel (list : String) (index : Nat) (field : String) : Message :=
  [.text list, .text "[", .decimal index, .text "]", .text field]

section Construction

variable (primitives : Primitives) (json : JsonLibrary)

/-! ### Scalars and resources -/

def presetCertified (executionLevel : String) : Except Message Bool :=
  if executionLevel = "generic" then .ok false
  else if executionLevel = "certified" then .ok true
  else .error [.text "unknown preset executionLevel ", .text executionLevel]

def checkPresetAssetId (previous : Option U8) (assetId : U8) : Except Message (Option U8) := do
  refuse (16 ≤ assetId.toNat ∨ previous.any fun previous => assetId ≤ previous)
    "preset assetIds must be sorted unique values below 16"
  pure (some assetId)

/-- Multiplication of two counts in a machine word. -/
def Primitives.checkedUsizeMul (left right : Nat) : Option Nat :=
  if left * right < 2 ^ primitives.usizeBits then some (left * right) else none

/-- Check the resource envelope and return the gas cap and the memory cap. -/
def checkPresetResources (resources : ResourceEnvelopeJsonV4) (input : BatchInputV4) :
    Except Message (U64 × Nat) := do
  refuse (resources.maxBlocksPerBatch = 0 ∨ maxBatchBlocksV4 < resources.maxBlocksPerBatch ∨
      resources.maxBlocksPerBatch < input.blocks.length)
    "preset maxBlocksPerBatch is invalid or exceeded"
  let maxGasPerBlock ← orRefuse (json.u64 resources.maxGasPerBlock)
    "preset maxGasPerBlock is not a u64 decimal"
  refuse (maxGasPerBlock = 0 ∨ resources.maxTransactionsPerBlock = 0 ∨
      resources.maxWitnessBytes = 0 ∨ maxBatchWitnessBytesV4 < resources.maxWitnessBytes ∨
      input.encodedWitnessBytes = 0 ∨
      resources.maxWitnessBytes < input.encodedWitnessBytes.toNat ∨
      resources.maxMemoryPages = 0 ∨ 4096 < resources.maxMemoryPages ∨
      resources.maxTouchedAccounts = 0 ∨ maxCompactAccountsV4 < resources.maxTouchedAccounts ∨
      resources.maxTouchedStorageSlots = 0 ∨
      maxCompactStorageSlotsV4 < resources.maxTouchedStorageSlots)
    "preset resource envelope is invalid or exceeds guest caps"
  refuse (256 * 1024 < input.canonicalPresetJson.length ∨
      64 * 1024 < input.canonicalExitProgramJson.length)
    "preset/exit-program component byte cap exceeded"
  let maxMemoryBytes ← orRefuse (primitives.checkedUsizeMul resources.maxMemoryPages 65536)
    "preset maxMemoryPages byte overflow"
  refuse (resources.maxTouchedAccounts < input.compactState.accounts.length)
    "preset touched-account cap exceeded"
  refuse (resources.maxTouchedStorageSlots <
      (input.compactState.accounts.map fun account => account.storage.length).sum)
    "preset touched-storage cap exceeded"
  forEach input.blocks.zipIdx fun item =>
    refuse (resources.maxTransactionsPerBlock < item.1.rawTxs.length)
      [.text "block ", .decimal item.2, .text " exceeds preset transaction cap"]
  pure (maxGasPerBlock, maxMemoryBytes)

/-! ### Pinned code -/

def pinPresetCode (codeHashes : BTreeMap Address B256) (item : CodeJsonV4 × Nat) :
    Except Message (BTreeMap Address B256) := do
  let address ← json.parseAddress item.1.address (fieldLabel "code" item.2 ".address")
  let codeHash ← json.parseB256 item.1.runtimeCodeHash
    (fieldLabel "code" item.2 ".runtimeCodeHash")
  refuse (codeHashes.contains address) "duplicate preset code address"
  pure (codeHashes.insert address codeHash)

/-- Every pinned account has the committed code, and a certified room has no other code. -/
def checkPresetCode (preset : PresetJsonV4) (certified : Bool)
    (codeHashes : BTreeMap Address B256) (state : StateMap) : Except Message Unit := do
  refuse (certified ∧ codeHashes.isEmpty) "certified preset has no code commitments"
  refuse (certified ∧ (preset.allowContractCreation ∨ preset.allowSelfDestruct))
    "certified preset cannot allow creation or selfdestruct"
  forEach codeHashes.toList fun entry => do
    let account ← orRefuse state.accounts[entry.1]?
      [.text "pinned code account ", .address entry.1, .text " is absent"]
    refuse (account.codeHash primitives ≠ entry.2)
      [.text "runtime code hash mismatch at ", .address entry.1]
  checkWhen (certified = true) (forEach state.accounts.toList fun entry =>
    refuse (entry.2.code ≠ [] ∧ ¬ codeHashes.contains entry.1)
      [.text "uncommitted executable code at ", .address entry.1])

/-- An ASCII control octet. -/
def isAsciiControl (octet : U8) : Bool := octet.toNat < 32 || octet == 127

/-- One application domain: the bound slot holds the domain of this room. -/
def checkDomainBinding (input : BatchInputV4) (codeHashes : BTreeMap Address B256)
    (state : StateMap) (bound : List (Address × U256))
    (item : ApplicationDomainBindingJsonV4 × Nat) : Except Message (List (Address × U256)) := do
  let label := fieldLabel "applicationDomainBindings" item.2
  let contract ← json.parseAddress item.1.contract (label ".contract")
  refuse (¬ codeHashes.contains contract) (label " contract is not code-pinned")
  let storageSlot ← json.parseB256 item.1.storageSlot (label ".storageSlot")
  refuse ((contract, storageSlot) ∈ bound) "duplicate application-domain binding"
  let tag := utf8 item.1.domainTag
  refuse (tag = [] ∨ 64 < tag.length ∨ tag.any isAsciiControl)
    (label " domainTag must be 1..64 printable UTF-8 bytes")
  let expected := applicationDomainV4 primitives.keccak256 tag input.deploymentId input.roomId
  let account ← orRefuse state.accounts[contract]? (label " contract is absent")
  refuse (account.slot storageSlot ≠ expected)
    (label " storage does not match the derived room application domain")
  pure (bound ++ [(contract, storageSlot)])

/-! ### Rules -/

def collectSelector (index : Nat) (selectors : BTreeSet Selector) (item : String × Nat) :
    Except Message (BTreeSet Selector) := do
  let selector ← parseSelector item.1
    (fieldLabel "callRules" index ".selectors" ++ fieldLabel "" item.2 "")
  refuse (selectors.contains selector) "duplicate call selector"
  pure (selectors.insert selector)

def collectCallKind (kinds : BTreeSet U8) (kind : String) : Except Message (BTreeSet U8) :=
  if kind = "call" then .ok (kinds.insert AllowedCallKind.call.toU8)
  else if kind = "staticcall" then .ok (kinds.insert AllowedCallKind.staticCall.toU8)
  else if kind = "delegatecall" then .ok (kinds.insert AllowedCallKind.delegateCall.toU8)
  else .error [.text "unsupported certified call kind ", .text kind]

def resolvePresetCallRule (certified : Bool) (codeHashes : BTreeMap Address B256)
    (rules : List CallRule) (item : CallRuleJsonV4 × Nat) : Except Message (List CallRule) := do
  let label := fieldLabel "callRules" item.2
  let caller ← json.parseAddress item.1.caller (label ".caller")
  let target ← json.parseAddress item.1.target (label ".target")
  refuse (certified ∧ caller ≠ activeMemberSentinel ∧ ¬ codeHashes.contains caller)
    (label " caller is not code-pinned")
  refuse (certified ∧ ¬ codeHashes.contains target) (label " target is not code-pinned")
  refuse (∃ rule ∈ rules, rule.caller = caller ∧ rule.target = target) "duplicate call rule"
  let selectors ← item.1.selectors.zipIdx.foldlM (collectSelector item.2) ∅
  refuse (selectors.isEmpty) "call rule has no selectors"
  let kinds ← item.1.kinds.foldlM collectCallKind ∅
  refuse (kinds.isEmpty) "call rule has no call kinds"
  pure (rules ++ [⟨caller, target, selectors, kinds⟩])

def resolveArgumentRule (codeHashes : BTreeMap Address B256) (callRules : List CallRule)
    (rules : List ActiveMemberArgumentRule) (item : ActiveMemberArgumentRuleJsonV4 × Nat) :
    Except Message (List ActiveMemberArgumentRule) := do
  let label := fieldLabel "activeMemberArgumentRules" item.2
  let target ← json.parseAddress item.1.target (label ".target")
  refuse (¬ codeHashes.contains target) (label " target is not code-pinned")
  let selector ← parseSelector item.1.selector (label ".selector")
  refuse (∃ rule ∈ rules, rule.target = target ∧ rule.selector = selector)
    "duplicate active-member argument rule"
  let indices := item.1.argumentWordIndices
  refuse (indices = [] ∨ ((indices.zip indices.tail).any fun pair => pair.2 ≤ pair.1))
    (label " argumentWordIndices must be sorted, unique, and non-empty")
  refuse (¬ ∃ rule ∈ callRules, rule.caller = activeMemberSentinel ∧ rule.target = target ∧
      rule.selectors.contains selector)
    (label " selector is not an active-member entry point")
  pure (rules ++ [⟨target, selector, indices⟩])

/-- The largest value of a field of that many bits. -/
def maxFieldValue (bitWidth : U16) : U256 :=
  if bitWidth = 256 then BitVec.allOnes 256 else ((1 : U256) <<< bitWidth.toNat) - 1

def resolveStateGuard (codeHashes : BTreeMap Address B256) (guards : List MembershipStateGuard)
    (item : MembershipStateGuardJsonV4 × Nat) : Except Message (List MembershipStateGuard) := do
  let guard := item.1
  let label := fieldLabel "membershipStateGuards" item.2
  let contract ← json.parseAddress guard.contract (label ".contract")
  refuse (¬ codeHashes.contains contract) (label " contract is not code-pinned")
  let storageSlot ← json.parseB256 guard.storageSlot (label ".storageSlot")
  refuse (guard.bitWidth = 0 ∨ 256 ≤ guard.bitOffset.toNat ∨
      256 - guard.bitOffset.toNat < guard.bitWidth.toNat)
    (label " bit range is invalid")
  refuse (∃ other ∈ guards, other.contract = contract ∧ other.storageSlot = storageSlot ∧
      other.bitOffset = guard.bitOffset ∧ other.bitWidth = guard.bitWidth)
    "duplicate membership state guard"
  let allowedValues ← guard.allowedValues.foldlM (fun (allowed : BTreeSet U256) value => do
    let value : U256 := value.setWidth 256
    refuse (maxFieldValue guard.bitWidth < value ∨ allowed.contains value)
      (label " allowedValues are duplicate or outside the field")
    pure (allowed.insert value)) ∅
  refuse (allowedValues.isEmpty) (label " allowedValues must be non-empty")
  pure (guards ++ [⟨contract, storageSlot, guard.bitOffset, guard.bitWidth, allowedValues⟩])

def resolvePresetNamespace (certified : Bool) (codeHashes : BTreeMap Address B256)
    (item : StorageNamespaceJsonV4 × Nat) : Except Message StorageNamespace := do
  let label := fieldLabel "storageNamespaces" item.2
  refuse (256 < item.1.prefixBits.toNat) (label " prefixBits exceeds 256")
  let contract ← json.parseAddress item.1.contract (label ".contract")
  refuse (certified ∧ ¬ codeHashes.contains contract) (label " contract is not code-pinned")
  let slotPrefix ← json.parseB256 item.1.slotPrefix (label ".slotPrefix")
  pure ⟨contract, slotPrefix, item.1.prefixBits, item.1.writable⟩

/-- A certified room declares storage of pinned accounts inside the namespaces only. -/
def checkDeclaredStorage (codeHashes : BTreeMap Address B256) (regions : List StorageNamespace)
    (account : CompactAccountWitnessV4) : Except Message Unit :=
  checkWhen (account.storage ≠ []) do
    refuse (¬ codeHashes.contains account.address)
      [.text "storage declared for non-code-pinned account ", .address account.address]
    forEach account.storage fun slot =>
      refuse (¬ coveredBy regions account.address slot.slot)
        [.text "storage ", .address account.address, .text "[", .hex slot.slot,
          .text "] is outside the certified namespace"]

/-! ### The policy -/

def PresetPolicyV4.fromInput (input : BatchInputV4) (state : StateMap) :
    Except Message PresetPolicyV4 := do
  let value ← json.readCanonical input.canonicalPresetJson "preset"
  refuse (primitives.keccak256 input.canonicalPresetJson ≠ input.presetHash)
    "canonical preset JSON does not hash to presetHash"
  let preset ← (json.preset value).mapError fun error => .text "preset schema: " :: error
  refuse (preset.version ≠ 4 ∨ preset.fork ≠ "osaka") "preset must be v4 with Osaka semantics"
  let certified ← presetCertified preset.executionLevel
  let exitProgramId ← json.parseB256 preset.exitProgramId [.text "exitProgramId"]
  let _ ← preset.assetIds.foldlM checkPresetAssetId none
  let caps ← checkPresetResources primitives json preset.resources input
  let activeMembers ← verifyRoster primitives.keccak256 input.preRosterSlots input.preRosterRoot
    input.activeMask input.preUsedMask
  let codeHashes ← preset.code.zipIdx.foldlM (pinPresetCode json) ∅
  checkPresetCode primitives preset certified codeHashes state
  let _ ← preset.applicationDomainBindings.zipIdx.foldlM
    (checkDomainBinding primitives json input codeHashes state) []
  let callRules ← preset.callRules.zipIdx.foldlM
    (resolvePresetCallRule json certified codeHashes) []
  let argumentRules ← preset.activeMemberArgumentRules.zipIdx.foldlM
    (resolveArgumentRule json codeHashes callRules) []
  let stateGuards ← preset.membershipStateGuards.zipIdx.foldlM
    (resolveStateGuard json codeHashes) []
  let regions ← preset.storageNamespaces.zipIdx.mapM
    (resolvePresetNamespace json certified codeHashes)
  checkWhen (certified = true)
    (forEach input.compactState.accounts (checkDeclaredStorage codeHashes regions))
  let policy : PresetPolicyV4 := {
    certified := certified
    activeMembers := activeMembers
    codeHashes := codeHashes
    callRules := callRules
    storageNamespaces := regions
    activeMemberArgumentRules := argumentRules
    membershipStateGuards := stateGuards
    membershipChanged := input.membershipDeltas ≠ []
    allowContractCreation := preset.allowContractCreation
    allowSelfDestruct := preset.allowSelfDestruct
    maxGasPerBlock := caps.1
    maxMemoryBytes := caps.2
    exitProgramId := exitProgramId
    presetAssetIds := preset.assetIds }
  policy.toExecutionPolicyV4.validateMembershipStateGuards state
  pure policy

end Construction

end Zkdeal

/-
This file is the certified execution policy: its construction from the binary
policy of a room, and what it permits during execution and at the end of it.

The constructor refuses a policy that does not hash to its commitment, that pins
no code or the wrong code, or whose storage regions, import mirrors, participant
registry or exit queue contradict each other. What later files need of it is read
back in one place, the structure `FromV5`.
-/

import Zkdeal.State

namespace Zkdeal

open Words Guard

/-! ### The resolved policy -/

inductive AllowedCallKind where
  | call
  | staticCall
  | delegateCall
deriving DecidableEq

/-- The discriminant of a call kind. -/
def AllowedCallKind.toU8 : AllowedCallKind → U8
  | .call => 0
  | .staticCall => 1
  | .delegateCall => 2

structure CallRule where
  caller : Address
  target : Address
  selectors : BTreeSet Selector
  kinds : BTreeSet U8
deriving DecidableEq

structure StorageNamespace where
  contract : Address
  slotPrefix : U256
  prefixBits : U16
  writable : Bool
deriving DecidableEq

structure ActiveMemberArgumentRule where
  target : Address
  selector : Selector
  argumentWordIndices : List U8
deriving DecidableEq

structure MembershipStateGuard where
  contract : Address
  storageSlot : U256
  bitOffset : U16
  bitWidth : U16
  allowedValues : BTreeSet U256
deriving DecidableEq

/-- The policy the interpreter is observed under. -/
structure ExecutionPolicyV4 where
  certified : Bool
  activeMembers : BTreeSet Address
  codeHashes : BTreeMap Address B256
  callRules : List CallRule
  storageNamespaces : List StorageNamespace
  activeMemberArgumentRules : List ActiveMemberArgumentRule
  membershipStateGuards : List MembershipStateGuard
  membershipChanged : Bool
  allowContractCreation : Bool
  allowSelfDestruct : Bool
  maxGasPerBlock : U64
  maxMemoryBytes : Nat
deriving DecidableEq

/-- The caller of a rule that holds for every authenticated member. -/
def activeMemberSentinel : Address := 0

/-- The highest `bits` bits of the slot are those of the prefix. -/
def slotHasPrefix (slot slotPrefix : U256) (bits : U16) : Bool :=
  if bits = 0 then true
  else slot >>> (256 - bits.toNat) == slotPrefix >>> (256 - bits.toNat)

/-- The region contains the slot of the contract. -/
def StorageNamespace.covers (region : StorageNamespace) (contract : Address) (slot : U256) : Bool :=
  region.contract == contract && slotHasPrefix slot region.slotPrefix region.prefixBits

/-- Some region contains the slot of the contract. -/
def coveredBy (regions : List StorageNamespace) (contract : Address) (slot : U256) : Bool :=
  regions.any fun region => region.covers contract slot

/-- Some writable region contains the slot of the contract. -/
def writableBy (regions : List StorageNamespace) (contract : Address) (slot : U256) : Bool :=
  regions.any fun region => region.covers contract slot && region.writable

/-! ### Construction -/

section Construction

variable (primitives : Primitives)

/-- Pin the code of one account: the account must exist and have the committed code. -/
def pinCode (accounts : BTreeMap Address AccountRecord)
    (pinned : Option Address × BTreeMap Address B256) (code : CodeCommitmentV5) :
    Except Message (Option Address × BTreeMap Address B256) := do
  refuse (code.address = 0 ∨ code.runtimeCodeHash = 0 ∨
      (pinned.1.any fun previous => code.address ≤ previous) ∨ pinned.2.contains code.address)
    ("v5 code commitments must be non-zero, sorted, and unique" : Message)
  let account ← orRefuse accounts[code.address]?
    [.text "v5 pinned code account ", .address code.address, .text " is absent"]
  refuse (account.codeHash primitives ≠ code.runtimeCodeHash)
    [.text "v5 runtime code hash mismatch at ", .address code.address]
  pure (some code.address, pinned.2.insert code.address code.runtimeCodeHash)

/-- Collect the call kinds of one rule. -/
def collectKind (kinds : BTreeSet U8) (kind : U8) : Except Message (BTreeSet U8) := do
  refuse (AllowedCallKind.delegateCall.toU8 < kind ∨ kinds.contains kind)
    ("v5 call kinds must be unique CALL/STATICCALL/DELEGATECALL" : Message)
  pure (kinds.insert kind)

/-- Resolve one call rule: both ends are code-pinned, the caller possibly the sentinel. -/
def resolveCallRule (codeHashes : BTreeMap Address B256) (rules : List CallRule)
    (rule : CallRuleV5) : Except Message (List CallRule) := do
  refuse (rule.target = 0 ∨ codeHashes.contains rule.target = false ∨
      (rule.caller ≠ activeMemberSentinel ∧ codeHashes.contains rule.caller = false) ∨
      ∃ other ∈ rules, other.caller = rule.caller ∧ other.target = rule.target)
    ("v5 call rules require unique code-pinned caller/target pairs" : Message)
  let selectors := Std.ExtTreeSet.ofList rule.selectors compare
  refuse (selectors.isEmpty ∨ selectors.size ≠ rule.selectors.length)
    ("v5 call selectors must be non-empty and unique" : Message)
  let kinds ← rule.kinds.foldlM collectKind ∅
  refuse (kinds.isEmpty) ("v5 call rule has no allowed call kind" : Message)
  pure (rules ++ [⟨rule.caller, rule.target, selectors, kinds⟩])

/-- Resolve one storage region of a code-pinned contract. -/
def resolveNamespace (codeHashes : BTreeMap Address B256) (regions : List StorageNamespace)
    (region : StorageNamespaceV5) : Except Message (List StorageNamespace) := do
  refuse (256 < region.prefixBits ∨ codeHashes.contains region.contract = false ∨
      ∃ other ∈ regions, other.contract = region.contract ∧
        other.slotPrefix = region.slotPrefix ∧ other.prefixBits = region.prefixBits)
    ("v5 storage namespaces must be unique and refer to code-pinned contracts" : Message)
  pure (regions ++ [⟨region.contract, region.slotPrefix, region.prefixBits, region.writable⟩])

/-- Every stored slot is inside some region. -/
def checkStoredSlots (accounts : BTreeMap Address AccountRecord)
    (regions : List StorageNamespace) : Except Message Unit :=
  forEach accounts.toList fun entry =>
    forEach entry.2.storage.keys fun slot =>
      refuse (coveredBy regions entry.1 slot = false)
        [.text "storage ", .address entry.1, .text "[", .hex slot,
          .text "] is outside the certified v5 namespace"]

/-- The four registry slots of a participant binding. -/
def ParticipantRegistryBindingV5.slots (participant : ParticipantRegistryBindingV5) :
    List U256 :=
  [participant.rootSlot, participant.epochSlot, participant.countSlot, participant.capacitySlot]

/-- The participant registry is code-pinned, writable and out of reach of the imports. -/
def checkParticipantRegistry (policy : ExecutionPolicyV5) (codeHashes : BTreeMap Address B256)
    (regions : List StorageNamespace) : Except Message ParticipantRegistryBindingV5 := do
  let participant ← orRefuse policy.participantRegistry
    ("v5 participant registry binding is required" : Message)
  refuse (participant.contract = 0 ∨ codeHashes.contains participant.contract = false ∨
      (Std.ExtTreeSet.ofList participant.slots compare).size ≠ 4)
    ("participant registry must name one code-pinned contract and four unique slots" : Message)
  forEach participant.slots fun slot => do
    refuse (writableBy regions participant.contract slot = false)
      ("participant registry slots must be in a writable namespace" : Message)
    refuse (∃ binding ∈ policy.imports,
        binding.roomContract = participant.contract ∧ binding.roomSlot = slot)
      ("L1 imports cannot overwrite participant registry metadata" : Message)
  pure participant

/-- One declared asset has the shape of its kind. -/
def checkExitAssetKind (codeHashes : BTreeMap Address B256) (asset : ExitAssetBindingV5) :
    Except Message Unit :=
  if asset.kind = 0 then
    refuse (asset.asset ≠ 0 ∨ asset.token ≠ 0 ∨ asset.balanceSlot ≠ 0)
      ("native exit asset must use the zero asset, token and balance slot" : Message)
  else if asset.kind = 1 then
    refuse (asset.asset = 0 ∨ asset.token = 0 ∨ codeHashes.contains asset.token = false)
      ("ERC-20 exit asset requires a non-zero asset and a code-pinned token" : Message)
  else .error "exit asset kind must be native or ERC-20"

/-- One declared asset is above the one before it. -/
def checkExitAsset (codeHashes : BTreeMap Address B256) (previousAsset : Option Address)
    (asset : ExitAssetBindingV5) : Except Message (Option Address) := do
  refuse (previousAsset.any fun previous => asset.asset ≤ previous)
    ("exit assets must be sorted and unique" : Message)
  checkExitAssetKind codeHashes asset
  pure (some asset.asset)

/-- The exit queue is code-pinned, writable and out of reach of the imports. -/
def checkExitBinding (policy : ExecutionPolicyV5) (participant : ParticipantRegistryBindingV5)
    (codeHashes : BTreeMap Address B256) (regions : List StorageNamespace)
    (exit : ExitBindingV5) : Except Message Unit := do
  refuse (exit.queueContract = 0 ∨ codeHashes.contains exit.queueContract = false ∨
      exit.queueContract = participant.contract ∨ exit.fallbackRecipient = 0)
    (("exit binding requires a code-pinned queue distinct from the participant " ++
      "registry and a non-zero fallback recipient" : String) : Message)
  forEach [exit.countSlot, exit.recordsBaseSlot] fun slot =>
    refuse (writableBy regions exit.queueContract slot = false)
      ("exit queue slots must be in a writable namespace" : Message)
  refuse (∃ binding ∈ policy.imports, binding.roomContract = exit.queueContract)
    ("L1 imports cannot write into the exit queue contract" : Message)
  refuse (maxExitAssetsV5 < exit.assets.length)
    ("exit binding declares more assets than MAX_EXIT_ASSETS_V5" : Message)
  let _ ← exit.assets.foldlM (checkExitAsset codeHashes) none
  pure ()

/-- The resource envelope and the roster are usable. -/
def checkResourceEnvelope (policy : ExecutionPolicyV5) (activeMembers : BTreeSet Address) :
    Except Message Unit := do
  refuse (1 < policy.stateCommitment ∨ policy.maxBlocksPerBatch = 0 ∨
      64 < policy.maxBlocksPerBatch ∨ policy.maxTransactionsPerBlock = 0 ∨
      4096 < policy.maxTransactionsPerBlock ∨ policy.maxGasPerBlock = 0 ∨
      policy.maxMemoryBytes = 0 ∨ activeMembers.isEmpty)
    ("v5 state commitment, resource envelope or active roster is invalid" : Message)
  refuse (policy.allowContractCreation ∨ policy.allowSelfDestruct)
    ("certified v5 rooms cannot permit creation or selfdestruct; use generic execution" : Message)

/-- Build the policy of a room from its binary commitment, the authenticated callers and the
state its code and storage are pinned against. -/
def ExecutionPolicyV4.fromV5 (policy : ExecutionPolicyV5) (expectedHash : B256)
    (activeMembers : BTreeSet Address) (state : StateMap) (membershipChanged : Bool) :
    Except Message ExecutionPolicyV4 := do
  refuse (executionPolicyHashV5 primitives.keccak256 policy ≠ expectedHash)
    ("structured v5 policy does not hash to policyHash" : Message)
  checkResourceEnvelope policy activeMembers
  let pinned ← policy.code.foldlM (pinCode primitives state.accounts) (none, ∅)
  refuse (pinned.2.isEmpty) ("certified v5 policy has no code commitments" : Message)
  forEach state.accounts.toList fun entry =>
    refuse (entry.2.code ≠ [] ∧ pinned.2.contains entry.1 = false)
      [.text "uncommitted executable code at ", .address entry.1]
  let callRules ← policy.calls.foldlM (resolveCallRule pinned.2) []
  refuse (callRules.isEmpty) ("certified v5 policy has no call rules" : Message)
  let regions ← policy.storage.foldlM (resolveNamespace pinned.2) []
  checkStoredSlots state.accounts regions
  forEach policy.imports fun binding =>
    refuse (writableBy regions binding.roomContract binding.roomSlot = false)
      ("L1 import mirror destinations must be in a writable v5 namespace" : Message)
  let participant ← checkParticipantRegistry policy pinned.2 regions
  forEach policy.exit.toList (checkExitBinding policy participant pinned.2 regions)
  refuse (2 ^ primitives.usizeBits ≤ policy.maxMemoryBytes.toNat)
    ("v5 maxMemoryBytes exceeds host usize" : Message)
  pure {
    certified := true
    activeMembers := activeMembers
    codeHashes := pinned.2
    callRules := callRules
    storageNamespaces := regions
    activeMemberArgumentRules := []
    membershipStateGuards := []
    membershipChanged := membershipChanged
    allowContractCreation := false
    allowSelfDestruct := false
    maxGasPerBlock := policy.maxGasPerBlock
    maxMemoryBytes := policy.maxMemoryBytes.toNat }

end Construction

/-! ### Enforcement -/

/-- What a transaction calls. -/
inductive TxKind where
  | create
  | call (target : Address)
deriving DecidableEq

/-- The selector of call data, if it is at least four octets long. -/
def selectorOf (input : Bytes) : Option Selector :=
  (slice input 0 4).map fun bytes => BitVec.ofNat 32 (ofBigEndian bytes)

namespace ExecutionPolicyV4

variable (primitives : Primitives)

/-- The caller a rule has to name for this caller. -/
def callerRule (policy : ExecutionPolicyV4) (caller : Address) : Address :=
  if policy.activeMembers.contains caller then activeMemberSentinel else caller

/-- Some rule covers the call. -/
def ruleCovers (policy : ExecutionPolicyV4) (caller target : Address) (kind : AllowedCallKind)
    (selector : Selector) : Bool :=
  policy.callRules.any fun rule =>
    rule.caller == caller && rule.target == target && rule.kinds.contains kind.toU8 &&
      rule.selectors.contains selector

def allowsCall (policy : ExecutionPolicyV4) (caller target : Address) (kind : AllowedCallKind)
    (selector : Option Selector) : Bool :=
  if policy.certified = false then true
  else if primitives.isPrecompile target && policy.codeHashes.contains caller then
    kind != .delegateCall
  else
    match selector with
    | none => false
    | some selector => policy.ruleCovers (policy.callerRule caller) target kind selector

/-- One argument word of a member call is the address of an authenticated member. -/
def validateActiveMemberArgument (policy : ExecutionPolicyV4) (input : Bytes) (wordIndex : U8) :
    Except Message Unit := do
  let offset ← orRefuse (primitives.checkedUsizeAdd 0 (wordIndex.toNat * 32))
    ("ABI index overflow" : Message)
  let start ← orRefuse (primitives.checkedUsizeAdd 4 offset) ("ABI index overflow" : Message)
  let finish ← orRefuse (primitives.checkedUsizeAdd start 32) ("ABI index overflow" : Message)
  let word ← orRefuse (slice input start finish)
    [.text "active-member ABI argument ", .decimal wordIndex.toNat, .text " is missing"]
  refuse ((word.take 12).any fun octet => octet != 0)
    [.text "active-member ABI argument ", .decimal wordIndex.toNat,
      .text " is not a canonical address"]
  let member : Address := BitVec.ofNat 160 (ofBigEndian (word.drop 12))
  refuse (policy.activeMembers.contains member = false)
    [.text "active-member ABI argument ", .decimal wordIndex.toNat, .text " (",
      .address member, .text ") is not in the authenticated roster"]

def validateActiveMemberArguments (policy : ExecutionPolicyV4) (target : Address)
    (selector : Option Selector) (input : Bytes) : Except Message Unit :=
  match selector with
  | none => .ok ()
  | some selector =>
    match policy.activeMemberArgumentRules.find? fun rule =>
        rule.target == target && rule.selector == selector with
    | none => .ok ()
    | some rule =>
      forEach rule.argumentWordIndices (policy.validateActiveMemberArgument primitives input)

/-- Validate the outermost frame of a transaction. -/
def validateTransactionEntry (policy : ExecutionPolicyV4) (caller : Address) (kind : TxKind)
    (input : Bytes) : Except Message Unit :=
  if policy.certified = false then .ok ()
  else
    match kind with
    | .create =>
      if policy.allowContractCreation then .ok ()
      else .error "contract creation is disabled by the preset"
    | .call target => do
      refuse (policy.allowsCall primitives caller target .call (selectorOf input) = false)
        [.text "root transaction ", .address caller, .text " -> ", .address target,
          .text " (Call, selector ", .selector (selectorOf input),
          .text ") is outside the certified envelope"]
      policy.validateActiveMemberArguments primitives target (selectorOf input) input

/-- The state values a membership change may be made at. -/
def validateMembershipStateGuard (state : StateMap) (guard : MembershipStateGuard) :
    Except Message Unit := do
  let account ← orRefuse state.accounts[guard.contract]?
    [.text "membership guard contract ", .address guard.contract, .text " is absent"]
  let packed := account.slot guard.storageSlot
  let mask : U256 :=
    if guard.bitWidth = 256 then BitVec.allOnes 256 else (1 <<< guard.bitWidth.toNat) - 1
  let value := (packed >>> guard.bitOffset.toNat) &&& mask
  refuse (guard.allowedValues.contains value = false)
    [.text "membership change is forbidden by ", .address guard.contract, .text "[",
      .hex guard.storageSlot, .text "] state value ", .decimal value.toNat]

def validateMembershipStateGuards (policy : ExecutionPolicyV4) (state : StateMap) :
    Except Message Unit :=
  if policy.membershipChanged = false then .ok ()
  else forEach policy.membershipStateGuards (validateMembershipStateGuard state)

/-- One slot of one account: changed only inside a writable region. -/
def checkSlotChange (policy : ExecutionPolicyV4) (address : Address)
    (before : Option (BTreeMap U256 U256)) (after : Option AccountRecord) (slot : U256) :
    Except Message Unit :=
  refuse ((before.bind fun storage => storage[slot]?).getD 0 ≠
        (after.bind fun account => account.storage[slot]?).getD 0 ∧
      writableBy policy.storageNamespaces address slot = false)
    [.text "write to read-only/out-of-envelope storage ", .address address, .text "[",
      .hex slot, .text "]"]

/-- Every slot of one account that is stored before or after. -/
def checkAccountChange (policy : ExecutionPolicyV4)
    (preStorage : BTreeMap Address (BTreeMap U256 U256)) (post : StateMap) (address : Address) :
    Except Message Unit :=
  forEach (Std.ExtTreeSet.ofList
    ((preStorage[address]?.map fun storage => storage.keys).getD [] ++
      (post.accounts[address]?.map fun account => account.storage.keys).getD []) compare).toList
    (policy.checkSlotChange address preStorage[address]? post.accounts[address]?)

/-- The terminal state keeps the pinned code and changes storage only where it may. -/
def validatePostState (policy : ExecutionPolicyV4)
    (preStorage : BTreeMap Address (BTreeMap U256 U256)) (post : StateMap) :
    Except Message Unit :=
  if policy.certified = false then .ok ()
  else do
    forEach policy.codeHashes.toList fun pinned => do
      let account ← orRefuse post.accounts[pinned.1]?
        [.text "pinned code account ", .address pinned.1, .text " disappeared"]
      refuse (account.codeHash primitives ≠ pinned.2)
        [.text "pinned code changed at ", .address pinned.1]
    forEach (Std.ExtTreeSet.ofList (preStorage.keys ++ post.accounts.keys) compare).toList
      (policy.checkAccountChange preStorage post)
    policy.validateMembershipStateGuards post

end ExecutionPolicyV4

/-! ### What the constructor establishes -/

/-- A call rule of the binary policy as the resolved policy holds it. -/
def CallRuleV5.resolved (rule : CallRuleV5) : CallRule where
  caller := rule.caller
  target := rule.target
  selectors := .ofList rule.selectors
  kinds := .ofList rule.kinds

/-- A storage region of the binary policy as the resolved policy holds it. -/
def StorageNamespaceV5.resolved (region : StorageNamespaceV5) : StorageNamespace where
  contract := region.contract
  slotPrefix := region.slotPrefix
  prefixBits := region.prefixBits
  writable := region.writable

/-- The assets of an exit binding: in strictly increasing order, native or in a token. -/
structure AssetsChecked (assets : List ExitAssetBindingV5) : Prop where
  sorted : assets.Pairwise fun earlier later => earlier.asset < later.asset
  kinds : ∀ asset ∈ assets,
    asset.kind = 0 ∧ asset.asset = 0 ∨ asset.kind = 1 ∧ asset.asset ≠ 0

/-- The resolved policy of a room: the rules and regions of the binary policy, callers that
are counted as members, no creation, imports that stay inside the writable regions and out of
the exit queue, and exit assets in order. -/
structure FromV5 (policy : ExecutionPolicyV5) (activeMembers : BTreeSet Address)
    (resolved : ExecutionPolicyV4) : Prop where
  certified : resolved.certified = true
  members : resolved.activeMembers = activeMembers
  callRules : resolved.callRules = policy.calls.map CallRuleV5.resolved
  storageNamespaces : resolved.storageNamespaces = policy.storage.map StorageNamespaceV5.resolved
  argumentRules : resolved.activeMemberArgumentRules = []
  noCreation : resolved.allowContractCreation = false
  importsWritable : ∀ binding ∈ policy.imports,
    writableBy resolved.storageNamespaces binding.roomContract binding.roomSlot = true
  importsAvoidQueue : ∀ exit, policy.exit = some exit → ∀ binding ∈ policy.imports,
    binding.roomContract ≠ exit.queueContract
  exitAssets : ∀ exit, policy.exit = some exit → AssetsChecked exit.assets

theorem collectKinds_eq {kinds : List U8} {start finish : BTreeSet U8}
    (ran : kinds.foldlM collectKind start = .ok finish) : finish = start.insertMany kinds := by
  induction kinds generalizing start with
  | nil => rw [Std.ExtTreeSet.insertMany_nil, foldlM_nil_eq_ok.mp ran]
  | cons kind rest inductionHypothesis =>
    obtain ⟨next, stepped, remaining⟩ := foldlM_cons_eq_ok.mp ran
    obtain ⟨-, stepped⟩ := refuse_bind_eq_ok.mp stepped
    rw [Std.ExtTreeSet.insertMany_cons, pure_eq_ok.mp stepped]
    exact inductionHypothesis remaining

theorem resolveCallRules_eq {codeHashes : BTreeMap Address B256} {rules : List CallRuleV5}
    {resolved : List CallRule}
    (ran : rules.foldlM (resolveCallRule codeHashes) [] = .ok resolved) :
    resolved = rules.map CallRuleV5.resolved := by
  refine foldlM_invariant (fun consumed resolved => resolved = consumed.map CallRuleV5.resolved)
    ran rfl ?_
  intro consumed rule before after holds stepped
  obtain ⟨-, stepped⟩ := refuse_bind_eq_ok.mp stepped
  obtain ⟨-, stepped⟩ := refuse_bind_eq_ok.mp stepped
  obtain ⟨kinds, collected, stepped⟩ := bind_eq_ok.mp stepped
  obtain ⟨-, stepped⟩ := refuse_bind_eq_ok.mp stepped
  rw [← pure_eq_ok.mp stepped, List.map_append, ← holds, collectKinds_eq collected,
    ← Std.ExtTreeSet.ofList_eq_insertMany_empty]
  rfl

theorem resolveNamespaces_eq {codeHashes : BTreeMap Address B256}
    {regions : List StorageNamespaceV5} {resolved : List StorageNamespace}
    (ran : regions.foldlM (resolveNamespace codeHashes) [] = .ok resolved) :
    resolved = regions.map StorageNamespaceV5.resolved := by
  refine foldlM_invariant
    (fun consumed resolved => resolved = consumed.map StorageNamespaceV5.resolved) ran rfl ?_
  intro consumed region before after holds stepped
  obtain ⟨-, stepped⟩ := refuse_bind_eq_ok.mp stepped
  rw [← pure_eq_ok.mp stepped, List.map_append, ← holds]
  rfl

theorem checkExitAsset_spec {codeHashes : BTreeMap Address B256} {before after : Option Address}
    {asset : ExitAssetBindingV5} (checked : checkExitAsset codeHashes before asset = .ok after) :
    (∀ previous, before = some previous → previous < asset.asset) ∧
      (asset.kind = 0 ∧ asset.asset = 0 ∨ asset.kind = 1 ∧ asset.asset ≠ 0) ∧
      after = some asset.asset := by
  obtain ⟨above, checked⟩ := refuse_bind_eq_ok.mp checked
  obtain ⟨⟨⟩, shaped, checked⟩ := bind_eq_ok.mp checked
  refine ⟨fun previous last => ?_, ?_, (pure_eq_ok.mp checked).symm⟩
  · rw [last, Option.any_some, decide_eq_true_eq, BitVec.not_le] at above
    exact above
  · unfold checkExitAssetKind at shaped
    split at shaped
    · rename_i native
      exact .inl ⟨native, not_not.mp (not_or.mp (refuse_eq_ok.mp shaped)).1⟩
    · split at shaped
      · rename_i token
        exact .inr ⟨token, (not_or.mp (refuse_eq_ok.mp shaped)).1⟩
      · cases shaped

theorem checkExitAssets_spec {codeHashes : BTreeMap Address B256}
    {assets : List ExitAssetBindingV5} {last : Option Address}
    (checked : assets.foldlM (checkExitAsset codeHashes) none = .ok last) :
    AssetsChecked assets := by
  have ordered := foldlM_invariant (Increasing ExitAssetBindingV5.asset) checked
    increasing_nil ?_
  · exact ⟨ordered.sorted,
      foldlM_forall checked fun _ _ _ stepped => (checkExitAsset_spec stepped).2.1⟩
  · intro consumed asset before after holds stepped
    obtain ⟨beyond, -, rfl⟩ := checkExitAsset_spec stepped
    exact holds.concat beyond

/-- A binding that passes keeps the imports out of its queue and has its assets in order. -/
theorem checkExitBinding_spec {policy : ExecutionPolicyV5}
    {participant : ParticipantRegistryBindingV5} {codeHashes : BTreeMap Address B256}
    {regions : List StorageNamespace} {exit : ExitBindingV5} {done : Unit}
    (checked : checkExitBinding policy participant codeHashes regions exit = .ok done) :
    (∀ binding ∈ policy.imports, binding.roomContract ≠ exit.queueContract) ∧
      AssetsChecked exit.assets := by
  obtain ⟨-, checked⟩ := refuse_bind_eq_ok.mp checked
  obtain ⟨-, -, checked⟩ := bind_eq_ok.mp checked
  obtain ⟨avoided, checked⟩ := refuse_bind_eq_ok.mp checked
  obtain ⟨-, checked⟩ := refuse_bind_eq_ok.mp checked
  obtain ⟨last, ran, -⟩ := bind_eq_ok.mp checked
  exact ⟨fun binding member same => avoided ⟨binding, member, same⟩, checkExitAssets_spec ran⟩

/-- The checks of the constructor, with what its loops return. Only the pins, the code outside
them and the stored slots look at the state. -/
structure BuildsV5 (primitives : Primitives) (policy : ExecutionPolicyV5) (expectedHash : B256)
    (activeMembers : BTreeSet Address) (state : StateMap)
    (pinned : Option Address × BTreeMap Address B256) (callRules : List CallRule)
    (regions : List StorageNamespace) (participant : ParticipantRegistryBindingV5) : Prop where
  hash : ¬ executionPolicyHashV5 primitives.keccak256 policy ≠ expectedHash
  envelope : checkResourceEnvelope policy activeMembers = .ok ()
  pins : policy.code.foldlM (pinCode primitives state.accounts) (none, ∅) = .ok pinned
  somePins : ¬ pinned.2.isEmpty
  codePinned : ∀ entry ∈ state.accounts.toList,
    ¬ (entry.2.code ≠ [] ∧ pinned.2.contains entry.1 = false)
  calls : policy.calls.foldlM (resolveCallRule pinned.2) [] = .ok callRules
  someRules : ¬ callRules.isEmpty
  namespaces : policy.storage.foldlM (resolveNamespace pinned.2) [] = .ok regions
  stored : checkStoredSlots state.accounts regions = .ok ()
  imports : ∀ binding ∈ policy.imports,
    ¬ writableBy regions binding.roomContract binding.roomSlot = false
  registry : checkParticipantRegistry policy pinned.2 regions = .ok participant
  exit : ∀ exit ∈ policy.exit.toList,
    checkExitBinding policy participant pinned.2 regions exit = .ok ()
  memory : ¬ 2 ^ primitives.usizeBits ≤ policy.maxMemoryBytes.toNat

/-- The policy the constructor returns. -/
def ExecutionPolicyV5.resolve (policy : ExecutionPolicyV5) (activeMembers : BTreeSet Address)
    (codeHashes : BTreeMap Address B256) (callRules : List CallRule)
    (regions : List StorageNamespace) (membershipChanged : Bool) : ExecutionPolicyV4 where
  certified := true
  activeMembers := activeMembers
  codeHashes := codeHashes
  callRules := callRules
  storageNamespaces := regions
  activeMemberArgumentRules := []
  membershipStateGuards := []
  membershipChanged := membershipChanged
  allowContractCreation := false
  allowSelfDestruct := false
  maxGasPerBlock := policy.maxGasPerBlock
  maxMemoryBytes := policy.maxMemoryBytes.toNat

theorem fromV5_eq_ok {primitives : Primitives} {policy : ExecutionPolicyV5} {expectedHash : B256}
    {activeMembers : BTreeSet Address} {state : StateMap} {membershipChanged : Bool}
    {resolved : ExecutionPolicyV4} :
    ExecutionPolicyV4.fromV5 primitives policy expectedHash activeMembers state
        membershipChanged = .ok resolved ↔
      ∃ pinned callRules regions participant,
        BuildsV5 primitives policy expectedHash activeMembers state pinned callRules regions
          participant ∧
        policy.resolve activeMembers pinned.2 callRules regions membershipChanged = resolved := by
  constructor
  · intro built
    obtain ⟨hash, built⟩ := refuse_bind_eq_ok.mp built
    obtain ⟨⟨⟩, envelope, built⟩ := bind_eq_ok.mp built
    obtain ⟨pinned, pins, built⟩ := bind_eq_ok.mp built
    obtain ⟨somePins, built⟩ := refuse_bind_eq_ok.mp built
    obtain ⟨⟨⟩, codePinned, built⟩ := bind_eq_ok.mp built
    obtain ⟨callRules, calls, built⟩ := bind_eq_ok.mp built
    obtain ⟨someRules, built⟩ := refuse_bind_eq_ok.mp built
    obtain ⟨regions, namespaces, built⟩ := bind_eq_ok.mp built
    obtain ⟨⟨⟩, stored, built⟩ := bind_eq_ok.mp built
    obtain ⟨⟨⟩, imports, built⟩ := bind_eq_ok.mp built
    obtain ⟨participant, registry, built⟩ := bind_eq_ok.mp built
    obtain ⟨⟨⟩, exit, built⟩ := bind_eq_ok.mp built
    obtain ⟨memory, built⟩ := refuse_bind_eq_ok.mp built
    refine ⟨pinned, callRules, regions, participant, ?_, pure_eq_ok.mp built⟩
    exact ⟨hash, envelope, pins, somePins, forEach_refuse_eq_ok.mp codePinned, calls, someRules,
      namespaces, stored, forEach_refuse_eq_ok.mp imports, registry, forEach_eq_ok.mp exit, memory⟩
  · rintro ⟨pinned, callRules, regions, participant, builds, result⟩
    refine refuse_bind_eq_ok.mpr ⟨builds.hash, bind_eq_ok.mpr ⟨(), builds.envelope, ?_⟩⟩
    refine bind_eq_ok.mpr ⟨pinned, builds.pins, refuse_bind_eq_ok.mpr ⟨builds.somePins, ?_⟩⟩
    refine bind_eq_ok.mpr ⟨(), forEach_refuse_eq_ok.mpr builds.codePinned, ?_⟩
    refine bind_eq_ok.mpr ⟨callRules, builds.calls, refuse_bind_eq_ok.mpr ⟨builds.someRules, ?_⟩⟩
    refine bind_eq_ok.mpr ⟨regions, builds.namespaces, bind_eq_ok.mpr ⟨(), builds.stored, ?_⟩⟩
    refine bind_eq_ok.mpr ⟨(), forEach_refuse_eq_ok.mpr builds.imports, ?_⟩
    refine bind_eq_ok.mpr ⟨participant, builds.registry, ?_⟩
    refine bind_eq_ok.mpr ⟨(), forEach_eq_ok.mpr builds.exit, ?_⟩
    exact refuse_bind_eq_ok.mpr ⟨builds.memory, pure_eq_ok.mpr result⟩

theorem fromV5_spec {primitives : Primitives} {policy : ExecutionPolicyV5} {expectedHash : B256}
    {activeMembers : BTreeSet Address} {state : StateMap} {membershipChanged : Bool}
    {resolved : ExecutionPolicyV4}
    (built : ExecutionPolicyV4.fromV5 primitives policy expectedHash activeMembers state
      membershipChanged = .ok resolved) : FromV5 policy activeMembers resolved := by
  obtain ⟨pinned, callRules, regions, participant, builds, rfl⟩ := fromV5_eq_ok.mp built
  have exits {exit : ExitBindingV5} (bound : policy.exit = some exit) :=
    checkExitBinding_spec (builds.exit exit (by simp [bound]))
  exact {
    certified := rfl
    members := rfl
    callRules := resolveCallRules_eq builds.calls
    storageNamespaces := resolveNamespaces_eq builds.namespaces
    argumentRules := rfl
    noCreation := rfl
    importsWritable := fun binding member => Bool.not_eq_false _ ▸ builds.imports binding member
    importsAvoidQueue := fun exit bound => (exits bound).1
    exitAssets := fun exit bound => (exits bound).2 }

/-! ### Root calls under a room's policy -/

/-- Some rule of the binary policy covers the call. -/
def RuleCovers (policy : ExecutionPolicyV5) (caller target : Address) (kind : AllowedCallKind)
    (selector : Selector) : Prop :=
  ∃ rule ∈ policy.calls, rule.caller = caller ∧ rule.target = target ∧
    kind.toU8 ∈ rule.kinds ∧ selector ∈ rule.selectors

/-- The policy with one more authenticated caller. -/
def ExecutionPolicyV4.withMember (policy : ExecutionPolicyV4) (member : Address) :
    ExecutionPolicyV4 :=
  { policy with activeMembers := policy.activeMembers.insert member }

namespace FromV5

variable {policy : ExecutionPolicyV5} {members : BTreeSet Address}
  {resolved : ExecutionPolicyV4}

/-- Counting one more caller keeps everything else of the policy. -/
theorem withMember (built : FromV5 policy members resolved) (member : Address) :
    FromV5 policy (members.insert member) (resolved.withMember member) :=
  { built with members := by rw [ExecutionPolicyV4.withMember, built.members] }

theorem ruleCovers_iff (built : FromV5 policy members resolved) {caller target : Address}
    {kind : AllowedCallKind} {selector : Selector} :
    resolved.ruleCovers caller target kind selector = true ↔
      RuleCovers policy caller target kind selector := by
  unfold ExecutionPolicyV4.ruleCovers RuleCovers
  rw [built.callRules, List.any_map, List.any_eq_true]
  refine exists_congr fun rule => and_congr_right fun _ => ?_
  simp only [Function.comp_apply, CallRuleV5.resolved, Bool.and_eq_true, beq_iff_eq,
    Std.ExtTreeSet.contains_ofList, List.contains_iff_mem, and_assoc]

/-- A root call is admitted exactly when it calls an account and the policy allows the
call. -/
theorem entry_eq_ok (built : FromV5 policy members resolved) {primitives : Primitives}
    {caller : Address} {kind : TxKind} {data : Bytes} {done : Unit} :
    resolved.validateTransactionEntry primitives caller kind data = .ok done ↔
      ∃ target, kind = .call target ∧
        resolved.allowsCall primitives caller target .call (selectorOf data) = true := by
  unfold ExecutionPolicyV4.validateTransactionEntry
  rw [if_neg (by simp [built.certified])]
  cases kind with
  | create => simp [built.noCreation]
  | call target =>
    have unchecked : resolved.validateActiveMemberArguments primitives target (selectorOf data)
        data = .ok () := by
      unfold ExecutionPolicyV4.validateActiveMemberArguments
      rw [built.argumentRules]
      cases selectorOf data <;> rfl
    rw [refuse_bind_eq_ok, unchecked]
    simp

/-- A call of a counted caller is allowed exactly when it goes to a precompile from a pinned
account, or an active-member rule covers it. -/
theorem allowsCall_member (built : FromV5 policy members resolved) {primitives : Primitives}
    {caller target : Address} {selector : Option Selector} (counted : caller ∈ members) :
    resolved.allowsCall primitives caller target .call selector = true ↔
      (primitives.isPrecompile target && resolved.codeHashes.contains caller) = true ∨
        ∃ called, selector = some called ∧
          RuleCovers policy activeMemberSentinel target .call called := by
  have rule : resolved.callerRule caller = activeMemberSentinel := by
    rw [ExecutionPolicyV4.callerRule, built.members,
      if_pos (Std.ExtTreeSet.contains_iff_mem.mpr counted)]
  unfold ExecutionPolicyV4.allowsCall
  rw [if_neg (by simp [built.certified]), rule]
  by_cases precompile :
      (primitives.isPrecompile target && resolved.codeHashes.contains caller) = true
  · simp [precompile]
  · rw [if_neg precompile]
    cases selector with
    | none => simp [precompile]
    | some called => simp [precompile, built.ruleCovers_iff]

/-- A call from a pinned account to a precompile is allowed whoever is counted. -/
theorem allowsCall_precompile (built : FromV5 policy members resolved) {primitives : Primitives}
    {caller target : Address} {selector : Option Selector}
    (precompile :
      (primitives.isPrecompile target && resolved.codeHashes.contains caller) = true) :
    resolved.allowsCall primitives caller target .call selector = true := by
  unfold ExecutionPolicyV4.allowsCall
  rw [if_neg (by simp [built.certified]), if_pos precompile]
  rfl

end FromV5

end Zkdeal

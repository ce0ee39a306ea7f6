/-
This file proves that the exit of a retired slot is frozen for the life of a room.

A batch never sees the settlement before it. It is handed a list of claims, checks
the list against the previous root and its own roster, and compares the amounts of
the retired slots with those it derives. Three facts make that enough: a claims root
determines the claims under it, up to a collision; a retired slot never changes in
the roster; and the comparison covers every asset in which either list has a claim.
-/

import Zkdeal.ExitAuthentication
import Zkdeal.GenesisProgress
import Zkdeal.Membership
import Zkdeal.Settlement.Batch
import Zkdeal.SortedRoots

namespace Zkdeal

open Words Binding Guard Maps

/-! ### Claims on a roster -/

/-- Claims in canonical order, positive and paid to the accounts of their slots. -/
structure ClaimsOn (roster : List MemberSlotWitnessV4) (claims : List ExitAllocationV4) :
    Prop where
  increasing : ClaimsIncreasing claims
  positive : ∀ claim ∈ claims, claim.amount ≠ 0
  paid : ∀ claim ∈ claims, ∃ member, roster[claim.slot.toNat]? = some member ∧
    claim.recipient = member.account

theorem AuthenticClaims.claimsOn {keccak256 : Bytes → B256} {program : ExitProgramV4}
    {roster : List MemberSlotWitnessV4} {usedMask : U8} {allocations : List ExitAllocationV4}
    {expectedRoot deploymentId : B256} {roomId : U64}
    (authentic : AuthenticClaims keccak256 program roster usedMask allocations expectedRoot
      deploymentId roomId) : ClaimsOn roster allocations := by
  refine ⟨authentic.increasing.imp_of_mem fun {earlier later} atEarlier atLater below => ?_,
    fun claim member => (authentic.authentic claim member).positive, fun claim member => ?_⟩
  · have earlierSmall := (authentic.authentic earlier atEarlier).asset
    have laterSmall := (authentic.authentic later atLater).asset
    rw [maxAssets] at earlierSmall laterSmall
    rw [BitVec.lt_def, toNat_claimKey, toNat_claimKey] at below
    rw [BitVec.lt_def, toNat_pairKey, toNat_pairKey]
    omega
  · obtain ⟨holder, lookup, -, -, recipient⟩ := (authentic.authentic claim member).member
    exact ⟨holder, lookup, recipient⟩

theorem SettlesClaims.claimsOn {keccak256 : Bytes → B256} {program : ExitProgramV4}
    {roster : List MemberSlotWitnessV4} {totals : List AssetTotalWitnessV4} {deploymentId : B256}
    {roomId : U64} {amounts : BTreeMap U16 U256} {settlement : DerivedSettlementV4}
    (settles : SettlesClaims keccak256 program roster totals deploymentId roomId amounts settlement)
    (declared : AssetsDeclared program.assets) (ordered : InSlotOrder roster) :
    ClaimsOn roster settlement.exitAllocations := by
  refine ⟨settles.increasing declared ordered, fun claim member => ?_, fun claim member => ?_⟩
  · obtain ⟨asset, -, claimed⟩ := (settles.mem_exitAllocations claim).mp member
    exact (mem_claimsOf claimed).2.1
  · obtain ⟨asset, -, claimed⟩ := (settles.mem_exitAllocations claim).mp member
    obtain ⟨-, -, slot, among, placed, recipient⟩ := mem_claimsOf claimed
    obtain ⟨index, lookup⟩ := List.mem_iff_getElem?.mp (List.mem_of_mem_filter among)
    rw [← ordered index slot lookup, ← placed] at lookup
    exact ⟨slot, lookup, recipient⟩

/-- The amounts of claims in canonical order are those of the claims. -/
theorem getElem?_claimAmounts {claims : List ExitAllocationV4}
    (increasing : ClaimsIncreasing claims) (key : U16) (amount : U256) :
    (claimAmounts claims)[key]? = some amount ↔
      (key, amount) ∈ claims.map fun claim => (pairKey claim.slot claim.assetId, claim.amount) := by
  induction claims using List.reverseRecOn generalizing key amount with
  | nil => simp [claimAmounts]
  | append_singleton front last inductionHypothesis =>
    obtain ⟨sorted, -, above⟩ := List.pairwise_append.mp increasing
    rw [claimAmounts, List.foldl_append, ← claimAmounts, List.foldl_cons, List.foldl_nil,
      List.map_append, List.map_singleton]
    refine getElem?_insert_iff_mem (inductionHypothesis sorted) (fun entry listed same => ?_) _ _
    obtain ⟨claim, member, rfl⟩ := List.mem_map.mp listed
    exact BitVec.ne_of_lt (above claim member last List.mem_cons_self) same

theorem ClaimsOn.getD_claimAmounts {roster : List MemberSlotWitnessV4}
    {claims : List ExitAllocationV4} (on : ClaimsOn roster claims) {claim : ExitAllocationV4}
    (member : claim ∈ claims) :
    (claimAmounts claims).getD (pairKey claim.slot claim.assetId) 0 = claim.amount := by
  have found := (getElem?_claimAmounts on.increasing _ _).mpr
    (List.mem_map.mpr ⟨claim, member, rfl⟩)
  rw [Std.ExtTreeMap.getD_eq_getD_getElem?, found, Option.getD_some]

theorem ClaimsOn.exists_claim {roster : List MemberSlotWitnessV4}
    {claims : List ExitAllocationV4} (on : ClaimsOn roster claims) {slot assetId : U8}
    (nonzero : (claimAmounts claims).getD (pairKey slot assetId) 0 ≠ 0) :
    ∃ claim ∈ claims, claim.slot = slot ∧ claim.assetId = assetId ∧
      claim.amount = (claimAmounts claims).getD (pairKey slot assetId) 0 := by
  rw [Std.ExtTreeMap.getD_eq_getD_getElem?] at nonzero ⊢
  cases lookup : (claimAmounts claims)[pairKey slot assetId]? with
  | none => exact absurd (by rw [lookup]; rfl) nonzero
  | some amount =>
    obtain ⟨claim, member, equal⟩ := List.mem_map.mp
      ((getElem?_claimAmounts on.increasing _ _).mp lookup)
    obtain ⟨keys, amounts⟩ := Prod.mk.inj equal
    exact ⟨claim, member, (pairKey_inj keys).1, (pairKey_inj keys).2, amounts⟩

/-- The claims of one slot. -/
def exitsOf (claims : List ExitAllocationV4) (slot : U8) : List ExitAllocationV4 :=
  claims.filter fun claim => claim.slot == slot

/-- A claim is in every list on the same slot that has the same amounts for it. -/
theorem ClaimsOn.mem_of_amounts {before after : List MemberSlotWitnessV4}
    {previous current : List ExitAllocationV4} (on : ClaimsOn before previous)
    (next : ClaimsOn after current) {slot : U8}
    (unmoved : before[slot.toNat]? = after[slot.toNat]?)
    (amounts : ∀ assetId, (claimAmounts previous).getD (pairKey slot assetId) 0 =
      (claimAmounts current).getD (pairKey slot assetId) 0)
    {claim : ExitAllocationV4} (member : claim ∈ previous) (own : claim.slot = slot) :
    claim ∈ current := by
  subst own
  have amount := on.getD_claimAmounts member
  have kept := amounts claim.assetId
  rw [amount] at kept
  obtain ⟨other, listed, slot, assetId, same⟩ :=
    next.exists_claim (kept ▸ on.positive claim member)
  obtain ⟨holder, lookup, recipient⟩ := on.paid claim member
  obtain ⟨otherHolder, otherLookup, otherRecipient⟩ := next.paid other listed
  rw [slot, ← unmoved, lookup] at otherLookup
  obtain rfl := Option.some.inj otherLookup
  have equal : other = claim := by
    cases other
    cases claim
    simp_all
  exact equal ▸ listed

theorem ClaimsOn.exitsOf_eq {before after : List MemberSlotWitnessV4}
    {previous current : List ExitAllocationV4} (on : ClaimsOn before previous)
    (next : ClaimsOn after current) {slot : U8}
    (unmoved : before[slot.toNat]? = after[slot.toNat]?)
    (amounts : ∀ assetId, (claimAmounts previous).getD (pairKey slot assetId) 0 =
      (claimAmounts current).getD (pairKey slot assetId) 0) :
    exitsOf previous slot = exitsOf current slot := by
  refine ClaimsIncreasing.eq_of_mem_iff (on.increasing.filter _) (next.increasing.filter _)
    fun claim => ?_
  rw [exitsOf, exitsOf, List.mem_filter, List.mem_filter, beq_iff_eq]
  constructor
  · rintro ⟨member, own⟩
    exact ⟨on.mem_of_amounts next unmoved amounts member own, own⟩
  · rintro ⟨member, own⟩
    exact ⟨next.mem_of_amounts on unmoved.symm (fun assetId => (amounts assetId).symm) member own,
      own⟩

/-! ### Continuity -/

/-- Continuity keeps every amount of a slot that was retired before the batch. -/
theorem enforceRetiredExitContinuityV4_amounts {previous current : List ExitAllocationV4}
    {preUsedMask preActiveMask slot : U8} (octet : slot.toNat < 8)
    (kept : enforceRetiredExitContinuityV4 previous current preUsedMask preActiveMask = .ok ())
    (retired : (alreadyRetired preUsedMask preActiveMask).getLsbD slot.toNat = true)
    (assetId : U8) :
    (claimAmounts previous).getD (pairKey slot assetId) 0 =
      (claimAmounts current).getD (pairKey slot assetId) 0 := by
  dsimp only [enforceRetiredExitContinuityV4] at kept
  split_ifs at kept with none
  · rw [none] at retired
    exact absurd retired (by simp)
  · by_contra different
    have bit : alreadyRetired preUsedMask preActiveMask &&& ((1 : U8) <<< slot.toNat) ≠ 0 := by
      rw [ne_eq, and_bit_eq_zero _ octet, retired]
      decide
    have own : BitVec.extractLsb' 8 8 (pairKey slot assetId) = slot :=
      BitVec.extractLsb'_append_eq_left
    have listed : pairKey slot assetId ∈ (Std.ExtTreeSet.ofList
        ((claimAmounts previous).keys ++ (claimAmounts current).keys) compare).toList := by
      rw [Std.ExtTreeSet.mem_toList, Std.ExtTreeSet.mem_ofList, List.contains_iff_mem,
        List.mem_append, Std.ExtTreeMap.mem_keys, Std.ExtTreeMap.mem_keys]
      by_contra absent
      rw [not_or] at absent
      rw [Std.ExtTreeMap.getD_eq_fallback absent.1, Std.ExtTreeMap.getD_eq_fallback absent.2]
        at different
      exact different rfl
    have checked := refuse_eq_ok.mp (forEach_eq_ok.mp kept _ listed)
    rw [own] at checked
    exact checked ⟨bit, different⟩

/-- A retired slot of a well-shaped roster is among those that were retired before. -/
theorem Shaped.getLsbD_alreadyRetired {slots : List MemberSlotWitnessV4}
    {activeMask usedMask : U8} (shaped : Shaped slots activeMask usedMask) {index : Nat}
    {member : MemberSlotWitnessV4} (lookup : slots[index]? = some member)
    (retired : member.state = memberRetired) :
    (alreadyRetired usedMask activeMask).getLsbD index = true := by
  have inside : index < 7 := by
    have bound := (List.getElem?_eq_some_iff.mp lookup).1
    rwa [shaped.length, maxMembers] at bound
  have used : member.isUsed = true :=
    MemberSlotWitnessV4.isUsed_eq_true.mpr (by rw [retired]; decide)
  have inactive : member.isActive = false :=
    MemberSlotWitnessV4.isActive_eq_false.mpr (by rw [retired]; decide)
  have seven : (127 : U8).getLsbD index = true := by
    interval_cases index <;> rfl
  rw [alreadyRetired, ← shaped.used, ← shaped.active, BitVec.getLsbD_and, BitVec.getLsbD_and,
    BitVec.getLsbD_not, getLsbD_slotMask, getLsbD_slotMask, lookup, Option.any_some,
    Option.any_some, used, inactive, seven]
  simp
  omega

/-! ### Batches -/

/-- A batch with the journal it was executed to. -/
structure ExecutedBatchV4 where
  input : BatchInputV4
  journal : BatchJournalV4

def ExecutedBatchV4.Accepted (externals : Externals) (json : JsonLibrary)
    (batch : ExecutedBatchV4) : Prop :=
  executeBatchV4 externals json batch.input = .ok batch.journal

/-- The later batch starts from the roster, the masks and the exit root the earlier one ended
with. -/
structure ExecutedBatchV4.Continues (earlier later : ExecutedBatchV4) : Prop where
  roster : later.input.preRosterSlots = earlier.input.postRosterSlots
  activeMask : later.input.activeMask = earlier.input.postActiveMask
  usedMask : later.input.preUsedMask = earlier.input.usedMask
  exitRoot : later.input.previousExitRoot = earlier.journal.exitRoot

/-- Every message a batch hashes for the two claim roots it computes. -/
def ExecutedBatchV4.exitMessages (keccak256 : Bytes → B256) (batch : ExecutedBatchV4) :
    List Bytes :=
  claimRootMessages keccak256 batch.input.deploymentId batch.input.roomId
      batch.input.previousExitAllocations ++
    claimRootMessages keccak256 batch.input.deploymentId batch.input.roomId
      batch.journal.exitAllocations

/-- The membership transition of a batch. -/
def BatchInputV4.membership (input : BatchInputV4) : MembershipStep where
  batchIndex := input.batchIndex
  before := input.preRosterSlots
  after := input.postRosterSlots
  deltas := input.membershipDeltas
  preRoot := input.preRosterRoot
  postRoot := input.postRosterRoot
  preActiveMask := input.activeMask
  preUsedMask := input.preUsedMask
  postActiveMask := input.postActiveMask
  postUsedMask := input.usedMask

/-- What an accepted batch says about the exits before and after it. -/
structure BatchExits (keccak256 : Bytes → B256) (batch : ExecutedBatchV4) : Prop where
  membership : batch.input.membership.Valid
  previous : ClaimsOn batch.input.preRosterSlots batch.input.previousExitAllocations
  previousRoot : claimMerkleRootV4 keccak256 batch.input.deploymentId batch.input.roomId
    batch.input.previousExitAllocations = batch.input.previousExitRoot
  derived : ClaimsOn batch.input.postRosterSlots batch.journal.exitAllocations
  root : batch.journal.exitRoot = claimMerkleRootV4 keccak256 batch.input.deploymentId
    batch.input.roomId batch.journal.exitAllocations
  continuity : enforceRetiredExitContinuityV4 batch.input.previousExitAllocations
    batch.journal.exitAllocations batch.input.preUsedMask batch.input.activeMask = .ok ()

theorem ExecutedBatchV4.Accepted.exits {externals : Externals} {json : JsonLibrary}
    {batch : ExecutedBatchV4} (accepted : batch.Accepted externals json) :
    BatchExits externals.keccak256 batch := by
  obtain ⟨opened, closed, settlement, opens, settles, claims, root⟩ := executeBatchV4_spec accepted
  have step : batch.input.membership.Accepted externals.keccak256 := ⟨_, opens.membership⟩
  have previous := authenticatePreviousExitAllocationsV4_eq_ok.mp opens.previous
  obtain ⟨amounts, derived⟩ := settles_of_deriveSettlementV4 settles.derived
  refine ⟨step.valid, previous.claimsOn, previous.root, ?_, ?_, ?_⟩
  · rw [claims]
    exact derived.claimsOn (assetsDeclared_of_parse opens.exitProgram)
      step.valid.closes.placed
  · rw [claims, root]
    exact derived.root
  · rw [claims]
    exact settles.continuity

/-! ### Chains -/

/-- A slot retired after the earlier batch is the same slot after the later one, with the same
exits. -/
structure ExecutedBatchV4.Freezes (earlier later : ExecutedBatchV4) : Prop where
  roster : ∀ (index : Nat) (member : MemberSlotWitnessV4),
    earlier.input.postRosterSlots[index]? = some member → member.state = memberRetired →
    later.input.postRosterSlots[index]? = some member
  exits : ∀ member ∈ earlier.input.postRosterSlots, member.state = memberRetired →
    exitsOf later.journal.exitAllocations member.slot =
      exitsOf earlier.journal.exitAllocations member.slot

theorem ExecutedBatchV4.Freezes.trans {first second third : ExecutedBatchV4}
    (earlier : first.Freezes second) (later : second.Freezes third) : first.Freezes third := by
  refine ⟨fun index member lookup retired => ?_, fun member listed retired => ?_⟩
  · exact later.roster index member (earlier.roster index member lookup retired) retired
  · obtain ⟨index, lookup⟩ := List.mem_iff_getElem?.mp listed
    have still := List.mem_of_getElem? (earlier.roster index member lookup retired)
    exact (later.exits member still retired).trans (earlier.exits member listed retired)

instance : Trans ExecutedBatchV4.Freezes ExecutedBatchV4.Freezes ExecutedBatchV4.Freezes :=
  ⟨.trans⟩

theorem MembershipStep.Valid.frozen {step : MembershipStep} (valid : step.Valid) {index : Nat}
    {member : MemberSlotWitnessV4} (lookup : step.before[index]? = some member)
    (retired : member.state = memberRetired) : step.after[index]? = some member := by
  have inside : index < step.after.length := by
    rw [valid.closes.length, ← valid.opens.length]
    exact (List.getElem?_eq_some_iff.mp lookup).1
  have found := List.getElem?_eq_getElem inside
  rw [found, (valid.later.slots index member _ lookup found).frozen retired]

/-- The claims a batch authenticates are those the batch before it derived. -/
theorem ExecutedBatchV4.Continues.claims {keccak256 : Bytes → B256}
    {earlier later : ExecutedBatchV4} (continues : earlier.Continues later)
    (derives : BatchExits keccak256 earlier) (authenticates : BatchExits keccak256 later)
    {messages : List Bytes} (clean : ¬ Collides keccak256 messages)
    (earlierHashed : earlier.exitMessages keccak256 ⊆ messages)
    (laterHashed : later.exitMessages keccak256 ⊆ messages) :
    later.input.previousExitAllocations = earlier.journal.exitAllocations := by
  have roots := authenticates.previousRoot.trans (continues.exitRoot.trans derives.root)
  exact authenticates.previous.increasing.eq_of_mem_iff derives.derived.increasing
    (mem_iff_of_claimMerkleRootV4_eq clean (List.append_subset.mp laterHashed).1
      (List.append_subset.mp earlierHashed).2 roots)

theorem ExecutedBatchV4.Continues.freezes {keccak256 : Bytes → B256}
    {earlier later : ExecutedBatchV4} (continues : earlier.Continues later)
    (derives : BatchExits keccak256 earlier) (authenticates : BatchExits keccak256 later)
    {messages : List Bytes} (clean : ¬ Collides keccak256 messages)
    (earlierHashed : earlier.exitMessages keccak256 ⊆ messages)
    (laterHashed : later.exitMessages keccak256 ⊆ messages) : earlier.Freezes later := by
  have roster : ∀ (index : Nat) (member : MemberSlotWitnessV4),
      earlier.input.postRosterSlots[index]? = some member → member.state = memberRetired →
      later.input.postRosterSlots[index]? = some member := by
    intro index member lookup retired
    rw [← continues.roster] at lookup
    exact authenticates.membership.frozen lookup retired
  refine ⟨roster, fun member listed retired => ?_⟩
  obtain ⟨index, lookup⟩ := List.mem_iff_getElem?.mp listed
  have unmoved := roster index member lookup retired
  rw [← continues.roster] at lookup
  have opens := authenticates.membership.opens
  have placed : member.slot.toNat = index := opens.placed index member lookup
  have octet : member.slot.toNat < 8 := by
    have bound := (List.getElem?_eq_some_iff.mp lookup).1
    have seven : later.input.preRosterSlots.length = 7 := opens.length
    omega
  have marked : (alreadyRetired later.input.preUsedMask later.input.activeMask).getLsbD
      member.slot.toNat = true := placed ▸ opens.getLsbD_alreadyRetired lookup retired
  have amounts := enforceRetiredExitContinuityV4_amounts octet authenticates.continuity marked
  have same : later.input.preRosterSlots[member.slot.toNat]? =
      later.input.postRosterSlots[member.slot.toNat]? := by
    rw [placed, lookup, unmoved]
  have kept := authenticates.previous.exitsOf_eq authenticates.derived same amounts
  rw [← kept, continues.claims derives authenticates clean earlierHashed laterHashed]

/-- Along any chain of accepted batches, a slot retired after one of them has the same exits in
every later one, unless messages hashed for the claim roots of the chain collide. -/
theorem retired_exits_frozen {externals : Externals} {json : JsonLibrary}
    {chain : List ExecutedBatchV4} (accepted : ∀ batch ∈ chain, batch.Accepted externals json)
    (chained : chain.IsChain ExecutedBatchV4.Continues) :
    chain.Pairwise (fun earlier later => ∀ member ∈ earlier.input.postRosterSlots,
      member.state = memberRetired →
      exitsOf later.journal.exitAllocations member.slot =
        exitsOf earlier.journal.exitAllocations member.slot) ∨
      Collides externals.keccak256
        (chain.flatMap (ExecutedBatchV4.exitMessages externals.keccak256)) := by
  refine or_iff_not_imp_right.mpr fun clean => ?_
  have hashed : ∀ batch ∈ chain, batch.exitMessages externals.keccak256 ⊆
      chain.flatMap (ExecutedBatchV4.exitMessages externals.keccak256) :=
    fun batch listed message member => List.mem_flatMap.mpr ⟨batch, listed, member⟩
  have freezes : chain.IsChain ExecutedBatchV4.Freezes :=
    chained.imp_of_mem_imp fun earlier later earlierListed laterListed continues =>
      continues.freezes (accepted earlier earlierListed).exits (accepted later laterListed).exits
        clean (hashed earlier earlierListed) (hashed later laterListed)
  exact (List.isChain_iff_pairwise.mp freezes).imp fun frozen => frozen.exits

/-- The room-local state of the sample batches: the account of the first member with a balance
of five. -/
def sampleSavings : CompactStateWitnessV4 where
  canonicalStateRoot := 0
  accounts := [⟨11, true, 0, 5, [], samplePrimitives.storageRootUnhashed [], [], []⟩]

def sampleSavingsRoot : B256 :=
  ((verifyCompactStateV4 samplePrimitives sampleSavings).toOption.map
    (StateMap.stateRoot samplePrimitives)).getD 0

/-- A block without transactions. -/
def sampleEmptyBlock (number : U64) : BatchBlockV4 where
  blockNumber := number
  rawTxs := []
  env := { (default : BlockEnvV1) with
    number := number
    gasLimit := 30000000
    chainId := roomChainIdV4 sampleDigest 1 2 }
  expectedPostStateRoot := sampleSavingsRoot

/-- A batch of two blocks without transactions that makes one membership transition. -/
def sampleBatchV4 (step : MembershipStep) (previous : List ExitAllocationV4) : BatchInputV4 where
  encodedWitnessBytes := 1000
  deploymentId := 1
  roomId := 2
  presetHash := sampleDigest (samplePresetDocument sampleNativeId)
  manifestHash := 4
  proofProgramId := 5
  batchIndex := step.batchIndex
  l2StartHeight := 1
  previousBlockTimestamp := 0
  prevStateRoot := sampleSavingsRoot
  preRosterRoot := step.preRoot
  postRosterRoot := step.postRoot
  activeMask := step.preActiveMask
  preUsedMask := step.preUsedMask
  postActiveMask := step.postActiveMask
  usedMask := step.postUsedMask
  inboxStart := 0
  inboxEnd := 0
  inboxInputsHash := hashInboxEntriesV4 sampleDigest []
  expectedBlockDataHash :=
    batchBlockDataHashV4 sampleDigest [sampleEmptyBlock 1, sampleEmptyBlock 2] sampleSavingsRoot
  assetTotalsHash := hashAssetTotalsV4 sampleDigest [⟨0, 5, 5, 0⟩]
  exitTotalsHash := hashExitTotalsV4 sampleDigest [⟨0, 5, 5, 0⟩]
  feeTotalsHash := hashFeeTotalsV4 sampleDigest [⟨0, 5, 5, 0⟩]
  membershipDeltasHash := hashMembershipDeltasV4 sampleDigest step.deltas
  previousExitRoot := claimMerkleRootV4 sampleDigest 1 2 previous
  exitRoot := claimMerkleRootV4 sampleDigest 1 2 [⟨0, 0, 11, 5⟩]
  close := false
  l1InclusionDeadline := 100
  canonicalPresetJson := samplePresetDocument sampleNativeId
  canonicalExitProgramJson := sampleNativeDocument
  preRosterSlots := step.before
  postRosterSlots := step.after
  membershipDeltas := step.deltas
  inboxEntries := []
  assetTotals := [⟨0, 5⟩]
  residualAllocations := []
  previousExitAllocations := previous
  compactState := sampleSavings
  blocks := [sampleEmptyBlock 1, sampleEmptyBlock 2]

/-- The batch in which the first member leaves. -/
def sampleRetirement : BatchInputV4 := sampleBatchV4 sampleLeave []

/-- The batch behind it, which leaves the roster alone. -/
def sampleAfterRetirement : BatchInputV4 :=
  sampleBatchV4 (sampleMembership 7 sampleLeave.after sampleLeave.after []) [⟨0, 0, 11, 5⟩]

theorem sampleRetirement_accepted :
    ∃ retirement, executeBatchV4 sampleExternals sampleNativeLibrary sampleRetirement =
        .ok retirement ∧
      (retirement.exitRoot, retirement.exitAllocations) =
        (sampleAfterRetirement.previousExitRoot, [⟨0, 0, 11, 5⟩]) :=
  toOption_map_eq_some (by decide +kernel)

theorem sampleAfterRetirement_accepted :
    ∃ after, executeBatchV4 sampleExternals sampleNativeLibrary sampleAfterRetirement =
      .ok after :=
  exists_eq_ok_of_isSome (by decide +kernel)

theorem retired_exits_frozen_sample :
    ∃ retirement after : BatchJournalV4,
      executeBatchV4 sampleExternals sampleNativeLibrary sampleRetirement = .ok retirement ∧
      executeBatchV4 sampleExternals sampleNativeLibrary sampleAfterRetirement = .ok after ∧
      retirement.exitAllocations = [⟨0, 0, 11, 5⟩] ∧
      (exitsOf after.exitAllocations 0 = exitsOf retirement.exitAllocations 0 ∨
        Collides sampleExternals.keccak256
          ([⟨sampleRetirement, retirement⟩, ⟨sampleAfterRetirement, after⟩].flatMap
            (ExecutedBatchV4.exitMessages sampleExternals.keccak256))) := by
  obtain ⟨retirement, accepted, exits⟩ := sampleRetirement_accepted
  obtain ⟨root, claims⟩ := Prod.mk.inj exits
  obtain ⟨after, follows⟩ := sampleAfterRetirement_accepted
  refine ⟨retirement, after, accepted, follows, claims, ?_⟩
  have both : ∀ batch ∈ [⟨sampleRetirement, retirement⟩, ⟨sampleAfterRetirement, after⟩],
      ExecutedBatchV4.Accepted sampleExternals sampleNativeLibrary batch :=
    List.forall_mem_cons.mpr ⟨accepted, List.forall_mem_singleton.mpr follows⟩
  have continues : ExecutedBatchV4.Continues ⟨sampleRetirement, retirement⟩
      ⟨sampleAfterRetirement, after⟩ := ⟨rfl, rfl, rfl, root.symm⟩
  refine (retired_exits_frozen both (List.isChain_pair.mpr continues)).imp_left fun frozen => ?_
  exact (List.pairwise_pair.mp frozen) ⟨0, memberRetired, 11, 0, some 6⟩ List.mem_cons_self rfl

end Zkdeal

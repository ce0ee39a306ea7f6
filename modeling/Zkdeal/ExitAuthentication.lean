/-
This file compares the two ends of the claims root of a seven-member room: the
settlement that produces it and the check the next batch authenticates its preimage
with.

They agree on everything but the range of the asset identifiers. The parser counts
the assets and lets their identifiers be any octets; the check wants them below
sixteen. So a room can authenticate its own claims exactly when every asset beyond
that range is empty.
-/

import Zkdeal.ExitClaims
import Zkdeal.Execution

namespace Zkdeal

open Words Guard

/-! ### What the check establishes -/

/-- A claim the next batch accepts. -/
structure AuthenticClaim (program : ExitProgramV4) (roster : List MemberSlotWitnessV4)
    (usedMask : U8) (allocation : ExitAllocationV4) : Prop where
  slot : allocation.slot.toNat < maxMembers
  asset : allocation.assetId.toNat < maxAssets
  declared : (program.asset allocation.assetId).toOption ≠ none
  positive : allocation.amount ≠ 0
  member : ∃ member, roster[allocation.slot.toNat]? = some member ∧
    member.slot = allocation.slot ∧ member.state ≠ memberUnused ∧
    allocation.recipient = member.account
  masked : usedMask &&& ((1 : U8) <<< allocation.slot.toNat) ≠ 0

theorem authenticateClaim_eq_ok {program : ExitProgramV4} {roster : List MemberSlotWitnessV4}
    {usedMask : U8} {previousKey next : Option U16} {allocation : ExitAllocationV4} :
    authenticateClaim program roster usedMask previousKey allocation = .ok next ↔
      AuthenticClaim program roster usedMask allocation ∧
        (∀ previous, previousKey = some previous → previous < claimKey allocation) ∧
        next = some (claimKey allocation) := by
  have above : ¬ (previousKey.any fun previous => claimKey allocation ≤ previous) = true ↔
      ∀ previous, previousKey = some previous → previous < claimKey allocation := by
    cases previousKey with
    | none => simp
    | some previous => simp [BitVec.not_le]
  unfold authenticateClaim
  rw [refuse_bind_eq_ok, not_or, not_or, not_or, Nat.not_le, Nat.not_le, bind_eq_ok]
  constructor
  · rintro ⟨⟨slot, asset, declared, positive⟩, member, found, rest⟩
    obtain ⟨matched, rest⟩ := refuse_bind_eq_ok.mp rest
    obtain ⟨ordered, done⟩ := refuse_bind_eq_ok.mp rest
    obtain ⟨lookup, kept⟩ := Option.filter_eq_some_iff.mp (orRefuse_eq_ok.mp found)
    rw [Bool.and_eq_true, beq_iff_eq, bne_iff_ne] at kept
    rw [not_or, not_not] at matched
    exact ⟨⟨slot, asset, declared, positive, ⟨member, lookup, kept.1, kept.2, matched.2⟩,
      matched.1⟩, above.mp ordered, (pure_eq_ok.mp done).symm⟩
  · rintro ⟨⟨slot, asset, declared, positive, ⟨member, lookup, placed, used, recipient⟩, masked⟩,
      ordered, rfl⟩
    refine ⟨⟨slot, asset, declared, positive⟩, member, orRefuse_eq_ok.mpr
      (Option.filter_eq_some_iff.mpr ⟨lookup, ?_⟩), refuse_bind_eq_ok.mpr
        ⟨not_or.mpr ⟨masked, not_not.mpr recipient⟩,
          refuse_bind_eq_ok.mpr ⟨above.mpr ordered, rfl⟩⟩⟩
    rw [Bool.and_eq_true, beq_iff_eq, bne_iff_ne]
    exact ⟨placed, used⟩

/-- What the check establishes of the whole list. -/
structure AuthenticClaims (keccak256 : Bytes → B256) (program : ExitProgramV4)
    (roster : List MemberSlotWitnessV4) (usedMask : U8) (allocations : List ExitAllocationV4)
    (expectedRoot deploymentId : B256) (roomId : U64) : Prop where
  bounded : allocations.length ≤ maxMembers * program.assets.length
  authentic : ∀ allocation ∈ allocations, AuthenticClaim program roster usedMask allocation
  increasing : allocations.Pairwise fun earlier later => claimKey earlier < claimKey later
  root : claimMerkleRootV4 keccak256 deploymentId roomId allocations = expectedRoot

theorem authenticatePreviousExitAllocationsV4_eq_ok {keccak256 : Bytes → B256}
    {program : ExitProgramV4} {roster : List MemberSlotWitnessV4} {usedMask : U8}
    {allocations : List ExitAllocationV4} {expectedRoot deploymentId : B256} {roomId : U64} :
    authenticatePreviousExitAllocationsV4 keccak256 program roster usedMask allocations
        expectedRoot deploymentId roomId = .ok () ↔
      AuthenticClaims keccak256 program roster usedMask allocations expectedRoot deploymentId
        roomId := by
  unfold authenticatePreviousExitAllocationsV4
  rw [refuse_bind_eq_ok, Nat.not_lt, bind_eq_ok]
  constructor
  · rintro ⟨bounded, last, ran, rootCheck⟩
    have invariant := foldlM_invariant (fun consumed last =>
        Increasing claimKey consumed last ∧
          ∀ allocation ∈ consumed, AuthenticClaim program roster usedMask allocation)
      ran ⟨increasing_nil, fun _ member => absurd member List.not_mem_nil⟩ ?_
    · exact ⟨bounded, invariant.2, invariant.1.sorted, not_not.mp (refuse_eq_ok.mp rootCheck)⟩
    · intro consumed allocation before after holds stepped
      obtain ⟨authentic, beyond, rfl⟩ := authenticateClaim_eq_ok.mp stepped
      exact ⟨holds.1.concat beyond, List.forall_mem_append.mpr
        ⟨holds.2, List.forall_mem_singleton.mpr authentic⟩⟩
  · rintro ⟨bounded, authentic, increasing, root⟩
    let reached (consumed : List ExitAllocationV4) (last : Option U16) : Prop :=
      ∀ previous, last = some previous → ∃ earlier ∈ consumed, claimKey earlier = previous
    have completes : ∃ last, allocations.foldlM (authenticateClaim program roster usedMask) none =
        .ok last ∧ reached allocations last := by
      refine foldlM_exists_eq_ok reached (fun _ known => nomatch known) ?_
      rintro consumed allocation rest state rfl holds
      refine ⟨_, authenticateClaim_eq_ok.mpr ⟨authentic allocation (by simp),
        fun previous known => ?_, rfl⟩,
        fun previous known => ⟨allocation, by simp, Option.some.inj known⟩⟩
      obtain ⟨earlier, member, rfl⟩ := holds previous known
      exact (List.pairwise_append.mp increasing).2.2 earlier member allocation List.mem_cons_self
    obtain ⟨last, ran, -⟩ := completes
    exact ⟨bounded, last, ran, refuse_eq_ok.mpr (not_not.mpr root)⟩

/-! ### What a settlement offers -/

theorem toNat_claimKey (allocation : ExitAllocationV4) :
    (claimKey allocation).toNat = 16 * allocation.slot.toNat + allocation.assetId.toNat := by
  have slotBound := allocation.slot.isLt
  have assetBound := allocation.assetId.isLt
  rw [claimKey, BitVec.toNat_add, BitVec.toNat_mul, BitVec.toNat_setWidth, BitVec.toNat_setWidth,
    show (BitVec.ofNat 16 maxAssets).toNat = 16 from rfl]
  omega

/-- Below sixteen assets the two orders of claims agree. -/
theorem claimKey_lt_claimKey {earlier later : ExitAllocationV4}
    (small : earlier.assetId.toNat < maxAssets)
    (below : pairKey earlier.slot earlier.assetId < pairKey later.slot later.assetId) :
    claimKey earlier < claimKey later := by
  have earlierBound := earlier.assetId.isLt
  have laterBound := later.assetId.isLt
  rw [BitVec.lt_def, toNat_pairKey, toNat_pairKey] at below
  rw [BitVec.lt_def, toNat_claimKey, toNat_claimKey]
  rw [maxAssets] at small
  omega

theorem asset_toOption_ne_none {program : ExitProgramV4} {asset : ExitAssetV4}
    (declared : asset ∈ program.assets) : (program.asset asset.assetId).toOption ≠ none := by
  unfold ExitProgramV4.asset
  cases search : program.assets.find? fun other => other.assetId == asset.assetId with
  | none => exact absurd (beq_self_eq_true _) (List.find?_eq_none.mp search asset declared)
  | some found => simp [orRefuse, Except.toOption]

section Settled

variable {keccak256 : Bytes → B256} {program : ExitProgramV4} {roster : List MemberSlotWitnessV4}
  {totals : List AssetTotalWitnessV4} {deploymentId : B256} {roomId : U64}
  {amounts : BTreeMap U16 U256} {settlement : DerivedSettlementV4}

theorem SettlesClaims.mem_exitAllocations
    (settles : SettlesClaims keccak256 program roster totals deploymentId roomId amounts settlement)
    (allocation : ExitAllocationV4) :
    allocation ∈ settlement.exitAllocations ↔
      ∃ asset ∈ program.assets,
        allocation ∈ claimsOf amounts (usedMembers roster) asset.assetId := by
  rw [settles.claims, (sortClaims_perm _).mem_iff, List.mem_flatMap]

/-- A claim of the settlement is one the next batch accepts, if its asset is in range. -/
theorem SettlesClaims.authentic
    (settles : SettlesClaims keccak256 program roster totals deploymentId roomId amounts settlement)
    (seven : roster.length = maxMembers) (ordered : InSlotOrder roster)
    {allocation : ExitAllocationV4} (member : allocation ∈ settlement.exitAllocations)
    (small : allocation.assetId.toNat < maxAssets) :
    AuthenticClaim program roster (slotMask MemberSlotWitnessV4.isUsed roster) allocation := by
  obtain ⟨asset, declared, claimed⟩ := (settles.mem_exitAllocations allocation).mp member
  obtain ⟨assetId, positive, slot, among, placed, recipient⟩ := mem_claimsOf claimed
  obtain ⟨listed, used⟩ := List.mem_filter.mp among
  obtain ⟨index, lookup⟩ := List.mem_iff_getElem?.mp listed
  have stands := ordered index slot lookup
  have inside : index < maxMembers := seven ▸ (List.getElem?_eq_some_iff.mp lookup).1
  rw [← stands, ← placed] at lookup inside
  refine ⟨inside, small, ?_, positive,
    ⟨slot, lookup, placed.symm, bne_iff_ne.mp used, recipient⟩, ?_⟩
  · rw [assetId]
    exact asset_toOption_ne_none declared
  · have octet : allocation.slot.toNat < 8 := Nat.lt_of_lt_of_le inside (by decide)
    have counted : slot.isUsed = true := used
    rw [ne_eq, and_bit_eq_zero _ octet, getLsbD_slotMask, lookup, Option.any_some, counted]
    simp [octet]

theorem SettlesClaims.length_le
    (settles : SettlesClaims keccak256 program roster totals deploymentId roomId amounts settlement)
    (seven : roster.length = maxMembers) :
    settlement.exitAllocations.length ≤ maxMembers * program.assets.length := by
  rw [settles.claims, (sortClaims_perm _).length_eq, List.length_flatMap]
  have each : ∀ count ∈ program.assets.map fun asset =>
      (claimsOf amounts (usedMembers roster) asset.assetId).length, count ≤ maxMembers := by
    intro count listed
    obtain ⟨asset, -, rfl⟩ := List.mem_map.mp listed
    rw [claimsOf, List.length_map, ← seven]
    exact (List.length_filter_le _ _).trans (List.length_filter_le _ _)
  have bound := List.sum_le_card_nsmul _ maxMembers each
  rwa [List.length_map, smul_eq_mul, Nat.mul_comm] at bound

/-- An asset has a claim exactly when its funded total is not zero. -/
theorem SettlesClaims.total_eq_zero_iff
    (settles : SettlesClaims keccak256 program roster totals deploymentId roomId amounts settlement)
    {total : AssetTotalWitnessV4} (listed : total ∈ totals) :
    total.total = 0 ↔
      ∀ allocation ∈ settlement.exitAllocations, allocation.assetId ≠ total.assetId := by
  obtain ⟨⟨asset, declared, assetId⟩, conserved⟩ := settles.conserved total listed
  constructor
  · intro zero allocation member same
    obtain ⟨other, -, claimed⟩ := (settles.mem_exitAllocations allocation).mp member
    obtain ⟨otherId, positive, -⟩ := mem_claimsOf claimed
    rw [← otherId, same] at claimed
    have parts := List.sum_eq_zero_iff.mp (conserved.symm.trans (congrArg BitVec.toNat zero))
    exact positive (BitVec.eq_of_toNat_eq
      (parts _ (List.mem_map.mpr ⟨allocation, claimed, rfl⟩)))
  · intro absent
    have none : claimsOf amounts (usedMembers roster) total.assetId = [] := by
      refine List.eq_nil_iff_forall_not_mem.mpr fun allocation claimed => ?_
      have member := (settles.mem_exitAllocations allocation).mpr
        ⟨asset, declared, assetId.symm ▸ claimed⟩
      exact absent allocation member (mem_claimsOf claimed).1
    rw [none] at conserved
    exact BitVec.eq_of_toNat_eq conserved

end Settled

/-! ### The two ends -/

/-- A room authenticates the claims it derived exactly when no asset with an identifier beyond
fifteen is funded. -/
theorem previousExits_authentic_iff {json : JsonLibrary} {keccak256 : Bytes → B256}
    {canonicalJson : Bytes} {policy : PresetPolicyV4} {program : ExitProgramV4}
    (parsed : ExitProgramV4.parse json keccak256 canonicalJson policy = .ok program)
    {state : StateMap} {roster : List MemberSlotWitnessV4} (seven : roster.length = maxMembers)
    (ordered : InSlotOrder roster) {totals : List AssetTotalWitnessV4}
    {residualAllocations : List ResidualAllocationV4} {deploymentId : B256} {roomId : U64}
    {settlement : DerivedSettlementV4}
    (derived : deriveSettlementV4 keccak256 program state roster totals residualAllocations
      deploymentId roomId = .ok settlement) :
    authenticatePreviousExitAllocationsV4 keccak256 program roster
        (slotMask MemberSlotWitnessV4.isUsed roster) settlement.exitAllocations
        settlement.exitRoot deploymentId roomId = .ok () ↔
      ∀ total ∈ totals, maxAssets ≤ total.assetId.toNat → total.total = 0 := by
  obtain ⟨amounts, settles⟩ := settles_of_deriveSettlementV4 derived
  rw [authenticatePreviousExitAllocationsV4_eq_ok]
  constructor
  · intro checked total listed large
    refine (settles.total_eq_zero_iff listed).mpr fun allocation member same => ?_
    have small := (checked.authentic allocation member).asset
    rw [same] at small
    exact absurd small (Nat.not_lt.mpr large)
  · intro empty
    have small : ∀ allocation ∈ settlement.exitAllocations,
        allocation.assetId.toNat < maxAssets := by
      intro allocation member
      obtain ⟨asset, declared, claimed⟩ := (settles.mem_exitAllocations allocation).mp member
      obtain ⟨total, listed, same⟩ := settles.funded asset declared
      by_contra large
      have assetId := (mem_claimsOf claimed).1
      refine (settles.total_eq_zero_iff listed).mp (empty total listed ?_) allocation member
        (assetId.trans same.symm)
      rw [same, ← assetId]
      exact Nat.not_lt.mp large
    have increasing := settles.increasing (assetsDeclared_of_parse parsed) ordered
    exact ⟨settles.length_le seven,
      fun allocation member => settles.authentic seven ordered member (small allocation member),
      increasing.imp_of_mem fun member _ below => claimKey_lt_claimKey (small _ member) below,
      settles.root.symm⟩

/-- An exit program with one token under an identifier. -/
def sampleTokenDocument (assetId : String) : Bytes :=
  sampleDocument ["\x7b\"assets\":[", "\x7b\"assetId\":", assetId, ",\"balanceSlot\":\"0\",",
    "\"kind\":\"erc20\",", "\"token\":\"0x00000000000000000000", "00000000000000000011\",",
    "\"totalSupplySlot\":\"1\"\x7d],", "\"positions\":[],", "\"version\":4\x7d"]

/-- The same program as the schema decoder hands it over. -/
def sampleTokenJson (assetId : U8) : ExitProgramJsonV4 where
  version := 4
  assets := [⟨assetId, "erc20", some "0x0000000000000000000000000000000000000011", some "0",
    some "1"⟩]
  positions := []

def sampleTokenLibrary : JsonLibrary :=
  sampleJson [(sampleTokenDocument "7", sampleTokenJson 7),
    (sampleTokenDocument "20", sampleTokenJson 20)] []

/-- A preset that pins an exit program and restricts nothing. -/
def sampleOpenPolicy (exitProgramId : B256) : PresetPolicyV4 where
  toExecutionPolicyV4 := ExecutionPolicyV4.legacyUnrestricted samplePrimitives
  exitProgramId := exitProgramId
  presetAssetIds := []

def sampleTokenProgram (assetId : U8) : ExitProgramV4 := ⟨[⟨assetId, .erc20 17 0 1⟩], []⟩

/-- A roster with one member. -/
def sampleOneMember : List MemberSlotWitnessV4 :=
  ⟨0, memberActive, 11, 0, none⟩ :: [1, 2, 3, 4, 5, 6].map fun slot => ⟨slot, 0, 0, 0, none⟩

/-- A token of which the member holds the whole supply of five. -/
def sampleTokenState : StateMap where
  accounts := Std.ExtTreeMap.ofList [(17, ⟨1, 0, [0], Std.ExtTreeMap.ofList
    [(1, 5), (mappingSlot sampleDigest 11 0, 5)] compare⟩)] compare
  blockHashes := ∅
  accessAccounts := none
  accessStorage := none
  accessViolation := none
  preparedCode := ∅
  preparedCodeAddresses := ∅
  accessMetrics := default

/-- The settlement of the token under an identifier. -/
def sampleTokenSettlement (assetId : U8) : Except Message DerivedSettlementV4 :=
  deriveSettlementV4 sampleDigest (sampleTokenProgram assetId) sampleTokenState sampleOneMember
    [⟨assetId, 5⟩] [] 1 2

theorem sampleOneMember_inSlotOrder : InSlotOrder sampleOneMember := by
  have placed : ∀ item ∈ sampleOneMember.zipIdx, item.1.slot.toNat = item.2 := by decide
  exact fun index slot lookup => placed (slot, index) (List.mem_zipIdx_iff_getElem?.mpr lookup)

theorem previousExits_authentic_iff_sample :
    ∃ settlement, sampleTokenSettlement 7 = .ok settlement ∧
      authenticatePreviousExitAllocationsV4 sampleDigest (sampleTokenProgram 7) sampleOneMember
        (slotMask MemberSlotWitnessV4.isUsed sampleOneMember) settlement.exitAllocations
        settlement.exitRoot 1 2 = .ok () := by
  have parsed : ExitProgramV4.parse sampleTokenLibrary sampleDigest (sampleTokenDocument "7")
      (sampleOpenPolicy (sampleDigest (sampleTokenDocument "7"))) =
        .ok (sampleTokenProgram 7) := by decide +kernel
  obtain ⟨settlement, derived⟩ : ∃ settlement, sampleTokenSettlement 7 = .ok settlement :=
    exists_eq_ok_of_isSome (by decide +kernel)
  refine ⟨settlement, derived, ?_⟩
  exact (previousExits_authentic_iff parsed rfl sampleOneMember_inSlotOrder derived).mpr (by decide)

/-- A program with a token under identifier twenty is parsed and settled, and its claims are
refused by the next batch. -/
theorem previousExits_not_authentic :
    ∃ settlement,
      ExitProgramV4.parse sampleTokenLibrary sampleDigest (sampleTokenDocument "20")
          (sampleOpenPolicy (sampleDigest (sampleTokenDocument "20"))) =
        .ok (sampleTokenProgram 20) ∧
      sampleOneMember.length = maxMembers ∧ InSlotOrder sampleOneMember ∧
      sampleTokenSettlement 20 = .ok settlement ∧
      authenticatePreviousExitAllocationsV4 sampleDigest (sampleTokenProgram 20) sampleOneMember
        (slotMask MemberSlotWitnessV4.isUsed sampleOneMember) settlement.exitAllocations
        settlement.exitRoot 1 2 =
          .error "previous exit allocations contain an out-of-range or zero leaf" := by
  have seen : (sampleTokenSettlement 20).toOption.map (fun settlement =>
      decide (authenticatePreviousExitAllocationsV4 sampleDigest (sampleTokenProgram 20)
        sampleOneMember (slotMask MemberSlotWitnessV4.isUsed sampleOneMember)
        settlement.exitAllocations settlement.exitRoot 1 2 =
          .error "previous exit allocations contain an out-of-range or zero leaf")) =
      some true := by decide +kernel
  obtain ⟨settlement, derived, refused⟩ := toOption_map_eq_some seen
  exact ⟨settlement, by decide +kernel, rfl, sampleOneMember_inSlotOrder, derived,
    of_decide_eq_true refused⟩

end Zkdeal

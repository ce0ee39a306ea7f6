/-
This file is the arithmetic of a settlement of a seven-member room.

The claims of a settlement are read off the amounts its runs leave, so that each used
slot gets what it is owed and each asset pays out what was funded.

Rounding down only ever leaves something over. The shares of the members are part of
the supply that was attributed before, so no backing is distributed beyond itself,
whatever the program and the state are.
-/

import Zkdeal.Entitlements
import Zkdeal.ExitAuthentication

namespace Zkdeal

open Words Guard Accounting

/-! ### Nothing is distributed twice -/

section Unexceeded

/-- The text of the check behind a distribution. -/
def exceedsBacking : Message := "position distribution exceeds backing"

theorem ne_exceedsBacking_of_length {message : Message} (long : 1 < message.length) :
    message ≠ exceedsBacking := by
  rintro rfl
  exact absurd long (by decide)

theorem readStorage_ne_exceeds (state : StateMap) (address : Address) (slot : U256)
    (label : String) : readStorage state address slot label ≠ .error exceedsBacking :=
  bind_ne_error (refuse_ne_error (ne_exceedsBacking_of_length (by simp [outsideEnvelope])))
    fun _ _ => pure_ne_error _

theorem addU256_ne_exceeds (left right : U256) (label : String) :
    addU256 left right label ≠ .error exceedsBacking :=
  orRefuse_ne_error (ne_exceedsBacking_of_length (by simp))

theorem mulDivFloor_ne_exceeds (value numerator denominator : U256) (label : String) :
    mulDivFloor value numerator denominator label ≠ .error exceedsBacking := by
  refine bind_ne_error (refuse_ne_error (ne_exceedsBacking_of_length (by simp))) fun _ _ => ?_
  exact bind_ne_error (orRefuse_ne_error (ne_exceedsBacking_of_length (by simp)))
    fun _ _ => pure_ne_error _

theorem addAmount_ne_exceeds (amounts : BTreeMap U16 U256) (slot assetId : U8) (amount : U256)
    (label : String) : addAmount amounts slot assetId amount label ≠ .error exceedsBacking :=
  bind_ne_error (addU256_ne_exceeds _ _ _) fun _ _ => pure_ne_error _

variable {keccak256 : Bytes → B256} {program : ExitProgramV4} {state : StateMap}

theorem memberBalance_ne_exceeds (slot : MemberSlotWitnessV4) (asset : ExitAssetV4) :
    memberBalance keccak256 state slot asset ≠ .error exceedsBacking := by
  unfold memberBalance
  split
  · nofun
  · exact readStorage_ne_exceeds _ _ _ _

theorem distribute_ne_exceeds (assetId : U8) (backing supply : U256) (members : List (U8 × U256))
    (amounts : BTreeMap U16 U256) :
    distribute assetId backing supply members amounts ≠ .error exceedsBacking := by
  unfold distribute
  split
  · nofun
  · refine foldlM_ne_error fun _ member _ shared _ _ => ?_
    refine bind_ne_error (mulDivFloor_ne_exceeds _ _ _ _) fun _ _ => ?_
    refine bind_ne_error (addAmount_ne_exceeds _ _ _ _ _) fun _ _ => ?_
    exact bind_ne_error (addU256_ne_exceeds _ _ _) fun _ _ => pure_ne_error _

theorem asset_ne_exceeds (assetId : U8) : program.asset assetId ≠ .error exceedsBacking :=
  orRefuse_ne_error (ne_exceedsBacking_of_length (by simp))

theorem backingBalance_ne_exceeds (position : ProRataPositionV4) (index : Nat)
    (backing : PositionBackingV4) :
    backingBalance keccak256 program state position index backing ≠ .error exceedsBacking := by
  refine bind_ne_error (asset_ne_exceeds _) fun asset _ => ?_
  cases asset.kind with
  | native => exact fun same => absurd (Except.error.inj same) (by decide)
  | erc20 token balanceSlot totalSupplySlot =>
    refine bind_ne_error (readStorage_ne_exceeds _ _ _ _) fun balance _ => ?_
    cases backing.reserveSlot with
    | none => exact pure_ne_error _
    | some reserveSlot =>
      refine bind_ne_error (readStorage_ne_exceeds _ _ _ _) fun reserve _ => ?_
      exact bind_ne_error (refuse_ne_error (ne_exceedsBacking_of_length (by simp)))
        fun _ _ => pure_ne_error _

theorem settleResidual_ne_exceeds (roster : List MemberSlotWitnessV4) (choices : BTreeMap U16 U8)
    (index : Nat) (assetId : U8) (residual : U256) (unwound : Unwound) :
    settleResidual roster choices index assetId residual unwound ≠ .error exceedsBacking := by
  unfold settleResidual
  dsimp only
  split
  · nofun
  · exact fun same => ne_exceedsBacking_of_length (by simp) (Except.error.inj same)
  · exact fun same => ne_exceedsBacking_of_length (by simp) (Except.error.inj same)
  · refine bind_ne_error (orRefuse_ne_error (ne_exceedsBacking_of_length (by simp))) fun _ _ => ?_
    exact bind_ne_error (addAmount_ne_exceeds _ _ _ _ _) fun _ _ => pure_ne_error _

/-- Shares that do not exceed the supply take no more than the backing. -/
theorem settleBacking_ne_exceeds {roster : List MemberSlotWitnessV4} {choices : BTreeMap U16 U8}
    {position : ProRataPositionV4} {index : Nat} {supply : U256} {members : List (U8 × U256)}
    (bounded : (members.map fun member => member.2.toNat).sum ≤ supply.toNat)
    (unwound : Unwound) (backing : PositionBackingV4) :
    settleBacking keccak256 program state roster choices position index supply members unwound
      backing ≠ .error exceedsBacking := by
  refine bind_ne_error (backingBalance_ne_exceeds _ _ _) fun balance _ => ?_
  refine bind_ne_error (refuse_ne_error (ne_exceedsBacking_of_length (by simp))) fun _ _ => ?_
  refine bind_ne_error (distribute_ne_exceeds _ _ _ _ _) fun shared distributed => ?_
  refine bind_ne_error ?_ fun residual _ => settleResidual_ne_exceeds _ _ _ _ _ _
  have covered : shared.2.toNat ≤ balance.toNat := by
    have shares := sum_shares_le balance.toNat supply.toNat _ bounded
    rw [List.map_map] at shares
    exact (distribute_spec distributed).total ▸ shares
  obtain ⟨residual, left⟩ := checkedSub_isSome.mpr covered
  rw [left]
  nofun

theorem settlePosition_ne_exceeds (roster : List MemberSlotWitnessV4) (choices : BTreeMap U16 U8)
    (unwound : Unwound) (item : ProRataPositionV4 × Nat) :
    settlePosition keccak256 program state roster choices unwound item ≠
      .error exceedsBacking := by
  refine bind_ne_error (readStorage_ne_exceeds _ _ _ _) fun totalSupply _ => ?_
  refine bind_ne_error ?_ fun attributed shares => ?_
  · refine foldlM_ne_error fun _ slot _ state _ _ => ?_
    refine bind_ne_error (readStorage_ne_exceeds _ _ _ _) fun _ _ => ?_
    exact bind_ne_error (addU256_ne_exceeds _ _ _) fun _ _ => pure_ne_error _
  refine bind_ne_error ?_ fun supply excluded => ?_
  · refine foldlM_ne_error fun _ account _ state _ _ => ?_
    exact bind_ne_error (readStorage_ne_exceeds _ _ _ _) fun _ _ => addU256_ne_exceeds _ _ _
  refine bind_ne_error (refuse_ne_error (ne_exceedsBacking_of_length (by simp))) fun _ same => ?_
  refine foldlM_ne_error fun _ backing _ unwound _ _ => settleBacking_ne_exceeds ?_ _ _
  have bounded := sum_positionShares_le shares excluded
  rw [not_not.mp (refuse_eq_ok.mp same)] at bounded
  rw [(attributeShares_spec shares).1, List.map_map]
  exact bounded

theorem claimAsset_ne_exceeds (used : List MemberSlotWitnessV4) (totals : BTreeMap U8 U256)
    (amounts : BTreeMap U16 U256) (asset : ExitAssetV4) :
    claimAsset state used totals amounts asset ≠ .error exceedsBacking := by
  refine bind_ne_error ?_ fun _ _ => ?_
  · unfold checkSupply
    split
    · nofun
    · exact bind_ne_error (readStorage_ne_exceeds _ _ _ _) fun _ _ =>
        refuse_ne_error (ne_exceedsBacking_of_length (by simp))
  refine bind_ne_error ?_ fun claimed _ => ?_
  · refine foldlM_ne_error fun _ slot _ claimed _ _ => ?_
    unfold claimAmount
    dsimp only
    split
    · nofun
    · exact bind_ne_error (addU256_ne_exceeds _ _ _) fun _ _ => pure_ne_error _
  exact bind_ne_error (refuse_ne_error (ne_exceedsBacking_of_length (by simp)))
    fun _ _ => pure_ne_error _

theorem deriveSettlementV4_ne_exceeds (roster : List MemberSlotWitnessV4)
    (totals : List AssetTotalWitnessV4) (residualAllocations : List ResidualAllocationV4)
    (deploymentId : B256) (roomId : U64) :
    deriveSettlementV4 keccak256 program state roster totals residualAllocations deploymentId
      roomId ≠ .error exceedsBacking := by
  refine bind_ne_error (refuse_ne_error (by decide)) fun _ _ => ?_
  refine bind_ne_error ?_ fun totalMap _ => ?_
  · refine foldlM_ne_error fun _ item _ entered _ _ => ?_
    exact bind_ne_error (refuse_ne_error (by decide)) fun _ _ => pure_ne_error _
  refine bind_ne_error (refuse_ne_error (by decide)) fun _ _ => ?_
  refine bind_ne_error ?_ fun balances _ => ?_
  · refine foldlM_ne_error fun _ item _ amounts _ _ => ?_
    exact bind_ne_error (memberBalance_ne_exceeds _ _) fun _ _ => pure_ne_error _
  refine bind_ne_error ?_ fun choices _ => ?_
  · refine foldlM_ne_error fun _ residual _ entered _ _ => ?_
    exact bind_ne_error (refuse_ne_error (by decide)) fun _ _ => pure_ne_error _
  refine bind_ne_error ?_ fun unwound _ => ?_
  · exact foldlM_ne_error fun _ item _ unwound _ _ => settlePosition_ne_exceeds _ _ _ _
  refine bind_ne_error (refuse_ne_error (by decide)) fun _ _ => ?_
  exact bind_ne_error (mapM_ne_error fun asset _ => claimAsset_ne_exceeds _ _ _ asset)
    fun _ _ => pure_ne_error _

end Unexceeded

/-! ### The claims of a settlement -/

/-- What a list of claims pays in an asset. -/
def exitTotal (allocations : List ExitAllocationV4) (assetId : U8) : Nat :=
  (allocations.map fun allocation =>
    if allocation.assetId = assetId then allocation.amount.toNat else 0).sum

/-- What a list of claims pays to a slot in an asset. -/
def exitAmount (allocations : List ExitAllocationV4) (slot assetId : U8) : Nat :=
  (allocations.map fun allocation =>
    if allocation.slot = slot ∧ allocation.assetId = assetId then allocation.amount.toNat
    else 0).sum

section Claims

variable {amounts : BTreeMap U16 U256} {used : List MemberSlotWitnessV4}

/-- The claims of one asset pay the amounts of the members. -/
theorem sum_claimsOf (assetId slot : U8) :
    ((claimsOf amounts used assetId).map fun allocation =>
        if allocation.slot = slot then allocation.amount.toNat else 0).sum =
      (used.map fun member =>
        if member.slot = slot then amountAt amounts member.slot assetId else 0).sum := by
  unfold claimsOf
  induction used with
  | nil => rfl
  | cons member rest inductionHypothesis =>
    rw [List.map_cons, List.sum_cons, ← inductionHypothesis, List.filter_cons]
    split
    case isTrue => rw [List.map_cons, List.map_cons, List.sum_cons, amountAt]
    case isFalse zero =>
      have nothing : amountAt amounts member.slot assetId = 0 := by
        rw [Bool.not_eq_true, bne_eq_false_iff_eq] at zero
        rw [amountAt, zero]
        rfl
      rw [nothing, ite_self, Nat.zero_add]

variable {keccak256 : Bytes → B256} {program : ExitProgramV4}
  {roster : List MemberSlotWitnessV4} {totals : List AssetTotalWitnessV4} {deploymentId : B256}
  {roomId : U64} {settlement : DerivedSettlementV4}

/-- A sum over the claims of one asset only runs through the claims of that asset. -/
theorem SettlesClaims.sum_eq
    (settles : SettlesClaims keccak256 program roster totals deploymentId roomId amounts
      settlement)
    (declared : AssetsDeclared program.assets) {asset : ExitAssetV4}
    (member : asset ∈ program.assets) {value selected : ExitAllocationV4 → Nat}
    (selects : ∀ allocation, value allocation =
      if allocation.assetId = asset.assetId then selected allocation else 0) :
    (settlement.exitAllocations.map value).sum =
      ((claimsOf amounts (usedMembers roster) asset.assetId).map selected).sum := by
  have distinct : program.assets.Pairwise fun first second => first.assetId ≠ second.assetId :=
    declared.sorted.imp fun below => BitVec.ne_of_lt below
  rw [settles.claims, ((sortClaims_perm _).map value).sum_eq, sum_map_flatMap,
    ← sum_ite_key_eq distinct member fun other =>
      ((claimsOf amounts (usedMembers roster) other.assetId).map selected).sum]
  refine congrArg List.sum (List.map_congr_left fun other _ => ?_)
  split
  case isTrue same =>
    refine congrArg List.sum (List.map_congr_left fun allocation claimed => ?_)
    rw [selects, if_pos ((mem_claimsOf claimed).1.trans same)]
  case isFalse different =>
    refine List.sum_eq_zero fun term listed => ?_
    obtain ⟨allocation, claimed, rfl⟩ := List.mem_map.mp listed
    rw [selects, if_neg fun same => different ((mem_claimsOf claimed).1.symm.trans same)]

theorem SettlesClaims.exitTotal_eq
    (settles : SettlesClaims keccak256 program roster totals deploymentId roomId amounts
      settlement)
    (declared : AssetsDeclared program.assets) {asset : ExitAssetV4}
    (member : asset ∈ program.assets) {total : AssetTotalWitnessV4} (listed : total ∈ totals)
    (same : total.assetId = asset.assetId) :
    exitTotal settlement.exitAllocations asset.assetId = total.total.toNat := by
  rw [exitTotal, settles.sum_eq declared member fun _ => rfl, (settles.conserved total listed).2,
    same]

theorem SettlesClaims.exitAmount_eq
    (settles : SettlesClaims keccak256 program roster totals deploymentId roomId amounts
      settlement)
    (declared : AssetsDeclared program.assets) (ordered : InSlotOrder roster)
    {asset : ExitAssetV4} (member : asset ∈ program.assets) {slot : MemberSlotWitnessV4}
    (seated : slot ∈ usedMembers roster) :
    exitAmount settlement.exitAllocations slot.slot asset.assetId =
      amountAt amounts slot.slot asset.assetId := by
  have selects : ∀ allocation : ExitAllocationV4,
      (if allocation.slot = slot.slot ∧ allocation.assetId = asset.assetId then
        allocation.amount.toNat else 0) =
      if allocation.assetId = asset.assetId then
        (if allocation.slot = slot.slot then allocation.amount.toNat else 0) else 0 := by
    intro allocation
    by_cases named : allocation.assetId = asset.assetId
    · simp only [named, and_true, if_true]
    · simp only [named, and_false, if_false]
  rw [exitAmount, settles.sum_eq declared member selects, sum_claimsOf]
  exact sum_ite_key_eq (usedMembers_pairwise ordered) seated fun other =>
    amountAt amounts other.slot asset.assetId

end Claims

/-- The amounts the runs of a settlement leave are what the members are owed. -/
theorem amountAt_eq_entitlement {keccak256 : Bytes → B256} {program : ExitProgramV4}
    {state : StateMap} {roster : List MemberSlotWitnessV4}
    {residualAllocations : List ResidualAllocationV4} {balances : BTreeMap U16 U256}
    {choices : BTreeMap U16 U8 × Option U16} {unwound : Unwound}
    (declared : AssetsDeclared program.assets)
    (apart : ∀ position ∈ program.positions, BackingsApart position)
    (numbered : program.positions.length ≤ 256) (ordered : InSlotOrder roster)
    (held : (membersByAsset (usedMembers roster) program.assets).foldlM
      (enterBalance keccak256 state) ∅ = .ok balances)
    (chosen : residualAllocations.foldlM (enterResidual program) (∅, none) = .ok choices)
    (ran : program.positions.zipIdx.foldlM
      (settlePosition keccak256 program state roster choices.1) ⟨balances, ∅⟩ = .ok unwound)
    {member : MemberSlotWitnessV4} (used : member ∈ usedMembers roster) {asset : ExitAssetV4}
    (listed : asset ∈ program.assets) :
    amountAt unwound.amounts member.slot asset.assetId =
      entitlement keccak256 program state roster residualAllocations member asset := by
  have slots : ((usedMembers roster).map MemberSlotWitnessV4.slot).Nodup :=
    List.pairwise_map.mpr (usedMembers_pairwise ordered)
  have assets : (program.assets.map ExitAssetV4.assetId).Nodup :=
    List.pairwise_map.mpr (declared.sorted.imp fun below => BitVec.ne_of_lt below)
  have pairs : ∀ item, item ∈ membersByAsset (usedMembers roster) program.assets ↔
      item.1 ∈ usedMembers roster ∧ item.2 ∈ program.assets := by
    rintro ⟨slot, asset⟩
    exact List.pair_mem_product
  have opening := enterBalances_spec held (fun first firstMember second secondMember slot id =>
    Prod.ext
      (List.inj_on_of_nodup_map slots ((pairs first).mp firstMember).1
        ((pairs second).mp secondMember).1 slot)
      (List.inj_on_of_nodup_map assets ((pairs first).mp firstMember).2
        ((pairs second).mp secondMember).2 id))
    (member, asset) ((pairs _).mpr ⟨used, listed⟩)
  rw [settlePositions_eq_ok ordered ran used, opening, entitlement]
  congr 2
  refine List.map_congr_left fun item among => ?_
  have found := List.getElem?_eq_some_iff.mp (List.mem_zipIdx_iff_getElem?.mp among)
  have small : item.2 < 256 := Nat.lt_of_lt_of_le found.1 numbered
  exact backingsGive_eq chosen small
    (apart item.1 (List.mem_of_getElem? (List.mem_zipIdx_iff_getElem?.mp among))) member
    asset.assetId

/-- A settlement that pays every asset exactly: its claims sum to the funded totals, stand in
strictly increasing order of slot and asset, are not zero and go to the accounts of used slots,
and every used slot gets what it is owed. -/
structure SettledExactly (keccak256 : Bytes → B256) (program : ExitProgramV4) (state : StateMap)
    (roster : List MemberSlotWitnessV4) (totals : List AssetTotalWitnessV4)
    (residualAllocations : List ResidualAllocationV4) (settlement : DerivedSettlementV4) :
    Prop where
  funded : ∀ asset ∈ program.assets, ∃ total ∈ totals, total.assetId = asset.assetId
  conserved : ∀ total ∈ totals,
    exitTotal settlement.exitAllocations total.assetId = total.total.toNat
  increasing : settlement.exitAllocations.Pairwise fun earlier later =>
    earlier.slot < later.slot ∨ earlier.slot = later.slot ∧ earlier.assetId < later.assetId
  claims : ∀ allocation ∈ settlement.exitAllocations, allocation.amount ≠ 0 ∧
    (∃ asset ∈ program.assets, allocation.assetId = asset.assetId) ∧
    ∃ member ∈ roster, member.state ≠ memberUnused ∧ allocation.slot = member.slot ∧
      allocation.recipient = member.account
  amounts : ∀ member ∈ roster, member.state ≠ memberUnused → ∀ asset ∈ program.assets,
    exitAmount settlement.exitAllocations member.slot asset.assetId =
      entitlement keccak256 program state roster residualAllocations member asset

theorem mem_usedMembers {roster : List MemberSlotWitnessV4} {member : MemberSlotWitnessV4} :
    member ∈ usedMembers roster ↔ member ∈ roster ∧ member.state ≠ memberUnused := by
  rw [usedMembers, List.mem_filter, bne_iff_ne]

/-- Under a parsed program with at most 256 positions and a roster in slot order a settlement
pays every asset exactly; and whatever the program, the roster and the state are, no distribution
exceeds its backing. -/
theorem settlement_arithmetic (keccak256 : Bytes → B256) (program : ExitProgramV4)
    (state : StateMap) (roster : List MemberSlotWitnessV4) (totals : List AssetTotalWitnessV4)
    (residualAllocations : List ResidualAllocationV4) (deploymentId : B256) (roomId : U64) :
    (∀ json canonicalJson policy settlement,
      ExitProgramV4.parse json keccak256 canonicalJson policy = .ok program →
      program.positions.length ≤ 256 → roster.length = maxMembers → InSlotOrder roster →
      deriveSettlementV4 keccak256 program state roster totals residualAllocations deploymentId
        roomId = .ok settlement →
      SettledExactly keccak256 program state roster totals residualAllocations settlement) ∧
    deriveSettlementV4 keccak256 program state roster totals residualAllocations deploymentId
      roomId ≠ .error "position distribution exceeds backing" := by
  refine ⟨fun json canonicalJson policy settlement parsed numbered _ ordered derived => ?_,
    deriveSettlementV4_ne_exceeds roster totals residualAllocations deploymentId roomId⟩
  obtain ⟨balances, choices, unwound, held, chosen, ran, settles⟩ :=
    deriveSettlementV4_runs derived
  have declared := assetsDeclared_of_parse parsed
  refine ⟨settles.funded, fun total listed => ?_, ?_, fun allocation claimed => ?_,
    fun member seated used asset listed => ?_⟩
  · obtain ⟨asset, member, same⟩ := (settles.conserved total listed).1
    rw [← same]
    exact settles.exitTotal_eq declared member listed same.symm
  · exact (settles.increasing declared ordered).imp fun below => pairKey_lt_iff.mp below
  · obtain ⟨asset, listed, claim⟩ := (settles.mem_exitAllocations allocation).mp claimed
    obtain ⟨assetId, nonzero, member, seated, slot, recipient⟩ := mem_claimsOf claim
    obtain ⟨among, used⟩ := mem_usedMembers.mp seated
    exact ⟨nonzero, ⟨asset, listed, assetId⟩, member, among, used, slot, recipient⟩
  · have member := mem_usedMembers.mpr ⟨seated, used⟩
    rw [settles.exitAmount_eq declared ordered listed member]
    exact amountAt_eq_entitlement declared (backingsApart_of_parse parsed) numbered ordered held
      chosen ran member listed

/-- An exit program with one token that backs one position. -/
def samplePoolDocument : Bytes :=
  sampleDocument ["\x7b\"assets\":[", "\x7b\"assetId\":7,\"balanceSlot\":\"0\",",
    "\"kind\":\"erc20\",", "\"token\":\"0x00000000000000000000", "00000000000000000011\",",
    "\"totalSupplySlot\":\"1\"\x7d],", "\"positions\":[", "\x7b\"backings\":[",
    "\x7b\"assetId\":7\x7d],", "\"contract\":\"0x00000000000000000000", "00000000000000000012\",",
    "\"excludedShareAccounts\":[],", "\"kind\":\"pro-rata\",", "\"shareBalanceSlot\":\"0\",",
    "\"totalSupplySlot\":\"1\"\x7d],", "\"version\":4\x7d"]

/-- The same program as the schema decoder hands it over. -/
def samplePoolJson : ExitProgramJsonV4 where
  version := 4
  assets := (sampleTokenJson 7).assets
  positions := [⟨"pro-rata", "0x0000000000000000000000000000000000000012", "0", "1", [],
    [⟨7, none⟩]⟩]

def samplePoolProgram : ExitProgramV4 :=
  ⟨[⟨7, .erc20 17 0 1⟩], [⟨18, 0, 1, [], [⟨7, none⟩]⟩]⟩

/-- A roster with two members. -/
def sampleTwoMembers : List MemberSlotWitnessV4 :=
  ⟨0, memberActive, 11, 0, none⟩ :: ⟨1, memberActive, 12, 0, none⟩ ::
    [2, 3, 4, 5, 6].map fun slot => ⟨slot, 0, 0, 0, none⟩

/-- A token of which the first member holds three and the position seven, and a position with
two shares of the first member and one of the second. -/
def samplePoolState : StateMap :=
  let token : AccountRecord := ⟨1, 0, [0], Std.ExtTreeMap.ofList
    [(1, 10), (mappingSlot sampleDigest 11 0, 3), (mappingSlot sampleDigest 18 0, 7)] compare⟩
  let position : AccountRecord := ⟨1, 0, [0], Std.ExtTreeMap.ofList
    [(1, 3), (mappingSlot sampleDigest 11 0, 2), (mappingSlot sampleDigest 12 0, 1)] compare⟩
  { sampleTokenState with
    accounts := Std.ExtTreeMap.ofList [(17, token), (18, position)] compare }

/-- Four and two of the seven go with the shares; the second member takes the one that is
left. -/
theorem settlement_arithmetic_sample :
    ∃ settlement, deriveSettlementV4 sampleDigest samplePoolProgram samplePoolState
        sampleTwoMembers [⟨7, 10⟩] [⟨0, 7, 1⟩] 1 2 = .ok settlement ∧
      exitAmount settlement.exitAllocations 0 7 = 3 + 4 ∧
      exitAmount settlement.exitAllocations 1 7 = 2 + 1 := by
  have parsed : ExitProgramV4.parse (sampleJson [(samplePoolDocument, samplePoolJson)] [])
      sampleDigest samplePoolDocument (sampleOpenPolicy (sampleDigest samplePoolDocument)) =
        .ok samplePoolProgram := by decide +kernel
  have placed : ∀ item ∈ sampleTwoMembers.zipIdx, item.1.slot.toNat = item.2 := by decide
  have ordered : InSlotOrder sampleTwoMembers := fun index slot lookup =>
    placed (slot, index) (List.mem_zipIdx_iff_getElem?.mpr lookup)
  obtain ⟨settlement, derived⟩ : ∃ settlement, deriveSettlementV4 sampleDigest samplePoolProgram
      samplePoolState sampleTwoMembers [⟨7, 10⟩] [⟨0, 7, 1⟩] 1 2 = .ok settlement :=
    exists_eq_ok_of_isSome (by decide +kernel)
  have settled := (settlement_arithmetic sampleDigest samplePoolProgram samplePoolState
    sampleTwoMembers [⟨7, 10⟩] [⟨0, 7, 1⟩] 1 2).1 _ _ _ settlement parsed (by decide) rfl ordered
      derived
  have first := settled.amounts ⟨0, memberActive, 11, 0, none⟩ (by decide) (by decide)
    ⟨7, .erc20 17 0 1⟩ List.mem_cons_self
  have second := settled.amounts ⟨1, memberActive, 12, 0, none⟩ (by decide) (by decide)
    ⟨7, .erc20 17 0 1⟩ List.mem_cons_self
  exact ⟨settlement, derived, first.trans (by decide +kernel), second.trans (by decide +kernel)⟩

end Zkdeal

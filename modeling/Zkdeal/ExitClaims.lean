/-
This file says what the claims of a settlement are: one for every member and asset
with a non-zero amount, in strictly increasing order of slot and asset, paid to the
account of the slot, and summing to the funded total of the asset.

How the amounts came about does not matter for that. The whole unwinding of the
positions is one map from slots and assets to amounts; the claims are read off it.
-/

import Zkdeal.Library.KeySort
import Zkdeal.Settlement.Exit

namespace Zkdeal

open Words Guard KeySort

/-! ### The program -/

/-- What the parser establishes of the assets. -/
structure AssetsDeclared (assets : List ExitAssetV4) : Prop where
  nonempty : assets ≠ []
  bounded : assets.length ≤ maxAssets
  sorted : assets.Pairwise fun earlier later => earlier.assetId < later.assetId

theorem parseAsset_spec {json : JsonLibrary} {policy : PresetPolicyV4}
    {before after : List ExitAssetV4 × Option U8} {item : ExitAssetJsonV4 × Nat}
    (increasing : Increasing ExitAssetV4.assetId before.1 before.2)
    (parsed : parseAsset json policy before item = .ok after) :
    Increasing ExitAssetV4.assetId after.1 after.2 ∧ after.1.length = before.1.length + 1 := by
  obtain ⟨above, parsed⟩ := refuse_bind_eq_ok.mp parsed
  obtain ⟨kind, -, done⟩ := bind_eq_ok.mp parsed
  cases pure_eq_ok.mp done
  have beyond : ∀ previous, before.2 = some previous → previous < item.1.assetId := by
    intro previous known
    rw [known, Option.any_some, decide_eq_true_iff] at above
    exact BitVec.not_le.mp above
  have extended : Increasing ExitAssetV4.assetId (before.1 ++ [⟨item.1.assetId, kind⟩])
      (some item.1.assetId) := increasing.concat beyond
  exact ⟨extended, List.length_append⟩

theorem assetsDeclared_of_parse {json : JsonLibrary} {keccak256 : Bytes → B256}
    {canonicalJson : Bytes} {policy : PresetPolicyV4} {program : ExitProgramV4}
    (parsed : ExitProgramV4.parse json keccak256 canonicalJson policy = .ok program) :
    AssetsDeclared program.assets := by
  obtain ⟨value, document, last, -, -, -, -, counted, collected, -, -⟩ :=
    ExitProgramV4.parse_eq_ok parsed
  have invariant := foldlM_invariant (fun consumed (entered : List ExitAssetV4 × Option U8) =>
      Increasing ExitAssetV4.assetId entered.1 entered.2 ∧ entered.1.length = consumed.length)
    collected ⟨increasing_nil, rfl⟩ fun consumed item before after holds stepped => by
      obtain ⟨increasing, length⟩ := parseAsset_spec holds.1 stepped
      exact ⟨increasing, by rw [length, holds.2, List.length_append, List.length_singleton]⟩
  rw [List.length_zipIdx] at invariant
  refine ⟨fun empty => counted.1 (List.eq_nil_of_length_eq_zero ?_), invariant.2 ▸ counted.2,
    invariant.1.sorted⟩
  exact invariant.2.symm.trans (congrArg List.length empty)

/-- What the program says about an asset. -/
def ExitProgramV4.kind? (program : ExitProgramV4) (assetId : U8) : Option ExitAssetKindV4 :=
  (program.assets.find? fun asset => asset.assetId == assetId).map ExitAssetV4.kind

theorem asset_eq_ok {program : ExitProgramV4} {assetId : U8} {asset : ExitAssetV4}
    (found : program.asset assetId = .ok asset) : program.kind? assetId = some asset.kind := by
  rw [ExitProgramV4.kind?, orRefuse_eq_ok.mp found, Option.map_some]

/-! ### Claims of one asset -/

/-- The claims of the members in one asset. -/
def claimsOf (amounts : BTreeMap U16 U256) (used : List MemberSlotWitnessV4) (assetId : U8) :
    List ExitAllocationV4 :=
  (used.filter fun slot => amounts.getD (pairKey slot.slot assetId) 0 != 0).map fun slot =>
    ⟨slot.slot, assetId, slot.account, amounts.getD (pairKey slot.slot assetId) 0⟩

theorem mem_claimsOf {amounts : BTreeMap U16 U256} {used : List MemberSlotWitnessV4}
    {assetId : U8} {allocation : ExitAllocationV4}
    (member : allocation ∈ claimsOf amounts used assetId) :
    allocation.assetId = assetId ∧ allocation.amount ≠ 0 ∧
      ∃ slot ∈ used, allocation.slot = slot.slot ∧ allocation.recipient = slot.account := by
  obtain ⟨slot, listed, rfl⟩ := List.mem_map.mp member
  obtain ⟨among, nonzero⟩ := List.mem_filter.mp listed
  exact ⟨rfl, bne_iff_ne.mp nonzero, slot, among, rfl, rfl⟩

theorem claimAmounts_spec {amounts : BTreeMap U16 U256} {used : List MemberSlotWitnessV4}
    {assetId : U8} {claimed : U256 × List ExitAllocationV4}
    (ran : used.foldlM (claimAmount amounts assetId) (0, []) = .ok claimed) :
    claimed.2 = claimsOf amounts used assetId ∧
      claimed.1.toNat = (claimed.2.map fun allocation => allocation.amount.toNat).sum := by
  refine foldlM_invariant (fun consumed (claimed : U256 × List ExitAllocationV4) =>
    claimed.2 = claimsOf amounts consumed assetId ∧
      claimed.1.toNat = (claimed.2.map fun allocation => allocation.amount.toNat).sum)
    ran ⟨rfl, rfl⟩ ?_
  rintro consumed slot before after ⟨claims, total⟩ stepped
  dsimp only [claimAmount] at stepped
  rw [claimsOf, List.filter_append, List.map_append, ← claimsOf, ← claims]
  split_ifs at stepped with zero
  · cases stepped
    rw [List.filter_cons_of_neg (by exact fun kept => bne_iff_ne.mp kept zero), List.filter_nil,
      List.map_nil, List.append_nil]
    exact ⟨rfl, total⟩
  · obtain ⟨sum, added, done⟩ := bind_eq_ok.mp stepped
    cases pure_eq_ok.mp done
    rw [List.filter_cons_of_pos (by exact bne_iff_ne.mpr zero), List.filter_nil]
    refine ⟨rfl, ?_⟩
    rw [List.map_append, List.sum_append, ← total]
    rw [← checkedAdd_eq_some.mp (orRefuse_eq_ok.mp added)]
    simp

/-- What the claims of one asset are, and that they are all of its funded total. -/
theorem claimAsset_spec {state : StateMap} {used : List MemberSlotWitnessV4}
    {totals : BTreeMap U8 U256} {amounts : BTreeMap U16 U256} {asset : ExitAssetV4}
    {claims : List ExitAllocationV4 × AssetAccountingV4}
    (claimed : claimAsset state used totals amounts asset = .ok claims) :
    claims.1 = claimsOf amounts used asset.assetId ∧
      (totals.getD asset.assetId 0).toNat =
        ((claimsOf amounts used asset.assetId).map fun allocation =>
          allocation.amount.toNat).sum := by
  obtain ⟨⟨⟩, -, claimed⟩ := bind_eq_ok.mp claimed
  obtain ⟨collected, ran, claimed⟩ := bind_eq_ok.mp claimed
  obtain ⟨conserved, done⟩ := refuse_bind_eq_ok.mp claimed
  cases pure_eq_ok.mp done
  obtain ⟨listed, total⟩ := claimAmounts_spec ran
  rw [← not_not.mp conserved, total, listed]
  exact ⟨rfl, rfl⟩

/-! ### The settlement -/

/-- The funded totals by asset. -/
theorem enterTotals_spec {items : List (AssetTotalWitnessV4 × ExitAssetV4)}
    {entered : BTreeMap U8 U256} (ran : items.foldlM enterTotal ∅ = .ok entered) :
    ∀ item ∈ items, item.1.assetId = item.2.assetId ∧
      entered[item.1.assetId]? = some item.1.total := by
  refine foldlM_invariant (fun consumed (entered : BTreeMap U8 U256) =>
    ∀ item ∈ consumed, item.1.assetId = item.2.assetId ∧
      entered[item.1.assetId]? = some item.1.total) ran
    (fun item member => absurd member List.not_mem_nil) ?_
  intro consumed item before after holds stepped
  obtain ⟨fresh, done⟩ := refuse_bind_eq_ok.mp stepped
  cases pure_eq_ok.mp done
  rw [not_or, not_not] at fresh
  refine List.forall_mem_append.mpr ⟨fun other member => ?_, List.forall_mem_singleton.mpr
    ⟨fresh.1, Std.ExtTreeMap.getElem?_insert_self⟩⟩
  obtain ⟨aligned, found⟩ := holds other member
  have different : item.1.assetId ≠ other.1.assetId := by
    intro same
    rw [same, Std.ExtTreeMap.contains_eq_isSome_getElem?, found] at fresh
    exact fresh.2 rfl
  rw [Std.ExtTreeMap.getElem?_insert, if_neg (mt Std.compare_eq_iff_eq.mp different)]
  exact ⟨aligned, found⟩

/-- A settlement whose claims are read off a map of amounts. -/
structure SettlesClaims (keccak256 : Bytes → B256) (program : ExitProgramV4)
    (roster : List MemberSlotWitnessV4) (totals : List AssetTotalWitnessV4) (deploymentId : B256)
    (roomId : U64) (amounts : BTreeMap U16 U256) (settlement : DerivedSettlementV4) : Prop where
  claims : settlement.exitAllocations = sortClaims (program.assets.flatMap fun asset =>
    claimsOf amounts (usedMembers roster) asset.assetId)
  funded : ∀ asset ∈ program.assets, ∃ total ∈ totals, total.assetId = asset.assetId
  conserved : ∀ total ∈ totals, (∃ asset ∈ program.assets, asset.assetId = total.assetId) ∧
    total.total.toNat = ((claimsOf amounts (usedMembers roster) total.assetId).map
      fun allocation => allocation.amount.toNat).sum
  root : settlement.exitRoot =
    claimMerkleRootV4 keccak256 deploymentId roomId settlement.exitAllocations

/-- The runs of a settlement: the balances, the choices for the residuals and the positions; its
claims are read off the amounts the last one leaves. -/
theorem deriveSettlementV4_runs {keccak256 : Bytes → B256} {program : ExitProgramV4}
    {state : StateMap} {roster : List MemberSlotWitnessV4} {totals : List AssetTotalWitnessV4}
    {residualAllocations : List ResidualAllocationV4} {deploymentId : B256} {roomId : U64}
    {settlement : DerivedSettlementV4}
    (derived : deriveSettlementV4 keccak256 program state roster totals residualAllocations
      deploymentId roomId = .ok settlement) :
    ∃ balances choices unwound,
      (membersByAsset (usedMembers roster) program.assets).foldlM (enterBalance keccak256 state)
        ∅ = .ok balances ∧
      residualAllocations.foldlM (enterResidual program) (∅, none) = .ok choices ∧
      program.positions.zipIdx.foldlM (settlePosition keccak256 program state roster choices.1)
        ⟨balances, ∅⟩ = .ok unwound ∧
      SettlesClaims keccak256 program roster totals deploymentId roomId unwound.amounts
        settlement := by
  obtain ⟨covered, derived⟩ := refuse_bind_eq_ok.mp derived
  obtain ⟨totalMap, entered, derived⟩ := bind_eq_ok.mp derived
  obtain ⟨-, derived⟩ := refuse_bind_eq_ok.mp derived
  obtain ⟨balances, held, derived⟩ := bind_eq_ok.mp derived
  obtain ⟨choices, chosen, derived⟩ := bind_eq_ok.mp derived
  obtain ⟨unwound, ran, derived⟩ := bind_eq_ok.mp derived
  obtain ⟨-, derived⟩ := refuse_bind_eq_ok.mp derived
  obtain ⟨claims, claimed, done⟩ := bind_eq_ok.mp derived
  cases pure_eq_ok.mp done
  have lengths := not_not.mp covered
  have aligned := enterTotals_spec entered
  refine ⟨balances, choices, unwound, held, chosen, ran, congrArg sortClaims ?_,
    fun asset member => ?_, fun total member => ?_, rfl⟩
  · exact flatMap_eq_of_mapM_eq_ok claimed Prod.fst _ fun asset output converted =>
      (claimAsset_spec converted).1
  · rw [← List.map_snd_zip lengths.ge] at member
    obtain ⟨pair, listed, rfl⟩ := List.mem_map.mp member
    exact ⟨pair.1, (List.of_mem_zip listed).1, (aligned pair listed).1⟩
  · rw [← List.map_fst_zip lengths.le] at member
    obtain ⟨pair, listed, rfl⟩ := List.mem_map.mp member
    obtain ⟨same, found⟩ := aligned pair listed
    have declared := (List.of_mem_zip listed).2
    obtain ⟨output, -, converted⟩ := exists_mem_of_mapM_eq_ok claimed declared
    have total := (claimAsset_spec converted).2
    rw [← same, Std.ExtTreeMap.getD_eq_getD_getElem?, found, Option.getD_some] at total
    exact ⟨⟨pair.2, declared, same.symm⟩, total⟩

theorem settles_of_deriveSettlementV4 {keccak256 : Bytes → B256} {program : ExitProgramV4}
    {state : StateMap} {roster : List MemberSlotWitnessV4} {totals : List AssetTotalWitnessV4}
    {residualAllocations : List ResidualAllocationV4} {deploymentId : B256} {roomId : U64}
    {settlement : DerivedSettlementV4}
    (derived : deriveSettlementV4 keccak256 program state roster totals residualAllocations
      deploymentId roomId = .ok settlement) :
    ∃ amounts,
      SettlesClaims keccak256 program roster totals deploymentId roomId amounts settlement := by
  obtain ⟨-, -, unwound, -, -, -, settles⟩ := deriveSettlementV4_runs derived
  exact ⟨unwound.amounts, settles⟩

/-! ### The order of the claims -/

theorem toNat_pairKey (first second : U8) :
    (pairKey first second).toNat = 256 * first.toNat + second.toNat := by
  have bound : second.toNat < 2 ^ 8 := second.isLt
  have joined : (pairKey first second).toNat = first.toNat <<< 8 ||| second.toNat :=
    BitVec.toNat_append first second
  rw [joined, ← Nat.shiftLeft_add_eq_or_of_lt bound, Nat.shiftLeft_eq]
  omega

theorem pairKey_inj {first second third fourth : U8}
    (same : pairKey first second = pairKey third fourth) : first = third ∧ second = fourth := by
  have values := congrArg BitVec.toNat same
  rw [toNat_pairKey, toNat_pairKey] at values
  have secondBound := second.isLt
  have fourthBound := fourth.isLt
  exact ⟨BitVec.eq_of_toNat_eq (by omega), BitVec.eq_of_toNat_eq (by omega)⟩

theorem pairKey_lt_iff {first second third fourth : U8} :
    pairKey first second < pairKey third fourth ↔
      first < third ∨ first = third ∧ second < fourth := by
  have secondBound := second.isLt
  have fourthBound := fourth.isLt
  rw [BitVec.lt_def, toNat_pairKey, toNat_pairKey, BitVec.lt_def, BitVec.lt_def,
    ← BitVec.toNat_inj]
  omega

/-- The slots of a roster stand at their numbers. -/
def InSlotOrder (roster : List MemberSlotWitnessV4) : Prop :=
  ∀ (index : Nat) (slot : MemberSlotWitnessV4), roster[index]? = some slot →
    slot.slot.toNat = index

/-- Claims in strictly increasing order of slot and asset. -/
def ClaimsIncreasing (claims : List ExitAllocationV4) : Prop :=
  claims.Pairwise fun earlier later =>
    pairKey earlier.slot earlier.assetId < pairKey later.slot later.assetId

/-- The key by which claims are sorted. -/
def sortingKey (claim : ExitAllocationV4) : U16 := pairKey claim.slot claim.assetId

theorem usedMembers_pairwise {roster : List MemberSlotWitnessV4} (ordered : InSlotOrder roster) :
    (usedMembers roster).Pairwise fun first second => first.slot ≠ second.slot := by
  refine List.Pairwise.filter _ (List.pairwise_iff_getElem.mpr
    fun first second firstInside secondInside before same => ?_)
  have firstSlot := ordered first _ (List.getElem?_eq_getElem firstInside)
  have secondSlot := ordered second _ (List.getElem?_eq_getElem secondInside)
  rw [same, secondSlot] at firstSlot
  omega

theorem claimsOf_pairwise {amounts : BTreeMap U16 U256} {used : List MemberSlotWitnessV4}
    (distinct : used.Pairwise fun first second => first.slot ≠ second.slot) (assetId : U8) :
    (claimsOf amounts used assetId).Pairwise fun first second =>
      pairKey first.slot first.assetId ≠ pairKey second.slot second.assetId :=
  List.pairwise_map.mpr ((distinct.filter _).imp fun different same =>
    different (pairKey_inj same).1)

theorem sortClaims_perm (claims : List ExitAllocationV4) : (sortClaims claims).Perm claims :=
  sortByKey_perm sortingKey claims

/-- Sorted claims are strictly increasing when no slot claims an asset twice. -/
theorem claimsIncreasing_sortClaims {claims : List ExitAllocationV4}
    (distinct : claims.Pairwise fun first second =>
      pairKey first.slot first.assetId ≠ pairKey second.slot second.assetId) :
    ClaimsIncreasing (sortClaims claims) := by
  have keys : (claims.map sortingKey).Nodup := List.pairwise_map.mpr distinct
  exact ascending_sortByKey_iff.mpr keys

/-- The claims of a settlement are strictly increasing. -/
theorem SettlesClaims.increasing {keccak256 : Bytes → B256} {program : ExitProgramV4}
    {roster : List MemberSlotWitnessV4} {totals : List AssetTotalWitnessV4} {deploymentId : B256}
    {roomId : U64} {amounts : BTreeMap U16 U256} {settlement : DerivedSettlementV4}
    (settles : SettlesClaims keccak256 program roster totals deploymentId roomId amounts settlement)
    (declared : AssetsDeclared program.assets) (ordered : InSlotOrder roster) :
    ClaimsIncreasing settlement.exitAllocations := by
  have distinct : (program.assets.flatMap fun asset =>
      claimsOf amounts (usedMembers roster) asset.assetId).Pairwise fun first second =>
        pairKey first.slot first.assetId ≠ pairKey second.slot second.assetId := by
    refine List.pairwise_flatMap.mpr ⟨fun asset _ =>
      claimsOf_pairwise (usedMembers_pairwise ordered) asset.assetId, ?_⟩
    refine declared.sorted.imp fun below first firstMember second secondMember same => ?_
    have ids := (pairKey_inj same).2
    rw [(mem_claimsOf firstMember).1, (mem_claimsOf secondMember).1] at ids
    exact BitVec.ne_of_lt below ids
  rw [settles.claims]
  exact claimsIncreasing_sortClaims distinct

end Zkdeal

/-
This file says what a member of a seven-member room is owed when it is settled.

It is a closed formula over the terminal state: the balance inside the room, and for
every position the asset backs the share of the backing, rounded down, with all that
rounding has left if the member was chosen for it. The derivation reaches it by
additions to one map of amounts, balances first and then position by position; every
loop adds what the formula says about its item.
-/

import Zkdeal.AssetSeparation
import Zkdeal.ExitClaims
import Zkdeal.Library.Accounting
import Zkdeal.Library.Maps

namespace Zkdeal

open Words Guard Maps Accounting

/-! ### What a member is owed -/

section Entitlements

variable (keccak256 : Bytes → B256) (program : ExitProgramV4) (state : StateMap)
  (roster : List MemberSlotWitnessV4) (residualAllocations : List ResidualAllocationV4)

/-- What an account holds inside the room. -/
def heldBalance (account : Address) : ExitAssetKindV4 → Nat
  | .native => (state.nativeBalance account).toNat
  | .erc20 token balanceSlot _ =>
    (state.storageAt token (mappingSlot keccak256 account balanceSlot)).toNat

def positionSupply (position : ProRataPositionV4) : Nat :=
  (state.storageAt position.contract position.totalSupplySlot).toNat

def positionShares (position : ProRataPositionV4) (account : Address) : Nat :=
  (state.storageAt position.contract
    (mappingSlot keccak256 account position.shareBalanceSlot)).toNat

/-- What a position holds of an asset. -/
def positionBacking (position : ProRataPositionV4) (assetId : U8) : Nat :=
  match program.kind? assetId with
  | some kind => heldBalance keccak256 state position.contract kind
  | none => 0

/-- The part of a backing that goes with the shares of an account, rounded down. -/
def claimOn (position : ProRataPositionV4) (assetId : U8) (account : Address) : Nat :=
  positionBacking keccak256 program state position assetId *
    positionShares keccak256 state position account / positionSupply state position

/-- What the members' shares leave of a backing. -/
def positionResidual (position : ProRataPositionV4) (assetId : U8) : Nat :=
  positionBacking keccak256 program state position assetId -
    ((usedMembers roster).map fun member =>
      claimOn keccak256 program state position assetId member.account).sum

/-- The slot is chosen for the residual of a position in an asset. -/
def ChosenFor (index : Nat) (assetId slot : U8) : Prop :=
  ∃ residual ∈ residualAllocations, residual.position.toNat = index ∧
    residual.assetId = assetId ∧ residual.recipientSlot = slot

instance (index : Nat) (assetId slot : U8) :
    Decidable (ChosenFor residualAllocations index assetId slot) :=
  inferInstanceAs (Decidable (∃ _ ∈ _, _))

/-- What a position gives to a member in an asset. -/
def positionGives (member : MemberSlotWitnessV4) (assetId : U8) (item : ProRataPositionV4 × Nat) :
    Nat :=
  if ∃ backing ∈ item.1.backings, backing.assetId = assetId then
    claimOn keccak256 program state item.1 assetId member.account +
      if ChosenFor residualAllocations item.2 assetId member.slot then
        positionResidual keccak256 program state roster item.1 assetId
      else 0
  else 0

/-- What a member is owed of an asset. -/
def entitlement (member : MemberSlotWitnessV4) (asset : ExitAssetV4) : Nat :=
  heldBalance keccak256 state member.account asset.kind +
    (program.positions.zipIdx.map
      (positionGives keccak256 program state roster residualAllocations member asset.assetId)).sum

end Entitlements

/-! ### Reads and additions -/

/-- The amount of a member in an asset. -/
def amountAt (amounts : BTreeMap U16 U256) (slot assetId : U8) : Nat :=
  (amounts.getD (pairKey slot assetId) 0).toNat

theorem readStorage_eq_ok {state : StateMap} {address : Address} {slot value : U256}
    {label : String} (read : readStorage state address slot label = .ok value) :
    value = state.storageAt address slot := by
  obtain ⟨-, done⟩ := refuse_bind_eq_ok.mp read
  exact (pure_eq_ok.mp done).symm

theorem addU256_eq_ok {left right sum : U256} {label : String}
    (added : addU256 left right label = .ok sum) : left.toNat + right.toNat = sum.toNat :=
  checkedAdd_eq_some.mp (orRefuse_eq_ok.mp added)

theorem mulDivFloor_eq_ok {value numerator denominator quotient : U256} {label : String}
    (divided : mulDivFloor value numerator denominator label = .ok quotient) :
    quotient.toNat = value.toNat * numerator.toNat / denominator.toNat := by
  obtain ⟨-, divided⟩ := refuse_bind_eq_ok.mp divided
  obtain ⟨product, multiplied, done⟩ := bind_eq_ok.mp divided
  rw [← pure_eq_ok.mp done, BitVec.toNat_udiv,
    checkedMul_eq_some.mp (orRefuse_eq_ok.mp multiplied)]

theorem addAmount_eq_ok {amounts after : BTreeMap U16 U256} {slot assetId : U8} {amount : U256}
    {label : String} (added : addAmount amounts slot assetId amount label = .ok after)
    (other otherAsset : U8) :
    amountAt after other otherAsset = amountAt amounts other otherAsset +
      if slot = other ∧ assetId = otherAsset then amount.toNat else 0 := by
  obtain ⟨sum, checked, done⟩ := bind_eq_ok.mp added
  have total := addU256_eq_ok checked
  rw [← pure_eq_ok.mp done, amountAt, Std.ExtTreeMap.getD_eq_getD_getElem?, getElem?_insert_eq]
  by_cases same : pairKey slot assetId = pairKey other otherAsset
  · obtain ⟨rfl, rfl⟩ := pairKey_inj same
    rw [if_pos rfl, if_pos ⟨rfl, rfl⟩, Option.getD_some, ← total, amountAt]
  · have apart : ¬ (slot = other ∧ assetId = otherAsset) := by
      rintro ⟨rfl, rfl⟩
      exact same rfl
    rw [if_neg same, if_neg apart, Nat.add_zero, amountAt, Std.ExtTreeMap.getD_eq_getD_getElem?]

/-! ### Balances -/

section Balances

variable {keccak256 : Bytes → B256} {state : StateMap}

theorem memberBalance_eq_ok {slot : MemberSlotWitnessV4} {asset : ExitAssetV4} {balance : U256}
    (read : memberBalance keccak256 state slot asset = .ok balance) :
    balance.toNat = heldBalance keccak256 state slot.account asset.kind := by
  unfold memberBalance at read
  split at read
  case h_1 kind =>
    rw [kind, heldBalance, StateMap.nativeBalance, ← Except.ok.inj read,
      Std.ExtTreeMap.getD_eq_getD_getElem?]
    cases state.accounts[slot.account]? <;> rfl
  case h_2 kind => rw [kind, heldBalance, readStorage_eq_ok read]

/-- Items that share a key with an item agree with it in value, so that it does not matter which
of them comes last. -/
theorem enterBalances_spec {items : List (MemberSlotWitnessV4 × ExitAssetV4)}
    {balances : BTreeMap U16 U256}
    (ran : items.foldlM (enterBalance keccak256 state) ∅ = .ok balances)
    (agree : ∀ first ∈ items, ∀ second ∈ items, first.1.slot = second.1.slot →
      first.2.assetId = second.2.assetId → first = second) :
    ∀ item ∈ items, amountAt balances item.1.slot item.2.assetId =
      heldBalance keccak256 state item.1.account item.2.kind := by
  have entered := foldlM_invariant (fun consumed (balances : BTreeMap U16 U256) =>
    (∀ first ∈ consumed, ∀ second ∈ consumed, first.1.slot = second.1.slot →
      first.2.assetId = second.2.assetId → first = second) →
    ∀ item ∈ consumed, amountAt balances item.1.slot item.2.assetId =
      heldBalance keccak256 state item.1.account item.2.kind) ran
    (fun _ item member => absurd member List.not_mem_nil) ?_
  · exact entered agree
  intro consumed item before after holds stepped agree other member
  obtain ⟨balance, read, done⟩ := bind_eq_ok.mp stepped
  have value := memberBalance_eq_ok read
  rw [← pure_eq_ok.mp done, amountAt, Std.ExtTreeMap.getD_eq_getD_getElem?, getElem?_insert_eq]
  have last : item ∈ consumed ++ [item] := List.mem_append_right _ (List.mem_singleton.mpr rfl)
  by_cases same : pairKey item.1.slot item.2.assetId = pairKey other.1.slot other.2.assetId
  · obtain ⟨slots, assets⟩ := pairKey_inj same
    rw [if_pos same, Option.getD_some, value, agree item last other member slots assets]
  · rw [if_neg same]
    rcases List.mem_append.mp member with earlier | new
    · have kept := holds (fun first firstMember second secondMember =>
        agree first (List.mem_append_left _ firstMember) second
          (List.mem_append_left _ secondMember)) other earlier
      rw [amountAt, Std.ExtTreeMap.getD_eq_getD_getElem?] at kept
      exact kept
    · exact absurd (by rw [List.mem_singleton.mp new]) same

end Balances

/-! ### Shares -/

section Shares

variable {keccak256 : Bytes → B256} {state : StateMap} {position : ProRataPositionV4}

variable (keccak256 state position) in
/-- The shares of a member as they are read. -/
def memberShare (member : MemberSlotWitnessV4) : U8 × U256 :=
  (member.slot, state.storageAt position.contract
    (mappingSlot keccak256 member.account position.shareBalanceSlot))

theorem attributeShares_spec {used : List MemberSlotWitnessV4}
    {attributed : U256 × List (U8 × U256)}
    (ran : used.foldlM (attributeShares keccak256 state position) (0, []) = .ok attributed) :
    attributed.2 = used.map (memberShare keccak256 state position) ∧
      attributed.1.toNat =
        (used.map fun member => positionShares keccak256 state position member.account).sum := by
  refine foldlM_invariant (fun consumed (attributed : U256 × List (U8 × U256)) =>
    attributed.2 = consumed.map (memberShare keccak256 state position) ∧
      attributed.1.toNat =
        (consumed.map fun member => positionShares keccak256 state position member.account).sum)
    ran ⟨rfl, rfl⟩ ?_
  rintro consumed member before after ⟨listed, total⟩ stepped
  obtain ⟨shares, read, stepped⟩ := bind_eq_ok.mp stepped
  obtain ⟨supply, added, done⟩ := bind_eq_ok.mp stepped
  cases readStorage_eq_ok read
  cases pure_eq_ok.mp done
  refine ⟨?_, ?_⟩
  · rw [listed, List.map_append]
    rfl
  · rw [List.map_append, List.sum_append, ← total, ← addU256_eq_ok added, List.map_singleton,
      List.sum_singleton, positionShares]

theorem attributeExcluded_le {accounts : List Address} {start supply : U256}
    (ran : accounts.foldlM (attributeExcluded keccak256 state position) start = .ok supply) :
    start.toNat ≤ supply.toNat := by
  refine foldlM_preserves (fun attributed : U256 => start.toNat ≤ attributed.toNat) ran
    (Nat.le_refl _) ?_
  intro account _ before after reached stepped
  obtain ⟨shares, -, added⟩ := bind_eq_ok.mp stepped
  rw [← addU256_eq_ok added]
  exact Nat.le_add_right_of_le reached

/-- What is distributed of a backing, in total and to each slot. -/
structure Distributes (assetId : U8) (backing supply : U256) (members : List (U8 × U256))
    (before after : BTreeMap U16 U256) (distributed : U256) : Prop where
  total : distributed.toNat =
    (members.map fun member => backing.toNat * member.2.toNat / supply.toNat).sum
  each : ∀ slot other, amountAt after slot other = amountAt before slot other +
    (members.map fun member => if member.1 = slot ∧ assetId = other then
      backing.toNat * member.2.toNat / supply.toNat else 0).sum

theorem shareBacking_spec {assetId : U8} {backing supply : U256} {members : List (U8 × U256)}
    {amounts : BTreeMap U16 U256} {shared : BTreeMap U16 U256 × U256}
    (ran : members.foldlM (shareBacking assetId backing supply) (amounts, 0) = .ok shared) :
    Distributes assetId backing supply members amounts shared.1 shared.2 := by
  refine foldlM_invariant (fun consumed (shared : BTreeMap U16 U256 × U256) =>
    Distributes assetId backing supply consumed amounts shared.1 shared.2) ran
    ⟨rfl, fun _ _ => rfl⟩ ?_
  rintro consumed member before after ⟨total, each⟩ stepped
  obtain ⟨claim, divided, stepped⟩ := bind_eq_ok.mp stepped
  obtain ⟨raised, added, stepped⟩ := bind_eq_ok.mp stepped
  obtain ⟨distributed, summed, done⟩ := bind_eq_ok.mp stepped
  have share := mulDivFloor_eq_ok divided
  cases pure_eq_ok.mp done
  refine ⟨?_, fun slot other => ?_⟩
  · rw [← addU256_eq_ok summed, total, share, List.map_append, List.sum_append,
      List.map_singleton, List.sum_singleton]
  · rw [addAmount_eq_ok added, each, share, List.map_append, List.sum_append, List.map_singleton,
      List.sum_singleton, Nat.add_assoc]

theorem distribute_spec {assetId : U8} {backing supply : U256} {members : List (U8 × U256)}
    {amounts : BTreeMap U16 U256} {shared : BTreeMap U16 U256 × U256}
    (ran : distribute assetId backing supply members amounts = .ok shared) :
    Distributes assetId backing supply members amounts shared.1 shared.2 := by
  unfold distribute at ran
  split_ifs at ran with empty
  · cases ran
    subst empty
    refine ⟨?_, fun slot other => ?_⟩
    · refine (List.sum_eq_zero fun term listed => ?_).symm
      obtain ⟨member, -, rfl⟩ := List.mem_map.mp listed
      exact Nat.div_zero _
    · refine (Nat.add_eq_left.mpr (List.sum_eq_zero fun term listed => ?_)).symm
      obtain ⟨member, -, rfl⟩ := List.mem_map.mp listed
      split
      · exact Nat.div_zero _
      · rfl
  · exact shareBacking_spec ran

end Shares

/-! ### Positions -/

section Positions

variable {keccak256 : Bytes → B256} {program : ExitProgramV4} {state : StateMap}
  {roster : List MemberSlotWitnessV4} {choices : BTreeMap U16 U8} {position : ProRataPositionV4}
  {index : Nat}

theorem backingBalance_eq_ok {backing : PositionBackingV4} {balance : U256}
    (read : backingBalance keccak256 program state position index backing = .ok balance) :
    balance.toNat = positionBacking keccak256 program state position backing.assetId := by
  obtain ⟨⟨assetId, kind⟩, found, read⟩ := bind_eq_ok.mp read
  have known := asset_eq_ok found
  dsimp only at known read
  rw [positionBacking, known]
  cases kind with
  | native => cases read
  | erc20 token balanceSlot totalSupplySlot =>
    obtain ⟨held, reads, read⟩ := bind_eq_ok.mp read
    have value : held = balance := by
      split at read
      case h_1 => exact pure_eq_ok.mp read
      case h_2 =>
        obtain ⟨reserve, -, read⟩ := bind_eq_ok.mp read
        obtain ⟨-, read⟩ := refuse_bind_eq_ok.mp read
        exact pure_eq_ok.mp read
    rw [← value, readStorage_eq_ok reads]
    rfl

/-- The residual goes to the slot that was chosen for it. -/
theorem settleResidual_eq_ok (ordered : InSlotOrder roster) {assetId : U8} {residual : U256}
    {before after : Unwound}
    (ran : settleResidual roster choices index assetId residual before = .ok after)
    (slot other : U8) :
    amountAt after.amounts slot other = amountAt before.amounts slot other +
      if choices[pairKey (BitVec.ofNat 8 index) assetId]? = some slot ∧ assetId = other then
        residual.toNat else 0 := by
  unfold settleResidual at ran
  dsimp only at ran
  split at ran
  case h_1 none =>
    cases ran
    rw [none, if_neg (fun both => nomatch both.1), Nat.add_zero]
  case h_2 => cases ran
  case h_3 => cases ran
  case h_4 chosen _ found =>
    obtain ⟨recipient, present, ran⟩ := bind_eq_ok.mp ran
    obtain ⟨amounts, added, ran⟩ := bind_eq_ok.mp ran
    cases pure_eq_ok.mp ran
    have seated := (Option.filter_eq_some_iff.mp (orRefuse_eq_ok.mp present)).1
    have same : recipient.slot = chosen := BitVec.eq_of_toNat_eq (ordered _ _ seated)
    rw [addAmount_eq_ok added, same, found]
    simp only [Option.some.injEq]

/-- What a backing adds to the amount of a member. -/
theorem settleBacking_eq_ok (ordered : InSlotOrder roster) {backing : PositionBackingV4}
    {before after : Unwound}
    (ran : settleBacking keccak256 program state roster choices position index
      (state.storageAt position.contract position.totalSupplySlot)
      ((usedMembers roster).map (memberShare keccak256 state position)) before backing =
        .ok after)
    {member : MemberSlotWitnessV4} (used : member ∈ usedMembers roster) (assetId : U8) :
    amountAt after.amounts member.slot assetId = amountAt before.amounts member.slot assetId +
      if backing.assetId = assetId then
        claimOn keccak256 program state position assetId member.account +
          if choices[pairKey (BitVec.ofNat 8 index) assetId]? = some member.slot then
            positionResidual keccak256 program state roster position assetId
          else 0
      else 0 := by
  obtain ⟨balance, read, ran⟩ := bind_eq_ok.mp ran
  obtain ⟨-, ran⟩ := refuse_bind_eq_ok.mp ran
  obtain ⟨shared, distributed, ran⟩ := bind_eq_ok.mp ran
  obtain ⟨residual, left, ran⟩ := bind_eq_ok.mp ran
  have backs := backingBalance_eq_ok read
  have spread := distribute_spec distributed
  have remains := checkedSub_eq_some.mp (orRefuse_eq_ok.mp left)
  rw [settleResidual_eq_ok ordered ran, spread.each, List.map_map, Nat.add_assoc]
  congr 1
  by_cases same : backing.assetId = assetId
  · subst same
    have claims : ∀ other : MemberSlotWitnessV4, balance.toNat *
        (memberShare keccak256 state position other).2.toNat /
          (state.storageAt position.contract position.totalSupplySlot).toNat =
        claimOn keccak256 program state position backing.assetId other.account := by
      intro other
      rw [backs]
      rfl
    have total : shared.2.toNat = ((usedMembers roster).map fun other =>
        claimOn keccak256 program state position backing.assetId other.account).sum := by
      rw [spread.total, List.map_map]
      exact congrArg List.sum (List.map_congr_left fun other _ => claims other)
    have rest : residual.toNat =
        positionResidual keccak256 program state roster position backing.assetId := by
      rw [positionResidual, ← backs, ← total, remains, Nat.add_sub_cancel_left]
    simp only [and_true, if_true, Function.comp_def, claims, rest]
    congr 1
    exact sum_ite_key_eq (usedMembers_pairwise ordered) used _
  · simp only [same, and_false, if_false, Nat.add_zero]
    exact List.sum_eq_zero fun term listed => by
      obtain ⟨other, -, rfl⟩ := List.mem_map.mp listed
      rfl

/-- What the members have of a position is part of its supply. -/
theorem sum_positionShares_le {attributed : U256 × List (U8 × U256)} {supply : U256}
    (ran : (usedMembers roster).foldlM (attributeShares keccak256 state position) (0, []) =
      .ok attributed)
    (excluded : position.excludedShareAccounts.foldlM
      (attributeExcluded keccak256 state position) attributed.1 = .ok supply) :
    ((usedMembers roster).map fun member =>
      positionShares keccak256 state position member.account).sum ≤ supply.toNat := by
  rw [← (attributeShares_spec ran).2]
  exact attributeExcluded_le excluded

/-- A position is unwound backing by backing, over the shares that were read before. -/
theorem settlePosition_eq_ok {item : ProRataPositionV4 × Nat} {before after : Unwound}
    (ran : settlePosition keccak256 program state roster choices before item = .ok after) :
    item.1.backings.foldlM (settleBacking keccak256 program state roster choices item.1 item.2
      (state.storageAt item.1.contract item.1.totalSupplySlot)
      ((usedMembers roster).map (memberShare keccak256 state item.1))) before = .ok after := by
  obtain ⟨totalSupply, read, ran⟩ := bind_eq_ok.mp ran
  obtain ⟨attributed, shares, ran⟩ := bind_eq_ok.mp ran
  obtain ⟨supply, -, ran⟩ := bind_eq_ok.mp ran
  obtain ⟨-, ran⟩ := refuse_bind_eq_ok.mp ran
  rw [← (attributeShares_spec shares).1, ← readStorage_eq_ok read]
  exact ran

variable (keccak256 program state roster choices) in
/-- What a position adds to the amount of a member, backing by backing. -/
def backingsGive (member : MemberSlotWitnessV4) (assetId : U8) (item : ProRataPositionV4 × Nat) :
    Nat :=
  (item.1.backings.map fun backing =>
    if backing.assetId = assetId then
      claimOn keccak256 program state item.1 assetId member.account +
        if choices[pairKey (BitVec.ofNat 8 item.2) assetId]? = some member.slot then
          positionResidual keccak256 program state roster item.1 assetId
        else 0
    else 0).sum

theorem settlePositions_eq_ok (ordered : InSlotOrder roster)
    {items : List (ProRataPositionV4 × Nat)} {before after : Unwound}
    (ran : items.foldlM (settlePosition keccak256 program state roster choices) before =
      .ok after)
    {member : MemberSlotWitnessV4} (used : member ∈ usedMembers roster) (assetId : U8) :
    amountAt after.amounts member.slot assetId = amountAt before.amounts member.slot assetId +
      (items.map (backingsGive keccak256 program state roster choices member assetId)).sum := by
  refine foldlM_invariant (fun consumed (unwound : Unwound) =>
    amountAt unwound.amounts member.slot assetId = amountAt before.amounts member.slot assetId +
      (consumed.map (backingsGive keccak256 program state roster choices member assetId)).sum)
    ran rfl ?_
  intro consumed item middle next total stepped
  rw [List.map_append, List.sum_append, List.map_singleton, List.sum_singleton, ← Nat.add_assoc,
    ← total]
  refine foldlM_invariant (fun given (unwound : Unwound) =>
    amountAt unwound.amounts member.slot assetId = amountAt middle.amounts member.slot assetId +
      (given.map fun backing : PositionBackingV4 => if backing.assetId = assetId then
        claimOn keccak256 program state item.1 assetId member.account +
          if choices[pairKey (BitVec.ofNat 8 item.2) assetId]? = some member.slot then
            positionResidual keccak256 program state roster item.1 assetId
          else 0
        else 0).sum)
    (settlePosition_eq_ok stepped) rfl ?_
  intro given backing earlier later gives settled
  rw [settleBacking_eq_ok ordered settled used, gives, List.map_append, List.sum_append,
    List.map_singleton, List.sum_singleton, Nat.add_assoc]

end Positions

/-! ### Choices -/

/-- The choices for the residuals are those of the list. -/
theorem enterResiduals_spec {program : ExitProgramV4}
    {residualAllocations : List ResidualAllocationV4} {choices : BTreeMap U16 U8 × Option U16}
    (ran : residualAllocations.foldlM (enterResidual program) (∅, none) = .ok choices) :
    ∀ key slot, choices.1[key]? = some slot ↔ (key, slot) ∈ residualAllocations.map
      fun residual => (pairKey residual.position residual.assetId, residual.recipientSlot) := by
  have entered := foldlM_invariant (fun consumed (choices : BTreeMap U16 U8 × Option U16) =>
    ∀ (key : U16) (slot : U8), choices.1[key]? = some slot ↔ (key, slot) ∈ consumed.map
      fun residual => (pairKey residual.position residual.assetId, residual.recipientSlot)) ran
  refine entered (fun key slot => ?_) ?_
  · rw [Std.ExtTreeMap.getElem?_empty, List.map_nil]
    exact iff_of_false (Option.some_ne_none slot).symm List.not_mem_nil
  · intro consumed residual before after listed stepped
    obtain ⟨checks, done⟩ := refuse_bind_eq_ok.mp stepped
    simp only [not_or] at checks
    cases pure_eq_ok.mp done
    rw [List.map_append, List.map_singleton]
    refine getElem?_insert_iff_mem listed fun entry member same => ?_
    have found := (listed entry.1 entry.2).mpr member
    refine checks.2.2.2 ?_
    rw [Std.ExtTreeMap.contains_eq_isSome_getElem?, ← same, found]
    rfl

/-- A position whose number fits into an octet is found under it. -/
theorem chosen_iff {program : ExitProgramV4} {residualAllocations : List ResidualAllocationV4}
    {choices : BTreeMap U16 U8 × Option U16}
    (ran : residualAllocations.foldlM (enterResidual program) (∅, none) = .ok choices)
    {index : Nat} (small : index < 256) (assetId slot : U8) :
    choices.1[pairKey (BitVec.ofNat 8 index) assetId]? = some slot ↔
      ChosenFor residualAllocations index assetId slot := by
  have octet : (BitVec.ofNat 8 index).toNat = index := by
    rw [BitVec.toNat_ofNat]
    exact Nat.mod_eq_of_lt small
  rw [enterResiduals_spec ran, List.mem_map]
  constructor
  · rintro ⟨residual, member, same⟩
    obtain ⟨keys, slots⟩ := Prod.mk.inj same
    obtain ⟨positions, assets⟩ := pairKey_inj keys
    exact ⟨residual, member, by rw [positions, octet], assets, slots⟩
  · rintro ⟨residual, member, positions, assets, slots⟩
    refine ⟨residual, member, ?_⟩
    have numbered : residual.position = BitVec.ofNat 8 index :=
      BitVec.eq_of_toNat_eq (by rw [positions, octet])
    rw [numbered, assets, slots]

/-! ### Backings of a parsed program -/

/-- The backings of a position are of different assets. -/
def BackingsApart (position : ProRataPositionV4) : Prop :=
  position.backings.Pairwise fun first second => first.assetId ≠ second.assetId

theorem parseBackings_apart {assets : List ExitAssetV4} {position : Nat}
    {items : List (PositionBackingJsonV4 × Nat)} {parsed : List PositionBackingV4 × Option U8}
    (ran : items.foldlM (parseBacking assets position) ([], none) = .ok parsed) :
    parsed.1.Pairwise fun first second => first.assetId ≠ second.assetId := by
  have increasing : Increasing PositionBackingV4.assetId parsed.1 parsed.2 := by
    refine foldlM_preserves (fun entered : List PositionBackingV4 × Option U8 =>
      Increasing PositionBackingV4.assetId entered.1 entered.2) ran increasing_nil ?_
    intro item _ before after increasing stepped
    obtain ⟨above, stepped⟩ := refuse_bind_eq_ok.mp stepped
    obtain ⟨asset, -, stepped⟩ := bind_eq_ok.mp stepped
    obtain ⟨-, stepped⟩ := refuse_bind_eq_ok.mp stepped
    obtain ⟨reserveSlot, done⟩ : ∃ reserveSlot,
        (before.1 ++ [⟨item.1.assetId, reserveSlot⟩], some item.1.assetId) = after := by
      split at stepped
      case h_1 =>
        obtain ⟨reserveSlot, -, done⟩ := bind_eq_ok.mp stepped
        exact ⟨reserveSlot, pure_eq_ok.mp done⟩
      case h_2 => exact ⟨none, pure_eq_ok.mp stepped⟩
    cases done
    have beyond : ∀ previous, before.2 = some previous → previous < item.1.assetId := by
      intro previous known
      rw [known, Option.any_some, decide_eq_true_iff] at above
      exact BitVec.not_le.mp above
    exact increasing.concat beyond
  exact increasing.sorted.imp fun below => BitVec.ne_of_lt below

theorem backingsApart_of_parse {json : JsonLibrary} {keccak256 : Bytes → B256}
    {canonicalJson : Bytes} {policy : PresetPolicyV4} {program : ExitProgramV4}
    (parsed : ExitProgramV4.parse json keccak256 canonicalJson policy = .ok program) :
    ∀ position ∈ program.positions, BackingsApart position := by
  obtain ⟨value, document, last, -, -, -, -, -, -, -, collected⟩ :=
    ExitProgramV4.parse_eq_ok parsed
  refine foldlM_preserves
    (fun entered : List ProRataPositionV4 => ∀ position ∈ entered, BackingsApart position)
    collected (fun position member => absurd member List.not_mem_nil) ?_
  intro item _ before after apart stepped
  obtain ⟨-, stepped⟩ := refuse_bind_eq_ok.mp stepped
  obtain ⟨contract, -, stepped⟩ := bind_eq_ok.mp stepped
  obtain ⟨-, stepped⟩ := refuse_bind_eq_ok.mp stepped
  obtain ⟨-, stepped⟩ := refuse_bind_eq_ok.mp stepped
  obtain ⟨shareBalanceSlot, -, stepped⟩ := bind_eq_ok.mp stepped
  obtain ⟨totalSupplySlot, -, stepped⟩ := bind_eq_ok.mp stepped
  obtain ⟨-, stepped⟩ := refuse_bind_eq_ok.mp stepped
  obtain ⟨excluded, -, stepped⟩ := bind_eq_ok.mp stepped
  obtain ⟨backings, ran, done⟩ := bind_eq_ok.mp stepped
  cases pure_eq_ok.mp done
  exact List.forall_mem_append.mpr
    ⟨apart, List.forall_mem_singleton.mpr (parseBackings_apart ran)⟩

theorem backingsGive_eq {keccak256 : Bytes → B256} {program : ExitProgramV4} {state : StateMap}
    {roster : List MemberSlotWitnessV4} {residualAllocations : List ResidualAllocationV4}
    {choices : BTreeMap U16 U8 × Option U16}
    (ran : residualAllocations.foldlM (enterResidual program) (∅, none) = .ok choices)
    {item : ProRataPositionV4 × Nat} (small : item.2 < 256) (apart : BackingsApart item.1)
    (member : MemberSlotWitnessV4) (assetId : U8) :
    backingsGive keccak256 program state roster choices.1 member assetId item =
      positionGives keccak256 program state roster residualAllocations member assetId item := by
  unfold backingsGive positionGives
  simp only [chosen_iff ran small]
  by_cases backed : ∃ backing ∈ item.1.backings, backing.assetId = assetId
  · rw [if_pos backed]
    obtain ⟨backing, among, rfl⟩ := backed
    exact sum_ite_key_eq apart among fun _ => _
  · rw [if_neg backed]
    refine List.sum_eq_zero fun term listed => ?_
    obtain ⟨backing, among, rfl⟩ := List.mem_map.mp listed
    exact if_neg fun same => backed ⟨backing, among, same⟩

end Zkdeal

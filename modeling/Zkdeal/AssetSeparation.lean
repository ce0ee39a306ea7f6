/-
This file is about the in-room balances a deposit credit raises. The credit and the
close sweep find a balance on their own, through the token and the mapping slot the
policy declares for an asset. The policy constructor keeps the declared assets
apart by their L1 address only: two of them may share a token and a slot, and then
they share every balance.
-/

import Zkdeal.Library.Binding
import Zkdeal.Deposits

namespace Zkdeal

open Words Guard Binding

section Credit

variable {keccak256 : Bytes → B256} {input : BatchInputV5}

/-! ### Balances -/

/-- What the close sweep reads as the balance of an account in a declared asset. -/
def roomBalance (keccak256 : Bytes → B256) (bound : ExitAssetBindingV5) (state : StateMap)
    (account : Address) : U256 :=
  holderBalance keccak256 bound state (account, state.accounts.getD account default)

/-- What a deposit is worth to its beneficiary: nothing when it is refunded, and otherwise its
amount less the fees withheld from it. -/
def creditedAmount (input : BatchInputV5) (deposit : DepositV5) : Nat :=
  if deposit.refunded then 0 else deposit.amount.toNat - withheldFees input.admissions deposit

/-- The native balance of an account; an absent one has none. -/
def StateMap.nativeBalance (state : StateMap) (account : Address) : U256 :=
  (state.accounts.getD account default).balance

/-- A native credit raises one balance and no other. -/
theorem creditNative_balance {state after : StateMap} {beneficiary : Address} {net : U256}
    (credited : creditNative state beneficiary net = .ok after) (account : Address) :
    (after.nativeBalance account).toNat = (state.nativeBalance account).toNat +
      if beneficiary = account then net.toNat else 0 := by
  obtain ⟨-, credited⟩ := refuse_bind_eq_ok.mp credited
  obtain ⟨balance, added, credited⟩ := bind_eq_ok.mp credited
  have sum := checkedAdd_eq_some.mp (orRefuse_eq_ok.mp added)
  rw [← pure_eq_ok.mp credited, StateMap.nativeBalance, Std.ExtTreeMap.getD_insert]
  by_cases same : beneficiary = account
  · rw [if_pos (Std.compare_eq_iff_eq.mpr same), if_pos same, ← sum, same]
    rfl
  · rw [if_neg (mt Std.compare_eq_iff_eq.mp same), if_neg same, Nat.add_zero]
    rfl

/-- A token credit leaves the native balances alone. -/
theorem creditToken_balance {policy : ExecutionPolicyV5} {state after : StateMap}
    {deposit : DepositV5} {net : U256}
    (credited : creditToken keccak256 policy state deposit net = .ok after) (account : Address) :
    after.nativeBalance account = state.nativeBalance account := by
  obtain ⟨bound, -, credited⟩ := bind_eq_ok.mp credited
  obtain ⟨current, -, credited⟩ := bind_eq_ok.mp credited
  obtain ⟨raised, -, credited⟩ := bind_eq_ok.mp credited
  obtain ⟨token, present, credited⟩ := bind_eq_ok.mp credited
  rw [← pure_eq_ok.mp credited, StateMap.nativeBalance, Std.ExtTreeMap.getD_insert]
  by_cases same : bound.token = account
  · rw [if_pos (Std.compare_eq_iff_eq.mpr same), StateMap.nativeBalance, ← same,
      Std.ExtTreeMap.getD_eq_getD_getElem?, orRefuse_eq_ok.mp present]
    rfl
  · rw [if_neg (mt Std.compare_eq_iff_eq.mp same)]
    rfl

/-! ### One credit -/

/-- The cell a credit raises: the native balance of the beneficiary, or the balance slot in the
token bound to the asset. -/
inductive Raises (keccak256 : Bytes → B256) (policy : ExecutionPolicyV5) (deposit : DepositV5)
    (net : Nat) (before after : StateMap) : Prop
  | nothing (zero : net = 0) (same : after = before)
  | native (asset : deposit.asset = 0)
      (balances : ∀ account, (after.nativeBalance account).toNat =
        (before.nativeBalance account).toNat + if deposit.beneficiary = account then net else 0)
      (storage : ∀ contract slot,
        after.storageAt contract slot = before.storageAt contract slot)
  | token (asset : deposit.asset ≠ 0) (bound : ExitAssetBindingV5)
      (found : boundToken policy deposit.asset = some bound)
      (balances : ∀ account, after.nativeBalance account = before.nativeBalance account)
      (storage : ∀ contract slot, (after.storageAt contract slot).toNat =
        (before.storageAt contract slot).toNat +
          if bound.token = contract ∧
              mappingSlotV5 keccak256 deposit.beneficiary bound.balanceSlot = slot then net
            else 0)

theorem creditDeposit_raises {before after : StateMap} {deposit : DepositV5}
    (stepped : creditDeposit keccak256 input before deposit = .ok after) :
    Raises keccak256 input.policy deposit (creditedAmount input deposit) before after := by
  have unrefunded (consumed : deposit.refunded = false) :
      creditedAmount input deposit =
        deposit.amount.toNat - withheldFees input.admissions deposit := by
    rw [creditedAmount, if_neg (by rw [consumed]; decide)]
  cases creditDeposit_cases stepped with
  | refunded refunded same =>
    rw [creditedAmount, if_pos refunded]
    exact .nothing rfl same
  | usedUp consumed fees same =>
    rw [unrefunded consumed, fees, Nat.sub_self]
    exact .nothing rfl same
  | native consumed net positive fees asset ran =>
    rw [unrefunded consumed, ← fees, Nat.add_sub_cancel_left]
    exact .native asset (creditNative_balance ran) (creditNative_storageAt ran)
  | token consumed net positive fees asset ran =>
    obtain ⟨bound, found, storage⟩ := creditToken_storageAt ran
    rw [unrefunded consumed, ← fees, Nat.add_sub_cancel_left]
    exact .token asset bound found (creditToken_balance ran) storage

end Credit

/-! ### Pairs of assets and accounts -/

section Pairs

variable {keccak256 : Bytes → B256} {assets : List ExitAssetBindingV5}

theorem roomBalance_native {bound : ExitAssetBindingV5} (native : bound.kind = 0)
    (state : StateMap) (account : Address) :
    roomBalance keccak256 bound state account = state.nativeBalance account := by
  rw [roomBalance, holderBalance, if_pos native, StateMap.nativeBalance]

theorem roomBalance_token {bound : ExitAssetBindingV5} (token : bound.kind = 1)
    (state : StateMap) (account : Address) :
    roomBalance keccak256 bound state account =
      state.storageAt bound.token (mappingSlotV5 keccak256 account bound.balanceSlot) := by
  rw [roomBalance, holderBalance, if_neg (by rw [token]; decide)]

/-- The string a balance slot is hashed from. -/
def balanceSlotMessage (account : Address) (slot : U256) : Bytes :=
  wordBytes 32 (abiAddressWordV5 account) ++ wordBytes 32 slot

theorem balanceSlotMessage_injective {first second : Address} {firstSlot secondSlot : U256}
    (same : balanceSlotMessage first firstSlot = balanceSlotMessage second secondSlot) :
    first = second ∧ firstSlot = secondSlot := by
  obtain ⟨accounts, slots⟩ := List.append_inj same (by simp)
  exact ⟨abiAddressWordV5_injective (wordBytes_injective (by decide) accounts),
    wordBytes_injective (by decide) slots⟩

/-- The look-up of a credit finds the declared token asset. -/
theorem boundToken_declared {policy : ExecutionPolicyV5} {binding : ExitBindingV5}
    (bound : policy.exit = some binding) (checked : AssetsChecked binding.assets)
    {asset : ExitAssetBindingV5} (declared : asset ∈ binding.assets) (token : asset.kind = 1) :
    boundToken policy asset.asset = some asset := by
  have distinct := nodup_of_increasing checked.sorted
  rw [boundToken, bound, Option.bind_some]
  cases found : binding.assets.find? fun other =>
      other.asset == asset.asset && other.kind == 1 with
  | none =>
    have missed := List.find?_eq_none.mp found asset declared
    simp [token] at missed
  | some other =>
    have matched := List.find?_some found
    rw [Bool.and_eq_true, beq_iff_eq] at matched
    rw [List.inj_on_of_nodup_map distinct (List.mem_of_find?_eq_some found) declared matched.1]

/-- A credit raises the balance of one pair of asset and account and leaves those of all other
declared pairs alone, or two balance slots show a collision. -/
structure CreditSeparates (keccak256 : Bytes → B256) (assets : List ExitAssetBindingV5)
    (asset : ExitAssetBindingV5) (beneficiary : Address) (net : Nat) (before after : StateMap) :
    Prop where
  raised : (roomBalance keccak256 asset after beneficiary).toNat =
    (roomBalance keccak256 asset before beneficiary).toNat + net
  kept : ∀ other ∈ assets, ∀ account, (other.asset, account) ≠ (asset.asset, beneficiary) →
    roomBalance keccak256 other after account = roomBalance keccak256 other before account ∨
      Collides keccak256 [balanceSlotMessage beneficiary asset.balanceSlot,
        balanceSlotMessage account other.balanceSlot]

/-- A native credit separates. -/
theorem credit_native_separates (checked : AssetsChecked assets) {asset : ExitAssetBindingV5}
    {beneficiary : Address} {net : Nat} {before after : StateMap} (native : asset.kind = 0)
    (zero : asset.asset = 0)
    (balances : ∀ account, (after.nativeBalance account).toNat =
      (before.nativeBalance account).toNat + if beneficiary = account then net else 0)
    (storage : ∀ contract slot,
      after.storageAt contract slot = before.storageAt contract slot) :
    CreditSeparates keccak256 assets asset beneficiary net before after := by
  refine ⟨?_, fun other listed account different => .inl ?_⟩
  · rw [roomBalance_native native, roomBalance_native native, balances, if_pos rfl]
  · rcases checked.kinds other listed with ⟨otherNative, otherZero⟩ | ⟨token, -⟩
    · have elsewhere : beneficiary ≠ account := by
        rintro rfl
        exact different (by rw [otherZero, zero])
      rw [roomBalance_native otherNative, roomBalance_native otherNative]
      exact BitVec.eq_of_toNat_eq (by rw [balances, if_neg elsewhere, Nat.add_zero])
    · rw [roomBalance_token token, roomBalance_token token, storage]

/-- A token credit separates exactly when it credits nothing or no other declared asset has the
token and the balance slot of its asset. -/
theorem credit_token_separates_iff (checked : AssetsChecked assets) {asset : ExitAssetBindingV5}
    {beneficiary : Address} {net : Nat} {before after : StateMap} (token : asset.kind = 1)
    (balances : ∀ account, after.nativeBalance account = before.nativeBalance account)
    (storage : ∀ contract slot, (after.storageAt contract slot).toNat =
      (before.storageAt contract slot).toNat +
        if asset.token = contract ∧
            mappingSlotV5 keccak256 beneficiary asset.balanceSlot = slot then net
          else 0) :
    CreditSeparates keccak256 assets asset beneficiary net before after ↔
      net = 0 ∨ ∀ other ∈ assets, other.kind = 1 →
        (other.token, other.balanceSlot) = (asset.token, asset.balanceSlot) →
        other.asset = asset.asset := by
  constructor
  · intro separates
    by_cases nothing : net = 0
    · exact .inl nothing
    refine .inr fun other listed otherToken shared => ?_
    obtain ⟨sameToken, sameSlot⟩ := Prod.mk.inj shared
    by_contra different
    rcases separates.kept other listed beneficiary
      (fun same => different (congrArg Prod.fst same)) with unchanged | collides
    · rw [roomBalance_token otherToken, roomBalance_token otherToken] at unchanged
      have raised := storage other.token (mappingSlotV5 keccak256 beneficiary other.balanceSlot)
      rw [unchanged, if_pos ⟨sameToken.symm, by rw [sameSlot]⟩] at raised
      omega
    · rw [sameSlot] at collides
      obtain ⟨first, firstMember, second, secondMember, apart, -⟩ := collides
      simp only [List.mem_cons, List.not_mem_nil, or_false, or_self] at firstMember secondMember
      exact apart (firstMember.trans secondMember.symm)
  · intro alone
    refine ⟨?_, fun other listed account different => ?_⟩
    · rw [roomBalance_token token, roomBalance_token token, storage, if_pos ⟨rfl, rfl⟩]
    · rcases checked.kinds other listed with ⟨native, -⟩ | ⟨otherToken, -⟩
      · rw [roomBalance_native native, roomBalance_native native]
        exact .inl (balances account)
      · rw [roomBalance_token otherToken, roomBalance_token otherToken]
        by_cases aliased : asset.token = other.token ∧
            mappingSlotV5 keccak256 beneficiary asset.balanceSlot =
              mappingSlotV5 keccak256 account other.balanceSlot
        · by_cases sameMessage : balanceSlotMessage beneficiary asset.balanceSlot =
              balanceSlotMessage account other.balanceSlot
          · obtain ⟨sameAccount, sameSlot⟩ := balanceSlotMessage_injective sameMessage
            rcases alone with nothing | apart
            · refine .inl (BitVec.eq_of_toNat_eq ?_)
              rw [storage, nothing, ite_self, Nat.add_zero]
            · have sameAsset := apart other listed otherToken (by rw [aliased.1, sameSlot])
              exact absurd (by rw [sameAsset, sameAccount]) different
          · exact .inr ⟨_, List.mem_cons_self, _, List.mem_cons_of_mem _ List.mem_cons_self,
              sameMessage, aliased.2⟩
        · refine .inl (BitVec.eq_of_toNat_eq ?_)
          rw [storage, if_neg aliased, Nat.add_zero]

end Pairs

/-- Under a policy the constructor accepts, crediting one deposit of a declared asset separates
exactly when it credits nothing, the asset is native, or no other declared token asset has the
token and the balance slot of the asset. -/
theorem credit_separates_iff (primitives : Primitives) (policy : ExecutionPolicyV5)
    (expectedHash : B256) (activeMembers : BTreeSet Address) (opening : StateMap)
    (membershipChanged : Bool) (resolved : ExecutionPolicyV4)
    (built : ExecutionPolicyV4.fromV5 primitives policy expectedHash activeMembers opening
      membershipChanged = .ok resolved)
    (binding : ExitBindingV5) (bound : policy.exit = some binding)
    (asset : ExitAssetBindingV5) (declared : asset ∈ binding.assets) (deposit : DepositV5)
    (named : deposit.asset = asset.asset) (input : BatchInputV5)
    (samePolicy : input.policy = policy) (single : input.deposits = [deposit])
    (before after : StateMap)
    (credited : applyDepositCreditsV5 primitives.keccak256 input before = .ok after) :
    CreditSeparates primitives.keccak256 binding.assets asset deposit.beneficiary
        (creditedAmount input deposit) before after ↔
      creditedAmount input deposit = 0 ∨ asset.kind = 0 ∨
        ∀ other ∈ binding.assets, other.kind = 1 →
          (other.token, other.balanceSlot) = (asset.token, asset.balanceSlot) →
          other.asset = asset.asset := by
  have checked := (fromV5_spec built).exitAssets binding bound
  rw [applyDepositCreditsV5, single] at credited
  obtain ⟨next, stepped, last⟩ := foldlM_cons_eq_ok.mp credited
  rw [foldlM_nil_eq_ok.mp last] at stepped
  cases creditDeposit_raises stepped with
  | nothing zero same =>
    rw [zero, same]
    exact iff_of_true ⟨rfl, fun _ _ _ _ => .inl rfl⟩ (.inl rfl)
  | native zero balances storage =>
    rw [named] at zero
    rcases checked.kinds asset declared with ⟨native, -⟩ | ⟨-, nonzero⟩
    · exact iff_of_true (credit_native_separates checked native zero balances storage)
        (.inr (.inl native))
    · exact absurd zero nonzero
  | token nonzero found lookup balances storage =>
    rw [named] at nonzero lookup
    rcases checked.kinds asset declared with ⟨-, zero⟩ | ⟨token, -⟩
    · exact absurd zero nonzero
    · rw [samePolicy, boundToken_declared bound checked declared token] at lookup
      obtain rfl := Option.some.inj lookup
      rw [credit_token_separates_iff checked token balances storage, token]
      simp

/-- The opening state of the sample room. -/
def sampleOpening : Option StateMap :=
  (verifyCompactStateV4 samplePrimitives (sampleCompactState 0 sampleEmptyQueue)).toOption

theorem credit_separates_iff_sample :
    ∃ before after,
      applyDepositCreditsV5 sampleDigest sampleDepositBatch before = .ok after ∧
        CreditSeparates sampleDigest sampleQueueBinding.assets ⟨7, 1, 13, 0⟩ 3 5 before after := by
  have evaluated : (sampleOpening.any fun opening =>
      (ExecutionPolicyV4.fromV5 samplePrimitives samplePolicy
        (executionPolicyHashV5 sampleDigest samplePolicy) syntheticRoster opening
        false).toOption.isSome &&
      (applyDepositCreditsV5 sampleDigest sampleDepositBatch opening).toOption.isSome) = true := by
    decide +kernel
  obtain ⟨opening, -, both⟩ := (Option.any_eq_true _ _).mp evaluated
  rw [Bool.and_eq_true] at both
  obtain ⟨resolved, built⟩ := exists_eq_ok_of_isSome both.1
  obtain ⟨after, credited⟩ := exists_eq_ok_of_isSome both.2
  refine ⟨opening, after, credited, (credit_separates_iff samplePrimitives samplePolicy _ _ opening
    _ resolved built sampleQueueBinding rfl ⟨7, 1, 13, 0⟩ List.mem_cons_self _ rfl
    sampleDepositBatch rfl rfl opening after credited).mpr (.inr (.inr ?_))⟩
  decide

/-- The sample policy with a second asset in the token and the balance slot of the first. -/
def sampleAliasedPolicy : ExecutionPolicyV5 :=
  { samplePolicy with
    exit := some { sampleQueueBinding with assets := [⟨7, 1, 13, 0⟩, ⟨8, 1, 13, 0⟩] } }

/-- A deposit of one asset is credited in another one as well. -/
theorem credit_aliased :
    ∃ batch : AcceptedBatch sampleExternals,
      batch.input = sampleComposed { sampleDepositBatch with policy := sampleAliasedPolicy } ∧
        applyDepositCreditsV5 sampleDigest batch.input batch.opened.imported =
          .ok batch.opened.credited ∧
        (∃ deposit, batch.input.deposits = [deposit] ∧ deposit.asset = 7 ∧
          deposit.beneficiary = 3) ∧
        roomBalance sampleDigest ⟨8, 1, 13, 0⟩ batch.opened.imported 3 = 0 ∧
        roomBalance sampleDigest ⟨8, 1, 13, 0⟩ batch.opened.credited 3 = 5 ∧
        ¬ CreditSeparates sampleDigest [⟨7, 1, 13, 0⟩, ⟨8, 1, 13, 0⟩] ⟨7, 1, 13, 0⟩ 3 5
          batch.opened.imported batch.opened.credited := by
  obtain ⟨batch, same, composed, balances⟩ := exists_sampleBatch
    { sampleDepositBatch with policy := sampleAliasedPolicy }
    (fun opened _ => roomBalance sampleDigest ⟨8, 1, 13, 0⟩ opened.imported 3 == 0 &&
      roomBalance sampleDigest ⟨8, 1, 13, 0⟩ opened.credited 3 == 5) (by decide +kernel)
  rw [Bool.and_eq_true, beq_iff_eq, beq_iff_eq] at balances
  refine ⟨batch, same, (openBatch_spec batch.opens).credited,
    ⟨_, composed.deposits, rfl, rfl⟩, balances.1, balances.2, fun separates => ?_⟩
  rcases separates.kept ⟨8, 1, 13, 0⟩ (by decide) 3 (by decide) with unchanged | collides
  · rw [balances.1, balances.2] at unchanged
    exact absurd unchanged (by decide)
  · obtain ⟨first, firstMember, second, secondMember, apart, -⟩ := collides
    simp only [List.mem_cons, List.not_mem_nil, or_false, or_self] at firstMember secondMember
    exact apart (firstMember.trans secondMember.symm)

end Zkdeal

/-
This file is about the deposits a batch consumes: what is withheld from them, what
is credited to whom, and which of them are sure to be able to leave again.

The escrow accounting moves the whole amount of a deposit into control whatever
its asset; the credit is the step that asks for an asset the policy declares. It
asks only when there is a token balance to raise, so a native deposit and a
deposit its own admission fees use up pass without one.
-/

import Zkdeal.CloseSweep
import Zkdeal.Room.Batch

namespace Zkdeal

open Words Guard Accounting

/-! ### Fees -/

/-- The fees withheld from a deposit by the admissions that reference it. -/
def withheldFees (admissions : List AdmissionRecordV5) (deposit : DepositV5) : Nat :=
  ((admissions.filter fun record => record.receipt.depositInboxId = deposit.inboxId).map
    fun record => record.receipt.admissionFee.toNat).sum

theorem depositFees_eq {admissions : List AdmissionRecordV5} {deposit : DepositV5} {fees : U256}
    (computed : depositFees admissions deposit = .ok fees) :
    fees.toNat = withheldFees admissions deposit := by
  refine foldlM_invariant (fun consumed fees => fees.toNat = withheldFees consumed deposit)
    computed rfl ?_
  intro consumed record before after holds stepped
  unfold withheldFees at holds ⊢
  rw [List.filter_append, List.map_append, List.sum_append, ← holds]
  split at stepped
  · rename_i references
    have sum := checkedAdd_eq_some.mp (orRefuse_eq_ok.mp stepped)
    simp [references, sum]
  · rename_i other
    simp [other, ← Except.ok.inj stepped]

/-! ### Credits -/

/-- The deposit raises this balance slot: it is not refunded, it is in a token, its fees leave
something of it, and the slot is the one of its beneficiary in the bound token. -/
structure CreditsSlot (keccak256 : Bytes → B256) (input : BatchInputV5) (deposit : DepositV5)
    (contract : Address) (slot : U256) : Prop where
  consumed : deposit.refunded = false
  token : deposit.asset ≠ 0
  left : withheldFees input.admissions deposit < deposit.amount.toNat
  bound : ∃ bound, boundToken input.policy deposit.asset = some bound ∧ bound.token = contract ∧
    mappingSlotV5 keccak256 deposit.beneficiary bound.balanceSlot = slot

section Credit

variable {keccak256 : Bytes → B256} {input : BatchInputV5}

/-- A native credit touches no storage. -/
theorem creditNative_storageAt {state after : StateMap} {beneficiary : Address} {net : U256}
    (credited : creditNative state beneficiary net = .ok after) (contract : Address)
    (slot : U256) : after.storageAt contract slot = state.storageAt contract slot := by
  obtain ⟨-, credited⟩ := refuse_bind_eq_ok.mp credited
  obtain ⟨balance, -, credited⟩ := bind_eq_ok.mp credited
  rw [← pure_eq_ok.mp credited, StateMap.storageAt_insert]
  split
  · rename_i same
    rw [← same, StateMap.storageAt_eq_getD]
    rfl
  · rfl

/-- A token credit raises the balance slot of the beneficiary and touches no other slot. -/
theorem creditToken_storageAt {policy : ExecutionPolicyV5} {state after : StateMap}
    {deposit : DepositV5} {net : U256}
    (credited : creditToken keccak256 policy state deposit net = .ok after) :
    ∃ bound, boundToken policy deposit.asset = some bound ∧ ∀ contract slot,
      (after.storageAt contract slot).toNat = (state.storageAt contract slot).toNat +
        if bound.token = contract ∧
            mappingSlotV5 keccak256 deposit.beneficiary bound.balanceSlot = slot then net.toNat
          else 0 := by
  obtain ⟨bound, found, credited⟩ := bind_eq_ok.mp credited
  obtain ⟨current, read, credited⟩ := bind_eq_ok.mp credited
  obtain ⟨raised, added, credited⟩ := bind_eq_ok.mp credited
  obtain ⟨account, present, credited⟩ := bind_eq_ok.mp credited
  obtain ⟨-, read⟩ := refuse_bind_eq_ok.mp read
  refine ⟨bound, orRefuse_eq_ok.mp found, fun contract slot => ?_⟩
  have sum := checkedAdd_eq_some.mp (orRefuse_eq_ok.mp added)
  have stored := orRefuse_eq_ok.mp present
  rw [← pure_eq_ok.mp read] at sum
  rw [← pure_eq_ok.mp credited, StateMap.storageAt_insert]
  by_cases sameContract : bound.token = contract
  · subst sameContract
    rw [if_pos rfl]
    unfold AccountRecord.slot
    rw [Std.ExtTreeMap.getD_insert]
    by_cases sameSlot : mappingSlotV5 keccak256 deposit.beneficiary bound.balanceSlot = slot
    · subst sameSlot
      rw [if_pos (Std.compare_eq_iff_eq.mpr rfl), if_pos ⟨rfl, rfl⟩, sum]
    · rw [if_neg fun equal => sameSlot (Std.compare_eq_iff_eq.mp equal),
        if_neg fun both => sameSlot both.2, Nat.add_zero]
      unfold StateMap.storageAt
      rw [stored]
      rfl
  · rw [if_neg sameContract, if_neg fun both => sameContract both.1, Nat.add_zero]

/-- The ways a deposit is credited: not at all when it is refunded or its fees use it up, and
otherwise with what is left of it, natively or in a token. -/
inductive CreditCase (keccak256 : Bytes → B256) (input : BatchInputV5) (deposit : DepositV5)
    (before after : StateMap) : Prop
  | refunded (refunded : deposit.refunded = true) (same : after = before)
  | usedUp (consumed : deposit.refunded = false)
      (fees : withheldFees input.admissions deposit = deposit.amount.toNat)
      (same : after = before)
  | native (consumed : deposit.refunded = false) (net : U256) (positive : 0 < net.toNat)
      (fees : withheldFees input.admissions deposit + net.toNat = deposit.amount.toNat)
      (asset : deposit.asset = 0)
      (ran : creditNative before deposit.beneficiary net = .ok after)
  | token (consumed : deposit.refunded = false) (net : U256) (positive : 0 < net.toNat)
      (fees : withheldFees input.admissions deposit + net.toNat = deposit.amount.toNat)
      (asset : deposit.asset ≠ 0)
      (ran : creditToken keccak256 input.policy before deposit net = .ok after)

theorem creditDeposit_cases {before after : StateMap} {deposit : DepositV5}
    (stepped : creditDeposit keccak256 input before deposit = .ok after) :
    CreditCase keccak256 input deposit before after := by
  unfold creditDeposit at stepped
  cases consumed : deposit.refunded with
  | true =>
    rw [if_pos consumed] at stepped
    exact .refunded consumed (Except.ok.inj stepped).symm
  | false =>
    rw [if_neg (by rw [consumed]; decide)] at stepped
    obtain ⟨fees, computed, stepped⟩ := bind_eq_ok.mp stepped
    obtain ⟨net, subtracted, stepped⟩ := bind_eq_ok.mp stepped
    have split := checkedSub_eq_some.mp (orRefuse_eq_ok.mp subtracted)
    rw [depositFees_eq computed] at split
    by_cases zero : net = 0
    · rw [if_pos zero] at stepped
      rw [zero, toNat_eq_zero.mpr rfl, Nat.add_zero] at split
      exact .usedUp consumed split.symm (pure_eq_ok.mp stepped).symm
    · have positive : 0 < net.toNat := Nat.pos_of_ne_zero (mt toNat_eq_zero.mp zero)
      rw [if_neg zero] at stepped
      by_cases native : deposit.asset = 0
      · rw [if_pos native] at stepped
        exact .native consumed net positive split.symm native stepped
      · rw [if_neg native] at stepped
        exact .token consumed net positive split.symm native stepped

/-- What the credit of one deposit does to the state, and what it asks for. -/
structure Credited (keccak256 : Bytes → B256) (input : BatchInputV5) (deposit : DepositV5)
    (before after : StateMap) : Prop where
  fees : deposit.refunded = false →
    withheldFees input.admissions deposit ≤ deposit.amount.toNat
  binding : deposit.refunded = false → deposit.asset ≠ 0 →
    withheldFees input.admissions deposit < deposit.amount.toNat →
    ∃ bound, boundToken input.policy deposit.asset = some bound
  raised : ∀ contract slot, CreditsSlot keccak256 input deposit contract slot →
    (before.storageAt contract slot).toNat < (after.storageAt contract slot).toNat
  kept : ∀ contract slot, ¬ CreditsSlot keccak256 input deposit contract slot →
    after.storageAt contract slot = before.storageAt contract slot

theorem creditDeposit_spec {before after : StateMap} {deposit : DepositV5}
    (stepped : creditDeposit keccak256 input before deposit = .ok after) :
    Credited keccak256 input deposit before after := by
  cases creditDeposit_cases stepped with
  | refunded refunded same =>
    have never (consumed : deposit.refunded = false) : False :=
      Bool.false_ne_true (consumed.symm.trans refunded)
    exact ⟨fun consumed => (never consumed).elim, fun consumed => (never consumed).elim,
      fun _ _ credits => (never credits.consumed).elim, fun _ _ _ => by rw [same]⟩
  | usedUp consumed fees same =>
    exact ⟨fun _ => fees.le, fun _ _ left => absurd fees left.ne,
      fun _ _ credits => absurd fees credits.left.ne, fun _ _ _ => by rw [same]⟩
  | native consumed net positive fees asset ran =>
    exact ⟨fun _ => Nat.le.intro fees, fun _ token => absurd asset token,
      fun _ _ credits => absurd asset credits.token,
      fun contract slot _ => creditNative_storageAt ran contract slot⟩
  | token consumed net positive fees asset ran =>
    obtain ⟨bound, found, values⟩ := creditToken_storageAt ran
    refine ⟨fun _ => Nat.le.intro fees, fun _ _ _ => ⟨bound, found⟩,
      fun contract slot credits => ?_, fun contract slot other => ?_⟩
    · obtain ⟨same, sameFound, here⟩ := credits.bound
      obtain rfl := Option.some.inj (sameFound.symm.trans found)
      rw [values contract slot, if_pos here]
      exact Nat.lt_add_of_pos_right positive
    · refine BitVec.eq_of_toNat_eq ?_
      rw [values contract slot, if_neg, Nat.add_zero]
      exact fun here => other ⟨consumed, asset, fees ▸ Nat.lt_add_of_pos_right positive,
        bound, found, here⟩

/-- The credits of a batch raise exactly the slots some deposit credits. -/
theorem applyDepositCreditsV5_storageAt {before after : StateMap}
    (credited : applyDepositCreditsV5 keccak256 input before = .ok after) (contract : Address)
    (slot : U256) :
    ((∃ deposit ∈ input.deposits, CreditsSlot keccak256 input deposit contract slot) →
      (before.storageAt contract slot).toNat < (after.storageAt contract slot).toNat) ∧
      ((¬ ∃ deposit ∈ input.deposits, CreditsSlot keccak256 input deposit contract slot) →
        after.storageAt contract slot = before.storageAt contract slot) := by
  refine foldlM_invariant (fun consumed state =>
    ((∃ deposit ∈ consumed, CreditsSlot keccak256 input deposit contract slot) →
      (before.storageAt contract slot).toNat < (state.storageAt contract slot).toNat) ∧
      ((¬ ∃ deposit ∈ consumed, CreditsSlot keccak256 input deposit contract slot) →
        state.storageAt contract slot = before.storageAt contract slot)) credited
    ⟨fun ⟨_, member, _⟩ => absurd member List.not_mem_nil, fun _ => rfl⟩ ?_
  intro consumed deposit state next holds stepped
  have spec := creditDeposit_spec stepped
  simp only [List.mem_append, List.mem_singleton, or_and_right, exists_or, exists_eq_left]
  by_cases here : CreditsSlot keccak256 input deposit contract slot
  · have raised := spec.raised contract slot here
    refine ⟨fun _ => ?_, fun none => absurd (Or.inr here) none⟩
    by_cases earlier : ∃ other ∈ consumed, CreditsSlot keccak256 input other contract slot
    · exact (holds.1 earlier).trans raised
    · rwa [holds.2 earlier] at raised
  · rw [spec.kept contract slot here]
    simpa only [here, or_false] using holds

/-- A deposit that leaves a token balance behind names a declared asset. -/
theorem applyDepositCreditsV5_declared {before after : StateMap} {binding : ExitBindingV5}
    (bound : input.policy.exit = some binding)
    (credited : applyDepositCreditsV5 keccak256 input before = .ok after) :
    ∀ deposit ∈ input.deposits, deposit.refunded = false → deposit.asset ≠ 0 →
      withheldFees input.admissions deposit ≠ deposit.amount.toNat →
      Declared binding deposit.asset := by
  refine foldlM_forall credited fun deposit before after stepped consumed token partly => ?_
  have spec := creditDeposit_spec stepped
  obtain ⟨found, lookup⟩ := spec.binding consumed token
    (lt_of_le_of_ne (spec.fees consumed) partly)
  rw [boundToken, bound, Option.bind_some] at lookup
  have matched := List.find?_some lookup
  rw [Bool.and_eq_true, beq_iff_eq] at matched
  exact ⟨found, List.mem_of_find?_eq_some lookup, matched.1⟩

end Credit

/-! ### Deposits that can leave -/

/-- A validity-only batch consumes declared assets only, exactly when that holds of the
deposits its credits do not look up: the native ones and those their fees use up. -/
theorem deposits_declared_iff {externals : Externals} (batch : AcceptedBatch externals)
    (validityOnly : batch.input.journal.authorizationMode = 1) :
    ∃ binding, batch.input.policy.exit = some binding ∧
      ((∀ deposit ∈ batch.input.deposits, deposit.refunded = false →
          Declared binding deposit.asset) ↔
        ∀ deposit ∈ batch.input.deposits, deposit.refunded = false →
          deposit.asset = 0 ∨
            withheldFees batch.input.admissions deposit = deposit.amount.toNat →
          Declared binding deposit.asset) := by
  have opens := openBatch_spec batch.opens
  obtain ⟨binding, bound⟩ := validateLiabilitiesV5_bound opens.liabilities validityOnly
  refine ⟨binding, bound, fun declared deposit member consumed _ =>
    declared deposit member consumed, fun uncredited deposit member consumed => ?_⟩
  by_cases skipped : deposit.asset = 0 ∨
      withheldFees batch.input.admissions deposit = deposit.amount.toNat
  · exact uncredited deposit member consumed skipped
  · rw [not_or] at skipped
    exact applyDepositCreditsV5_declared bound opens.credited deposit member consumed skipped.1
      skipped.2

/-- The sample batch with a deposit of the declared asset. -/
def sampleDepositBatch : BatchInputV5 :=
  { sampleExitBatch with
    preLiabilities := [⟨7, 5, 10, 0, 0⟩]
    postLiabilities := [⟨7, 0, 14, 1, 0⟩]
    deposits := [⟨1, 3, 3, 7, 5, 1, false, false⟩] }

theorem deposits_declared_iff_sample :
    ∃ batch : AcceptedBatch sampleExternals, batch.input = sampleComposed sampleDepositBatch ∧
      ∀ deposit ∈ batch.input.deposits, deposit.refunded = false →
        Declared sampleQueueBinding deposit.asset := by
  obtain ⟨batch, same, composed, -⟩ := exists_sampleBatch sampleDepositBatch (fun _ _ => true)
    (by decide +kernel)
  obtain ⟨binding, bound, declared⟩ := deposits_declared_iff batch composed.authorizationMode
  rw [composed.policy] at bound
  obtain rfl : sampleQueueBinding = binding := Option.some.inj bound
  refine ⟨batch, same, declared.mpr ?_⟩
  rw [composed.deposits, composed.admissions]
  decide

/-- The sample batch with a native deposit and one of an unknown asset, which the fee of the
admission that references it uses up. -/
def sampleStrandedBatch : BatchInputV5 :=
  let spent : DepositV5 := ⟨2, 3, 3, 8, 6, 1, false, false⟩
  let transactionHash := sampleDigest (sampleCall 0 3 7 1)
  { sampleExitBatch with
    preLiabilities := [⟨0, 5, 0, 0, 0⟩, ⟨7, 0, 10, 0, 0⟩, ⟨8, 6, 0, 0, 0⟩]
    postLiabilities := [⟨0, 0, 5, 0, 0⟩, ⟨7, 0, 9, 1, 0⟩, ⟨8, 0, 6, 0, 0⟩]
    deposits := [⟨1, 3, 3, 0, 5, 1, false, false⟩, spent]
    admissions := [⟨⟨1, transactionHash, 2, depositContentHashV5 sampleDigest spent, 1, 2, 0, 6,
      List.replicate 65 0⟩, ⟨1, transactionHash, 0, 1, 0, 0⟩⟩] }

/-- Both deposits of the batch are consumed and neither can be paid out again. -/
theorem deposits_stranded :
    ∃ batch : AcceptedBatch sampleExternals, batch.input = sampleComposed sampleStrandedBatch ∧
      batch.input.journal.authorizationMode = 1 ∧
      batch.input.policy.exit = some sampleQueueBinding ∧
      batch.input.deposits.length = 2 ∧
      ∀ deposit ∈ batch.input.deposits, deposit.refunded = false ∧
        ¬ Declared sampleQueueBinding deposit.asset := by
  obtain ⟨batch, same, composed, -⟩ := exists_sampleBatch sampleStrandedBatch (fun _ _ => true)
    (by decide +kernel)
  refine ⟨batch, same, ?_⟩
  rw [composed.authorizationMode, composed.policy, composed.deposits]
  decide

end Zkdeal

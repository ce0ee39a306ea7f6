/-
This file is the closed form of the deposit credits of a batch.

The credits are applied deposit by deposit, each net of the fees of all admissions
that reference it. Several deposits may raise the same balance; what comes out is
the sum over all of them, native and token balances apart, and nothing else in the
state changes. As the deposits have different inbox identities, every fee is
withheld from one deposit only, so that credits and fees together are the value the
deposits brought in.
-/

import Zkdeal.AssetSeparation

namespace Zkdeal

open Words Guard Accounting

/-! ### What one deposit is worth to a balance -/

/-- What a deposit adds to the native balance of an account. -/
def nativeCredit (input : BatchInputV5) (account : Address) (deposit : DepositV5) : Nat :=
  if deposit.asset = 0 ∧ deposit.beneficiary = account then creditedAmount input deposit else 0

/-- What a deposit adds to a storage slot: the balance slot of its beneficiary in the token the
policy binds to its asset. -/
def tokenCredit (keccak256 : Bytes → B256) (input : BatchInputV5) (contract : Address)
    (slot : U256) (deposit : DepositV5) : Nat :=
  match boundToken input.policy deposit.asset with
  | some bound =>
    if deposit.asset ≠ 0 ∧ bound.token = contract ∧
        mappingSlotV5 keccak256 deposit.beneficiary bound.balanceSlot = slot then
      creditedAmount input deposit
    else 0
  | none => 0

/-- What credits leave alone: the nonce and the code of every account. -/
structure StateMap.SameIdentities (before after : StateMap) : Prop where
  nonce : ∀ account, (after.accounts.getD account default).nonce =
    (before.accounts.getD account default).nonce
  code : ∀ account, (after.accounts.getD account default).code =
    (before.accounts.getD account default).code
  rest : after = { before with accounts := after.accounts }

theorem StateMap.SameIdentities.refl (state : StateMap) : state.SameIdentities state :=
  ⟨fun _ => rfl, fun _ => rfl, rfl⟩

theorem StateMap.SameIdentities.trans {first second third : StateMap}
    (left : first.SameIdentities second) (right : second.SameIdentities third) :
    first.SameIdentities third := by
  refine ⟨fun account => (right.nonce account).trans (left.nonce account),
    fun account => (right.code account).trans (left.code account), ?_⟩
  rw [right.rest, left.rest]

/-- A record that is replaced by one with the same nonce and code keeps all identities. -/
theorem StateMap.sameIdentities_insert {state : StateMap} {address : Address}
    {account : AccountRecord} (nonce : account.nonce = (state.accounts.getD address default).nonce)
    (code : account.code = (state.accounts.getD address default).code) :
    state.SameIdentities { state with accounts := state.accounts.insert address account } := by
  have lookup : ∀ other, (state.accounts.insert address account).getD other default =
      if address = other then account else state.accounts.getD other default := by
    intro other
    rw [Std.ExtTreeMap.getD_insert]
    by_cases same : address = other
    · rw [if_pos (Std.compare_eq_iff_eq.mpr same), if_pos same]
    · rw [if_neg (mt Std.compare_eq_iff_eq.mp same), if_neg same]
  refine ⟨fun other => ?_, fun other => ?_, rfl⟩
  · dsimp only
    rw [lookup other]
    split
    · rename_i same
      rw [nonce, same]
    · rfl
  · dsimp only
    rw [lookup other]
    split
    · rename_i same
      rw [code, same]
    · rfl

section Steps

variable {keccak256 : Bytes → B256} {input : BatchInputV5}

theorem creditNative_identities {state after : StateMap} {beneficiary : Address} {net : U256}
    (credited : creditNative state beneficiary net = .ok after) : state.SameIdentities after := by
  obtain ⟨-, credited⟩ := refuse_bind_eq_ok.mp credited
  obtain ⟨balance, -, credited⟩ := bind_eq_ok.mp credited
  rw [← pure_eq_ok.mp credited]
  exact StateMap.sameIdentities_insert rfl rfl

theorem creditToken_identities {policy : ExecutionPolicyV5} {state after : StateMap}
    {deposit : DepositV5} {net : U256}
    (credited : creditToken keccak256 policy state deposit net = .ok after) :
    state.SameIdentities after := by
  obtain ⟨bound, -, credited⟩ := bind_eq_ok.mp credited
  obtain ⟨current, -, credited⟩ := bind_eq_ok.mp credited
  obtain ⟨raised, -, credited⟩ := bind_eq_ok.mp credited
  obtain ⟨token, present, credited⟩ := bind_eq_ok.mp credited
  have stored : state.accounts.getD bound.token default = token := by
    rw [Std.ExtTreeMap.getD_eq_getD_getElem?, orRefuse_eq_ok.mp present]
    rfl
  rw [← pure_eq_ok.mp credited]
  exact StateMap.sameIdentities_insert (by rw [stored]) (by rw [stored])

/-- The credit of one deposit raises its balance, withholds no more than the deposit brought,
and leaves everything else alone. -/
structure CreditsDeposit (keccak256 : Bytes → B256) (input : BatchInputV5) (deposit : DepositV5)
    (before after : StateMap) : Prop where
  native : ∀ account, (after.nativeBalance account).toNat =
    (before.nativeBalance account).toNat + nativeCredit input account deposit
  token : ∀ contract slot, (after.storageAt contract slot).toNat =
    (before.storageAt contract slot).toNat + tokenCredit keccak256 input contract slot deposit
  identities : before.SameIdentities after
  covered : deposit.refunded = false →
    withheldFees input.admissions deposit ≤ deposit.amount.toNat

theorem creditDeposit_credits {before after : StateMap} {deposit : DepositV5}
    (stepped : creditDeposit keccak256 input before deposit = .ok after) :
    CreditsDeposit keccak256 input deposit before after := by
  have identities : before.SameIdentities after := by
    cases creditDeposit_cases stepped with
    | refunded refunded same => exact same ▸ StateMap.SameIdentities.refl _
    | usedUp consumed fees same => exact same ▸ StateMap.SameIdentities.refl _
    | native consumed net positive fees asset ran => exact creditNative_identities ran
    | token consumed net positive fees asset ran => exact creditToken_identities ran
  have covered := (creditDeposit_spec stepped).fees
  cases creditDeposit_raises stepped with
  | nothing zero same =>
    subst same
    refine ⟨fun account => ?_, fun contract slot => ?_, identities, covered⟩
    · rw [nativeCredit, zero, ite_self, Nat.add_zero]
    · unfold tokenCredit
      cases boundToken input.policy deposit.asset with
      | none => rfl
      | some bound =>
        dsimp only
        rw [zero, ite_self, Nat.add_zero]
  | native asset balances storage =>
    refine ⟨fun account => ?_, fun contract slot => ?_, identities, covered⟩
    · rw [balances account, nativeCredit]
      simp only [asset, true_and]
    · rw [storage contract slot, tokenCredit]
      cases boundToken input.policy deposit.asset with
      | none => rfl
      | some bound =>
        dsimp only
        rw [if_neg fun claims => claims.1 asset, Nat.add_zero]
  | token asset bound found balances storage =>
    refine ⟨fun account => ?_, fun contract slot => ?_, identities, covered⟩
    · rw [balances account, nativeCredit, if_neg fun claims => asset claims.1, Nat.add_zero]
    · rw [storage contract slot, tokenCredit, found]
      simp only [ne_eq, asset, not_false_eq_true, true_and]

end Steps

/-! ### Fees -/

/-- The deposits of an asset that a batch consumes. -/
def consumedOf (asset : Address) (deposits : List DepositV5) : List DepositV5 :=
  deposits.filter fun deposit => !deposit.refunded && deposit.asset == asset

/-- The receipt references one of these deposits. -/
def references (deposits : List DepositV5) (record : AdmissionRecordV5) : Bool :=
  deposits.any fun deposit => record.receipt.depositInboxId == deposit.inboxId

/-- The fees of the admissions that reference one of these deposits, each counted once. -/
def referencedFees (admissions : List AdmissionRecordV5) (deposits : List DepositV5) : Nat :=
  ((admissions.filter (references deposits)).map fun record =>
    record.receipt.admissionFee.toNat).sum

/-- With different identities every fee is withheld from one deposit only. -/
theorem sum_withheldFees (admissions : List AdmissionRecordV5) {deposits : List DepositV5}
    (distinct : (deposits.map DepositV5.inboxId).Nodup) :
    (deposits.map (withheldFees admissions)).sum = referencedFees admissions deposits := by
  induction deposits with
  | nil =>
    have none : admissions.filter (references []) = [] := List.filter_eq_nil_iff.mpr nofun
    rw [referencedFees, none]
    rfl
  | cons deposit rest inductionHypothesis =>
    rw [List.map_cons, List.nodup_cons] at distinct
    rw [List.map_cons, List.sum_cons, inductionHypothesis distinct.2]
    unfold withheldFees referencedFees
    clear inductionHypothesis
    induction admissions with
    | nil => rfl
    | cons record others inductionHypothesis =>
      have first : references (deposit :: rest) record =
          (decide (record.receipt.depositInboxId = deposit.inboxId) || references rest record) := by
        rw [references, List.any_cons]
        rfl
      rw [List.filter_cons, List.filter_cons, List.filter_cons, first]
      by_cases here : record.receipt.depositInboxId = deposit.inboxId
      · have elsewhere : references rest record = false := by
          rw [references, List.any_eq_false]
          intro other listed same
          rw [beq_iff_eq] at same
          exact distinct.1 (List.mem_map.mpr ⟨other, listed, same.symm.trans here⟩)
        simp only [here, elsewhere, decide_true, Bool.or_false, if_true, Bool.false_eq_true,
          if_false, List.map_cons, List.sum_cons]
        omega
      · simp only [here, decide_false, Bool.false_or, Bool.false_eq_true, if_false]
        cases references rest record with
        | false =>
          simp only [Bool.false_eq_true, if_false]
          exact inductionHypothesis
        | true =>
          simp only [if_true, List.map_cons, List.sum_cons]
          omega

/-! ### The closed form -/

section Run

variable {keccak256 : Bytes → B256} {input : BatchInputV5}

/-- The credits of some deposits, one after the other. -/
theorem creditDeposits_sum {deposits : List DepositV5} {before after : StateMap}
    (credited : deposits.foldlM (creditDeposit keccak256 input) before = .ok after) :
    (∀ account, (after.nativeBalance account).toNat = (before.nativeBalance account).toNat +
        (deposits.map (nativeCredit input account)).sum) ∧
      (∀ contract slot, (after.storageAt contract slot).toNat =
        (before.storageAt contract slot).toNat +
          (deposits.map (tokenCredit keccak256 input contract slot)).sum) ∧
      before.SameIdentities after := by
  induction deposits generalizing before with
  | nil =>
    rw [foldlM_nil_eq_ok] at credited
    rw [credited]
    exact ⟨fun _ => rfl, fun _ _ => rfl, .refl _⟩
  | cons deposit rest inductionHypothesis =>
    obtain ⟨next, stepped, remaining⟩ := foldlM_cons_eq_ok.mp credited
    have step := creditDeposit_credits stepped
    obtain ⟨natives, tokens, identities⟩ := inductionHypothesis remaining
    refine ⟨fun account => ?_, fun contract slot => ?_, step.identities.trans identities⟩
    · rw [natives account, step.native account, List.map_cons, List.sum_cons, Nat.add_assoc]
    · rw [tokens contract slot, step.token contract slot, List.map_cons, List.sum_cons,
        Nat.add_assoc]

end Run

/-- Deposit credit exactness. Every native balance and every token slot rises by the net value
of the deposits that name it, nothing else changes, and for every asset the credits and the
fees withheld are what the consumed deposits brought in. -/
theorem depositCredits_exact (keccak256 : Bytes → B256) (input : BatchInputV5)
    (before after : StateMap)
    (credited : applyDepositCreditsV5 keccak256 input before = .ok after) :
    (∀ account, (after.nativeBalance account).toNat = (before.nativeBalance account).toNat +
        (input.deposits.map (nativeCredit input account)).sum) ∧
      (∀ contract slot, (after.storageAt contract slot).toNat =
        (before.storageAt contract slot).toNat +
          (input.deposits.map (tokenCredit keccak256 input contract slot)).sum) ∧
      before.SameIdentities after ∧
      (∀ deposit ∈ input.deposits, deposit.refunded = false →
        creditedAmount input deposit + withheldFees input.admissions deposit =
          deposit.amount.toNat) ∧
      ((input.deposits.map DepositV5.inboxId).Nodup → ∀ asset,
        ((consumedOf asset input.deposits).map (creditedAmount input)).sum +
            referencedFees input.admissions (consumedOf asset input.deposits) =
          ((consumedOf asset input.deposits).map fun deposit => deposit.amount.toNat).sum) := by
  obtain ⟨natives, tokens, identities⟩ := creditDeposits_sum credited
  have netted : ∀ deposit ∈ input.deposits, deposit.refunded = false →
      creditedAmount input deposit + withheldFees input.admissions deposit =
        deposit.amount.toNat := by
    refine foldlM_forall credited fun deposit before after stepped consumed => ?_
    rw [creditedAmount, if_neg (by rw [consumed]; decide)]
    exact Nat.sub_add_cancel ((creditDeposit_credits stepped).covered consumed)
  refine ⟨natives, tokens, identities, netted, fun distinct asset => ?_⟩
  have kept : (consumedOf asset input.deposits).Sublist input.deposits := List.filter_sublist
  rw [← sum_withheldFees input.admissions (distinct.sublist (kept.map _)), ← List.sum_map_add]
  refine congrArg List.sum (List.map_congr_left fun deposit member => ?_)
  obtain ⟨listed, counts⟩ := List.mem_filter.mp member
  rw [Bool.and_eq_true, Bool.not_eq_true'] at counts
  exact netted deposit listed counts.1

/-- Two native deposits for one account, a fee of two on the second, and a token deposit. -/
def sampleCreditBatch : BatchInputV5 :=
  { sampleDepositBatch with
    deposits := [⟨1, 3, 3, 0, 5, 1, false, false⟩, ⟨2, 3, 3, 0, 6, 1, false, false⟩,
      ⟨3, 3, 4, 7, 9, 1, false, false⟩, ⟨4, 3, 4, 7, 8, 1, false, true⟩]
    admissions := [⟨⟨1, 0, 2, 0, 1, 2, 0, 2, []⟩, ⟨1, 0, 0, 1, 0, 0⟩⟩] }

/-- A room with one member and the declared token. -/
def sampleCreditState : StateMap :=
  let accounts : List (Address × AccountRecord) := [(3, ⟨7, 1, [], ∅⟩), (13, ⟨1, 0, [13], ∅⟩)]
  let storage : List (Address × BTreeSet U256) :=
    [(13, .ofList [mappingSlotV5 sampleDigest 4 0])]
  .fromCompact (.ofList accounts) (.ofList (accounts.map Prod.fst)) (.ofList storage)

theorem depositCredits_exact_sample :
    ∃ after, applyDepositCreditsV5 sampleDigest sampleCreditBatch sampleCreditState = .ok after ∧
      (after.nativeBalance 3).toNat = 1 + (5 + (6 - 2)) ∧
      (after.storageAt 13 (mappingSlotV5 sampleDigest 4 0)).toNat = 9 := by
  obtain ⟨after, credited⟩ : ∃ after,
      applyDepositCreditsV5 sampleDigest sampleCreditBatch sampleCreditState = .ok after :=
    exists_eq_ok_of_isSome (by decide +kernel)
  obtain ⟨natives, tokens, -⟩ :=
    depositCredits_exact sampleDigest sampleCreditBatch sampleCreditState after credited
  refine ⟨after, credited, ?_, ?_⟩
  · rw [natives 3]
    decide +kernel
  · rw [tokens 13]
    decide +kernel

end Zkdeal

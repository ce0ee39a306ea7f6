/-
This file is about the close of a room: what the sweep pays out in total, and why a
close leaves nothing behind.

The sweep shares the residual of every declared asset exactly: floors of the
pro-rata shares and the dust add up to it. The residual is computed in one module
over deposit and record totals, the liabilities in another over deposit and
withdrawal totals; a batch both accept has the same residual, so a declared asset
ends with nothing in control.
-/

import Zkdeal.Escrow
import Zkdeal.SweepShares

namespace Zkdeal

open Words Guard Accounting

@[simp]
theorem exitAmounts_append (first second : List ExitRecordV5) :
    exitAmounts (first ++ second) = exitAmounts first ++ exitAmounts second :=
  List.map_append

/-- Leaves in one asset pay what they pay in that asset. -/
theorem sumOf_exitAmounts {own : Address} {leaves : List ExitRecordV5}
    (same : ∀ leaf ∈ leaves, leaf.asset = own) (asset : Address) :
    sumOf asset (exitAmounts leaves) = if own = asset then paid (payouts leaves) else 0 := by
  induction leaves with
  | nil => simp [exitAmounts, payouts, paid]
  | cons leaf rest inductionHypothesis =>
    obtain ⟨here, others⟩ := List.forall_mem_cons.mp same
    have split : exitAmounts (leaf :: rest) = (leaf.asset, leaf.amount) :: exitAmounts rest := rfl
    rw [split, sumOf_cons, inductionHypothesis others, here]
    by_cases named : own = asset
    · rw [if_pos named, if_pos named, if_pos named]
      rfl
    · rw [if_neg named, if_neg named, if_neg named]

/-! ### What the sweep pays out -/

section Payout

variable {keccak256 : Bytes → B256}

/-- The sweep pays the residual of an asset once for every time the asset is declared. -/
theorem deriveCloseSweepV5_sum {binding : ExitBindingV5} {terminal : StateMap}
    {residuals : BTreeMap Address U256} {leaves : List ExitRecordV5}
    (swept : deriveCloseSweepV5 keccak256 binding terminal residuals = .ok leaves)
    (asset : Address) :
    sumOf asset (exitAmounts leaves) =
      (binding.assets.countP fun bound => bound.asset = asset) *
        (residuals.getD asset 0).toNat := by
  obtain ⟨lists, mapped, flattened⟩ := bind_eq_ok.mp swept
  rw [← pure_eq_ok.mp flattened]
  clear swept flattened
  have pairwise := mapM_eq_ok.mp mapped
  clear mapped
  generalize binding.assets = assets at pairwise
  induction pairwise with
  | nil => simp [exitAmounts]
  | @cons bound list assets lists head tail inductionHypothesis =>
    have here : sumOf asset (exitAmounts list) =
        if bound.asset = asset then (residuals.getD asset 0).toNat else 0 := by
      obtain ⟨empty, sweeps⟩ := sweepBoundAsset_spec head
      by_cases zero : residuals.getD bound.asset 0 = 0
      · rw [empty zero]
        by_cases same : bound.asset = asset
        · rw [if_pos same, ← same, zero]
          rfl
        · rw [if_neg same]
          rfl
      · rw [sumOf_exitAmounts (sweeps zero).asset, (sweeps zero).sum]
        by_cases same : bound.asset = asset
        · rw [if_pos same, if_pos same, same]
        · rw [if_neg same, if_neg same]
    rw [List.flatten_cons, exitAmounts_append, sumOf_append, inductionHypothesis, here,
      List.countP_cons]
    by_cases same : bound.asset = asset
    · simp only [same, if_true, decide_true]
      ring
    · simp [same]

end Payout

/-! ### The residual of an asset -/

/-- The residual of every listed asset is what the deposits add and the records take. -/
theorem addResiduals_spec {consumed recorded start finish : BTreeMap Address U256}
    {liabilities : List AssetLiabilityV5}
    (sorted : (assetsOf liabilities).Pairwise (· < ·))
    (fresh : ∀ asset ∈ assetsOf liabilities, start.getD asset 0 = 0)
    (ran : liabilities.foldlM (addResidual consumed recorded) start = .ok finish) :
    (∀ pre ∈ liabilities,
      pre.controlled.toNat + (consumed.getD pre.asset 0).toNat =
        (recorded.getD pre.asset 0).toNat + (finish.getD pre.asset 0).toNat) ∧
      ∀ asset ∉ assetsOf liabilities, finish.getD asset 0 = start.getD asset 0 := by
  induction liabilities generalizing start with
  | nil =>
    rw [foldlM_nil_eq_ok] at ran
    exact ⟨fun pre member => absurd member List.not_mem_nil, fun asset _ => by rw [ran]⟩
  | cons pre rest inductionHypothesis =>
    obtain ⟨later, restSorted⟩ := List.pairwise_cons.mp sorted
    obtain ⟨next, stepped, remaining⟩ := foldlM_cons_eq_ok.mp ran
    obtain ⟨available, added, stepped⟩ := bind_eq_ok.mp stepped
    obtain ⟨residual, taken, stepped⟩ := bind_eq_ok.mp stepped
    have availableValue := checkedAdd_eq_some.mp (orRefuse_eq_ok.mp added)
    have residualValue := checkedSub_eq_some.mp (orRefuse_eq_ok.mp taken)
    have own : next.getD pre.asset 0 = residual := by
      rw [← pure_eq_ok.mp stepped]
      split
      · rename_i zero
        rw [fresh pre.asset List.mem_cons_self, zero]
      · exact Std.ExtTreeMap.getD_insert_self
    have others : ∀ asset, asset ≠ pre.asset → next.getD asset 0 = start.getD asset 0 := by
      intro asset different
      rw [← pure_eq_ok.mp stepped]
      split
      · rfl
      · rw [Std.ExtTreeMap.getD_insert, if_neg]
        intro same
        exact different (Std.compare_eq_iff_eq.mp same).symm
    have absent : pre.asset ∉ assetsOf rest := fun member =>
      absurd (later pre.asset member) (BitVec.lt_irrefl _)
    obtain ⟨listed, unlisted⟩ := inductionHypothesis restSorted (fun asset member => by
      rw [others asset fun same => absent (same ▸ member)]
      exact fresh asset (List.mem_cons_of_mem _ member)) remaining
    refine ⟨fun liability member => ?_, fun asset outside => ?_⟩
    · rcases List.mem_cons.mp member with rfl | member
      · rw [unlisted _ absent, own]
        omega
      · exact listed liability member
    · rw [assetsOf, List.map_cons, List.mem_cons, not_or] at outside
      rw [unlisted asset outside.2, others asset outside.1]

/-- The residual of a listed asset, in terms of the batch alone. -/
theorem closeResiduals_spec {input : BatchInputV5} {records : List ExitRecordV5}
    {residuals : BTreeMap Address U256}
    (sorted : (assetsOf input.preLiabilities).Pairwise (· < ·))
    (ran : closeResiduals input records = .ok residuals) :
    ∀ pre ∈ input.preLiabilities,
      pre.controlled.toNat + sumOf pre.asset (consumedDeposits input.deposits) =
        sumOf pre.asset (exitAmounts records) + (residuals.getD pre.asset 0).toNat := by
  obtain ⟨consumed, consumedRan, ran⟩ := bind_eq_ok.mp ran
  obtain ⟨recorded, recordedRan, ran⟩ := bind_eq_ok.mp ran
  have consumedTotals := accumulateTotals_represents consumedRan
  have recordedTotals := accumulateTotals_represents recordedRan
  obtain ⟨listed, -⟩ := addResiduals_spec sorted
    (fun asset _ => Std.ExtTreeMap.getD_empty) ran
  intro pre member
  have equation := listed pre member
  rwa [consumedTotals.sums, recordedTotals.sums] at equation

/-! ### The allocation of a batch -/

/-- A record that is read names a recipient, an amount and a declared asset. -/
theorem readExitRecordV5_valid {binding : ExitBindingV5} {terminal : StateMap} {index : Nat}
    {record : ExitRecordV5} (read : readExitRecordV5 binding terminal index = .ok record) :
    record.recipient ≠ 0 ∧ record.amount ≠ 0 ∧
      ∃ bound ∈ binding.assets, bound.asset = record.asset := by
  obtain ⟨recipientSlot, -, read⟩ := bind_eq_ok.mp read
  obtain ⟨assetSlot, -, read⟩ := bind_eq_ok.mp read
  obtain ⟨amountSlot, -, read⟩ := bind_eq_ok.mp read
  obtain ⟨recipientWord, -, read⟩ := bind_eq_ok.mp read
  obtain ⟨recipient, -, read⟩ := bind_eq_ok.mp read
  obtain ⟨assetWord, -, read⟩ := bind_eq_ok.mp read
  obtain ⟨asset, -, read⟩ := bind_eq_ok.mp read
  obtain ⟨amount, -, read⟩ := bind_eq_ok.mp read
  obtain ⟨valid, read⟩ := refuse_bind_eq_ok.mp read
  simp only [not_or, not_not] at valid
  rw [← pure_eq_ok.mp read]
  exact valid

theorem readExitRecordsV5_declared {binding : ExitBindingV5} {terminal : StateMap}
    {first last : U64} {records : List ExitRecordV5}
    (read : readExitRecordsV5 binding terminal first last = .ok records) :
    ∀ record ∈ records, ∃ bound ∈ binding.assets, bound.asset = record.asset := by
  intro record member
  obtain ⟨index, -, single⟩ := mem_of_mapM_eq_ok read member
  exact (readExitRecordV5_valid single).2.2

theorem withdrawnAmounts_positionExits (epoch : U64) (records : List ExitRecordV5) :
    withdrawnAmounts (positionExits epoch records) = exitAmounts records := by
  unfold withdrawnAmounts positionExits exitAmounts
  rw [List.map_map]
  conv_rhs => rw [← List.zipIdx_map_fst 0 records, List.map_map]
  rfl

theorem withdrawalTreeCapacityV5_bound {leafCount : Nat} {capacity : U64}
    (fits : withdrawalTreeCapacityV5 leafCount = .ok capacity) :
    leafCount ≤ maxWithdrawalCapacityV5.toNat := by
  unfold withdrawalTreeCapacityV5 at fits
  split at fits
  · omega
  · exact not_lt.mp (refuse_bind_eq_ok.mp fits).1

/-- What the comparison with the exit allocation establishes: the cursor did not regress, and
the withdrawals are the records between the cursors followed by the sweep, in order and in
bounded number. -/
theorem validateBoundExit_spec {keccak256 : Bytes → B256} {input : BatchInputV5}
    {binding : ExitBindingV5} {preExitCount : U64} {terminal : StateMap} {done : Unit}
    (accepted : validateBoundExit keccak256 input binding preExitCount terminal = .ok done) :
    ∃ postCount records swept, exitRecordCountV5 binding terminal = .ok postCount ∧
      preExitCount ≤ postCount ∧
      readExitRecordsV5 binding terminal preExitCount postCount = .ok records ∧
      closeSweep keccak256 input binding terminal records = .ok swept ∧
      input.withdrawals = positionExits input.journal.postRosterEpoch (records ++ swept) ∧
      input.withdrawals.length ≤ maxWithdrawalCapacityV5.toNat := by
  obtain ⟨postCount, counted, accepted⟩ := bind_eq_ok.mp accepted
  obtain ⟨forward, accepted⟩ := refuse_bind_eq_ok.mp accepted
  obtain ⟨records, read, accepted⟩ := bind_eq_ok.mp accepted
  obtain ⟨swept, sweptEqual, accepted⟩ := bind_eq_ok.mp accepted
  obtain ⟨capacity, fits, accepted⟩ := bind_eq_ok.mp accepted
  have equal := refuse_eq_ok.mp accepted
  simp only [not_or, ne_eq, not_not] at equal
  rw [← equal.1] at fits
  exact ⟨postCount, records, swept, counted, BitVec.not_lt.mp forward, read, sweptEqual,
    equal.1, withdrawalTreeCapacityV5_bound fits⟩

/-! ### The close -/

/-- The batch with its close flag cleared, so that only the equations between its liabilities
are checked. -/
def BatchInputV5.withoutClose (input : BatchInputV5) : BatchInputV5 :=
  { input with journal := { input.journal with close := false } }

/-- The close flag adds one condition to the comparison of an asset. -/
theorem conserveLiability_closing {before after : LiabilityProgress}
    {pair : AssetLiabilityV5 × AssetLiabilityV5} :
    conserveLiability true before pair = .ok after ↔
      conserveLiability false before pair = .ok after ∧ pair.2.controlled = 0 := by
  unfold conserveLiability
  simp only [bind_eq_ok, refuse_eq_ok, exists_const, true_and, Bool.false_eq_true, false_and,
    not_false_eq_true, ne_eq, not_not]
  constructor
  · rintro ⟨matched, pending, pendingEqual, claimable, claimableEqual, available,
      availableEqual, controlled, controlledEqual, conserved, zero, finished⟩
    exact ⟨⟨matched, pending, pendingEqual, claimable, claimableEqual, available,
      availableEqual, controlled, controlledEqual, conserved, finished⟩, zero⟩
  · rintro ⟨⟨matched, pending, pendingEqual, claimable, claimableEqual, available,
      availableEqual, controlled, controlledEqual, conserved, finished⟩, zero⟩
    exact ⟨matched, pending, pendingEqual, claimable, claimableEqual, available,
      availableEqual, controlled, controlledEqual, conserved, zero, finished⟩

theorem conserveLiabilities_closing {pairs : List (AssetLiabilityV5 × AssetLiabilityV5)}
    {start finish : LiabilityProgress} :
    pairs.foldlM (conserveLiability true) start = .ok finish ↔
      pairs.foldlM (conserveLiability false) start = .ok finish ∧
        ∀ pair ∈ pairs, pair.2.controlled = 0 := by
  induction pairs generalizing start with
  | nil => simp
  | cons pair rest inductionHypothesis =>
    simp only [foldlM_cons_eq_ok, conserveLiability_closing, inductionHypothesis,
      List.forall_mem_cons]
    constructor
    · rintro ⟨next, ⟨stepped, zero⟩, remaining, zeroes⟩
      exact ⟨⟨next, stepped, remaining⟩, zero, zeroes⟩
    · rintro ⟨⟨next, stepped, remaining⟩, zero, zeroes⟩
      exact ⟨next, ⟨stepped, zero⟩, remaining, zeroes⟩

/-- A closing batch is accepted exactly when its equations hold and nothing stays in
control. -/
theorem validateLiabilitiesV5_closing {keccak256 : Bytes → B256} {input : BatchInputV5}
    (closing : input.journal.close = true) :
    validateLiabilitiesV5 keccak256 input = .ok () ↔
      validateLiabilitiesV5 keccak256 input.withoutClose = .ok () ∧
        ∀ pair ∈ input.preLiabilities.zip input.postLiabilities, pair.2.controlled = 0 := by
  unfold validateLiabilitiesV5
  rw [closing]
  simp only [bind_eq_ok, conserveLiabilities_closing]
  constructor
  · rintro ⟨totals, computed, progress, ⟨compared, zeroes⟩, empty⟩
    exact ⟨⟨totals, computed, progress, compared, empty⟩, zeroes⟩
  · rintro ⟨⟨totals, computed, progress, compared, empty⟩, zeroes⟩
    exact ⟨totals, computed, progress, ⟨compared, zeroes⟩, empty⟩

/-- The asset can be paid out by the exit queue and the sweep. -/
def Declared (binding : ExitBindingV5) (asset : Address) : Prop :=
  ∃ bound ∈ binding.assets, bound.asset = asset

instance (binding : ExitBindingV5) (asset : Address) : Decidable (Declared binding asset) :=
  inferInstanceAs (Decidable (∃ bound ∈ binding.assets, bound.asset = asset))

/-- At a close, what the withdrawals take of an asset is the whole of it if the asset is
declared, and nothing otherwise. -/
theorem closing_withdrawals {keccak256 : Bytes → B256} {input : BatchInputV5}
    {binding : ExitBindingV5} {preExitCount : U64} {terminal : StateMap} {done : Unit}
    (closing : input.journal.close = true)
    (equations : LiabilityEquations input false)
    (accepted : validateBoundExit keccak256 input binding preExitCount terminal = .ok done)
    {pair : AssetLiabilityV5 × AssetLiabilityV5}
    (member : pair ∈ input.preLiabilities.zip input.postLiabilities) :
    (Declared binding pair.1.asset → pair.2.controlled = 0) ∧
      (¬ Declared binding pair.1.asset →
        sumOf pair.1.asset (withdrawnAmounts input.withdrawals) = 0) := by
  obtain ⟨postCount, records, swept, -, -, read, sweptEqual, allocation, -⟩ :=
    validateBoundExit_spec accepted
  unfold closeSweep at sweptEqual
  rw [if_pos closing] at sweptEqual
  obtain ⟨residuals, residualsEqual, derived⟩ := bind_eq_ok.mp sweptEqual
  have residual := closeResiduals_spec equations.sorted residualsEqual pair.1
    (List.of_mem_zip member).1
  have paid := deriveCloseSweepV5_sum derived pair.1.asset
  have conserved := (equations.pairs pair member).controlled
  rw [allocation, withdrawnAmounts_positionExits, exitAmounts_append, sumOf_append, paid]
    at conserved ⊢
  refine ⟨fun declared => ?_, fun undeclared => ?_⟩
  · obtain ⟨bound, boundMember, same⟩ := declared
    have positive : 0 < binding.assets.countP fun bound => bound.asset = pair.1.asset :=
      List.countP_pos_iff.mpr ⟨bound, boundMember, by simpa using same⟩
    have atLeast := Nat.le_mul_of_pos_left (residuals.getD pair.1.asset 0).toNat positive
    exact toNat_eq_zero.mp (by omega)
  · have never : binding.assets.countP (fun bound => bound.asset = pair.1.asset) = 0 :=
      List.countP_eq_zero.mpr fun bound boundMember same =>
        undeclared ⟨bound, boundMember, by simpa using same⟩
    have unrecorded : sumOf pair.1.asset (exitAmounts records) = 0 := by
      refine sumOf_eq_zero _ _ fun entry entryMember same => undeclared ?_
      obtain ⟨record, recordMember, rfl⟩ := List.mem_map.mp entryMember
      obtain ⟨bound, boundMember, boundAsset⟩ :=
        readExitRecordsV5_declared read record recordMember
      exact ⟨bound, boundMember, boundAsset.trans same⟩
    rw [never, unrecorded, Nat.zero_mul]

/-- A close leaves nothing behind: of a declared asset nothing stays in control, of an
undeclared one everything does. The check for an empty control can therefore only refuse a
closing batch because of an undeclared asset. -/
theorem close_leaves_nothing (keccak256 : Bytes → B256) (input : BatchInputV5)
    (preExitCount : U64) (terminal : StateMap)
    (validityOnly : input.journal.authorizationMode = 1) (closing : input.journal.close = true)
    (exits : validateExitV5 keccak256 input preExitCount terminal = .ok ())
    (equations : LiabilityEquations input false) :
    (∀ binding, input.policy.exit = some binding →
      ∀ pair ∈ input.preLiabilities.zip input.postLiabilities,
        (Declared binding pair.1.asset → pair.2.controlled = 0) ∧
          (¬ Declared binding pair.1.asset → pair.2.controlled.toNat =
            pair.1.controlled.toNat + sumOf pair.1.asset (consumedDeposits input.deposits))) ∧
      (validateLiabilitiesV5 keccak256 input.withoutClose = .ok () →
        ∃ binding, input.policy.exit = some binding ∧
          (validateLiabilitiesV5 keccak256 input = .ok () ↔
            ∀ pair ∈ input.preLiabilities.zip input.postLiabilities,
              ¬ Declared binding pair.1.asset → pair.2.controlled = 0)) := by
  have settled : ∀ binding, input.policy.exit = some binding →
      ∀ pair ∈ input.preLiabilities.zip input.postLiabilities,
        (Declared binding pair.1.asset → pair.2.controlled = 0) ∧
          (¬ Declared binding pair.1.asset →
            sumOf pair.1.asset (withdrawnAmounts input.withdrawals) = 0) := by
    intro binding bound pair member
    unfold validateExitV5 at exits
    rw [bound] at exits
    dsimp only at exits
    rw [if_neg (not_not.mpr validityOnly)] at exits
    exact closing_withdrawals closing equations exits member
  refine ⟨fun binding bound pair member =>
    ⟨(settled binding bound pair member).1, fun undeclared => ?_⟩, fun balanced => ?_⟩
  · have conserved := (equations.pairs pair member).controlled
    rwa [(settled binding bound pair member).2 undeclared, Nat.add_zero] at conserved
  · obtain ⟨binding, bound⟩ := validateLiabilitiesV5_bound balanced validityOnly
    refine ⟨binding, bound, ?_⟩
    rw [validateLiabilitiesV5_closing closing]
    refine ⟨fun accepted pair member _ => accepted.2 pair member,
      fun zeroes => ⟨balanced, fun pair member => ?_⟩⟩
    by_cases declared : Declared binding pair.1.asset
    · exact (settled binding bound pair member).1 declared
    · exact zeroes pair member declared

/-- A closing batch of a room with a declared and an undeclared asset. -/
def sampleClosingBatch (undeclared : U256) : BatchInputV5 :=
  let pre : List AssetLiabilityV5 := [⟨5, 0, undeclared, 0, 0⟩, ⟨7, 0, 5, 0, 0⟩]
  let post : List AssetLiabilityV5 := [⟨5, 0, undeclared, 0, 0⟩, ⟨7, 0, 0, 5, 0⟩]
  let withdrawals : List WithdrawalV5 :=
    [⟨0, 2, 3, 7, 1⟩, ⟨1, 2, 4, 7, 3⟩, ⟨2, 2, 9, 7, 1⟩]
  { sampleEscrowBatch pre post 0 [] withdrawals with
    withdrawalCapacity := 4
    policy := { (default : ExecutionPolicyV5) with exit := some sampleExitBinding }
    journal := { (sampleEscrowBatch pre post 0 [] withdrawals).journal with
      authorizationMode := 1
      close := true
      postRosterEpoch := 2
      withdrawalRoot := (withdrawalRootV5 sampleDigest 0 0 0 withdrawals 4).getD 0 } }

/-- Five units of the declared asset are shared over balances 1 and 2 with one unit of dust;
four units of the undeclared one are what the escrow accounting refuses. -/
theorem close_leaves_nothing_sample :
    validateExitV5 sampleDigest (sampleClosingBatch 4) 0 (sampleTerminal 1 2) = .ok () ∧
      validateLiabilitiesV5 sampleDigest (sampleClosingBatch 4).withoutClose = .ok () ∧
      validateLiabilitiesV5 sampleDigest (sampleClosingBatch 4) ≠ .ok () := by
  have exits : validateExitV5 sampleDigest (sampleClosingBatch 4) 0 (sampleTerminal 1 2) =
      .ok () := by decide +kernel
  have balanced : validateLiabilitiesV5 sampleDigest (sampleClosingBatch 4).withoutClose =
      .ok () := by decide +kernel
  have equations := (validateLiabilitiesV5_spec balanced).toLiabilityEquations
  obtain ⟨binding, bound, zeroed⟩ := (close_leaves_nothing sampleDigest (sampleClosingBatch 4) 0
    (sampleTerminal 1 2) rfl rfl exits
    ⟨equations.sameLength, equations.sorted, equations.pairs⟩).2 balanced
  refine ⟨exits, balanced, fun accepted => ?_⟩
  obtain rfl : sampleExitBinding = binding := Option.some.inj bound
  exact absurd (zeroed.mp accepted (⟨5, 0, 4, 0, 0⟩, ⟨5, 0, 4, 0, 0⟩) List.mem_cons_self
    (by decide)) (by decide)

end Zkdeal

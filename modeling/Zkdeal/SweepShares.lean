/-
This file says what the close sweep pays, leaf by leaf, and when it can be computed at all.

The leaves of one asset are the pro-rata shares of its holders, in the order of
their addresses and without the zero ones, followed by what rounding left over;
an asset nobody holds is paid to the fallback recipient in one leaf. The leaves of
the assets follow each other in the order of the binding. Shares of the sum of the
balances cannot exceed the residual, so the check against that never refuses: only a
total of the balances or a product of the residual with a balance can leave a word.
-/

import Zkdeal.Room.Exit

namespace Zkdeal

open Words Guard Accounting

/-! ### Holders -/

section Holders

variable (keccak256 : Bytes → B256)

/-- The balance of an account in a declared asset. -/
def holderBalance (bound : ExitAssetBindingV5) (terminal : StateMap)
    (entry : Address × AccountRecord) : U256 :=
  if bound.kind = 0 then entry.2.balance
  else terminal.storageAt bound.token (mappingSlotV5 keccak256 entry.1 bound.balanceSlot)

/-- The accounts that take part in a sweep. -/
def Claimant (entry : Address × AccountRecord) : Prop :=
  entry.1 ≠ 0 ∧ entry.2.code = []

instance (entry : Address × AccountRecord) : Decidable (Claimant entry) :=
  inferInstanceAs (Decidable (_ ∧ _))

/-- What an account holds of an asset, if it takes part and holds any. -/
def holderOf (bound : ExitAssetBindingV5) (terminal : StateMap)
    (entry : Address × AccountRecord) : Option (Address × U256) :=
  if Claimant entry ∧ holderBalance keccak256 bound terminal entry ≠ 0 then
    some (entry.1, holderBalance keccak256 bound terminal entry)
  else none

/-- The holders of an asset in a state. -/
def sweepHolders (bound : ExitAssetBindingV5) (terminal : StateMap) : List (Address × U256) :=
  terminal.accounts.toList.filterMap (holderOf keccak256 bound terminal)

/-- The balances of some holders. -/
def balancesOf (holders : List (Address × U256)) : List Nat :=
  holders.map fun holder => holder.2.toNat

/-- Every balance slot the sweep of an asset reads is inside the envelope. -/
def BalancesReadable (bound : ExitAssetBindingV5) (terminal : StateMap) : Prop :=
  bound.kind = 1 → ∀ entry ∈ terminal.accounts.toList, Claimant entry →
    terminal.declaresStorage bound.token (mappingSlotV5 keccak256 entry.1 bound.balanceSlot) =
      true

instance (bound : ExitAssetBindingV5) (terminal : StateMap) :
    Decidable (BalancesReadable keccak256 bound terminal) :=
  inferInstanceAs (Decidable (_ → _))

variable {keccak256}

theorem filterMap_holderOf_cons (bound : ExitAssetBindingV5) (terminal : StateMap)
    (entry : Address × AccountRecord) (rest : List (Address × AccountRecord)) :
    (entry :: rest).filterMap (holderOf keccak256 bound terminal) =
      (holderOf keccak256 bound terminal entry).toList ++
        rest.filterMap (holderOf keccak256 bound terminal) := by
  rw [List.filterMap_cons]
  cases holderOf keccak256 bound terminal entry <;> rfl

theorem balancesOf_cons (bound : ExitAssetBindingV5) (terminal : StateMap)
    (entry : Address × AccountRecord) (rest : List (Address × AccountRecord)) :
    (balancesOf ((entry :: rest).filterMap (holderOf keccak256 bound terminal))).sum =
      (balancesOf (holderOf keccak256 bound terminal entry).toList).sum +
        (balancesOf (rest.filterMap (holderOf keccak256 bound terminal))).sum := by
  rw [filterMap_holderOf_cons, balancesOf, List.map_append, List.sum_append]
  rfl

theorem sweepHolders_positive {bound : ExitAssetBindingV5} {terminal : StateMap}
    {holder : Address × U256} (member : holder ∈ sweepHolders keccak256 bound terminal) :
    0 < holder.2.toNat := by
  obtain ⟨entry, -, holds⟩ := List.mem_filterMap.mp member
  unfold holderOf at holds
  split at holds
  · rename_i claims
    rw [← Option.some.inj holds]
    exact Nat.pos_of_ne_zero fun zero => claims.2 (toNat_eq_zero.mp zero)
  · exact absurd holds (by simp)

theorem sweepHolders_ascending (bound : ExitAssetBindingV5) (terminal : StateMap) :
    (sweepHolders keccak256 bound terminal).Pairwise fun earlier later =>
      earlier.1 < later.1 := by
  have ordered : terminal.accounts.toList.Pairwise fun earlier later =>
      compare earlier.1 later.1 = .lt := Std.ExtTreeMap.ordered_keys_toList
  refine List.pairwise_filterMap.mpr (ordered.imp ?_)
  intro earlier later before first firstHolds second secondHolds
  have own : ∀ {entry : Address × AccountRecord} {holder : Address × U256},
      holderOf keccak256 bound terminal entry = some holder → holder.1 = entry.1 := by
    intro entry holder holds
    unfold holderOf at holds
    split at holds
    · rw [← Option.some.inj holds]
    · cases holds
  rw [own firstHolds, own secondHolds]
  exact lt_of_compare_eq_lt before

/-- The product a share is computed from fits a word for every holder. -/
def ProductsFit (residual : U256) (holders : List (Address × U256)) : Prop :=
  ∀ holder ∈ holders, residual.toNat * holder.2.toNat < 2 ^ 256

instance (residual : U256) (holders : List (Address × U256)) :
    Decidable (ProductsFit residual holders) :=
  List.decidableBAll (fun holder : Address × U256 =>
    residual.toNat * holder.2.toNat < 2 ^ 256) holders

end Holders

/-! ### What one asset pays -/

/-- Who is paid how much, in the order of the leaves. -/
def payouts (leaves : List ExitRecordV5) : List (Address × Nat) :=
  leaves.map fun leaf => (leaf.recipient, leaf.amount.toNat)

/-- The share of one holder, rounded down, unless it is zero. -/
def shareOf (residual total : Nat) (holder : Address × U256) : Option (Address × Nat) :=
  if residual * holder.2.toNat / total = 0 then none
  else some (holder.1, residual * holder.2.toNat / total)

/-- The shares of some holders that get one, in their order. -/
def proRata (residual total : Nat) (holders : List (Address × U256)) : List (Address × Nat) :=
  holders.filterMap (shareOf residual total)

/-- The payment of an amount, unless it is zero. -/
def payment (recipient : Address) (amount : Nat) : List (Address × Nat) :=
  if amount = 0 then [] else [(recipient, amount)]

/-- The sum of some payments. -/
def paid (payments : List (Address × Nat)) : Nat :=
  (payments.map Prod.snd).sum

/-- The leaves of one asset with a residual: all in that asset, in total the residual, the whole
of it to the fallback recipient if nobody holds the asset, and otherwise the pro-rata shares in
ascending order with less than a unit of dust for every holder behind them. -/
structure SweptAsset (keccak256 : Bytes → B256) (binding : ExitBindingV5) (terminal : StateMap)
    (bound : ExitAssetBindingV5) (residual : U256) (leaves : List ExitRecordV5) : Prop where
  asset : ∀ leaf ∈ leaves, leaf.asset = bound.asset
  positive : ∀ leaf ∈ leaves, leaf.amount ≠ 0
  sum : paid (payouts leaves) = residual.toNat
  ascending : (sweepHolders keccak256 bound terminal).Pairwise fun earlier later =>
    earlier.1 < later.1
  unheld : (balancesOf (sweepHolders keccak256 bound terminal)).sum = 0 →
    payouts leaves = [(binding.fallbackRecipient, residual.toNat)]
  shared : (balancesOf (sweepHolders keccak256 bound terminal)).sum ≠ 0 →
    ∃ dust < (sweepHolders keccak256 bound terminal).length,
      payouts leaves =
        proRata residual.toNat (balancesOf (sweepHolders keccak256 bound terminal)).sum
          (sweepHolders keccak256 bound terminal) ++
          payment binding.fallbackRecipient dust

section Lists

@[simp]
theorem payouts_append (first second : List ExitRecordV5) :
    payouts (first ++ second) = payouts first ++ payouts second :=
  List.map_append

@[simp]
theorem paid_append (first second : List (Address × Nat)) :
    paid (first ++ second) = paid first + paid second := by
  rw [paid, List.map_append, List.sum_append]
  rfl

@[simp]
theorem paid_payment (recipient : Address) (amount : Nat) :
    paid (payment recipient amount) = amount := by
  unfold payment
  split
  · rename_i zero
    exact zero.symm
  · exact Nat.add_zero amount

theorem proRata_cons (residual total : Nat) (holder : Address × U256)
    (rest : List (Address × U256)) :
    proRata residual total (holder :: rest) =
      payment holder.1 (residual * holder.2.toNat / total) ++ proRata residual total rest := by
  unfold proRata payment
  rw [List.filterMap_cons, shareOf]
  by_cases zero : residual * holder.2.toNat / total = 0
  · rw [if_pos zero, if_pos zero]
    rfl
  · rw [if_neg zero, if_neg zero]
    rfl

/-- The shares handed out are the floors of all holders: a zero floor adds nothing. -/
theorem paid_proRata (residual total : Nat) (holders : List (Address × U256)) :
    paid (proRata residual total holders) =
      ((balancesOf holders).map fun balance => residual * balance / total).sum := by
  induction holders with
  | nil => rfl
  | cons holder rest inductionHypothesis =>
    rw [proRata_cons, paid_append, paid_payment, inductionHypothesis]
    rfl

/-- Only a positive amount is paid. -/
theorem payment_positive {recipient : Address} {amount : Nat} {entry : Address × Nat}
    (member : entry ∈ payment recipient amount) : entry.2 ≠ 0 := by
  unfold payment at member
  split at member
  · exact absurd member List.not_mem_nil
  · rename_i nonzero
    rw [List.mem_singleton.mp member]
    exact nonzero

theorem proRata_positive {residual total : Nat} {holders : List (Address × U256)}
    {entry : Address × Nat} (member : entry ∈ proRata residual total holders) :
    entry.2 ≠ 0 := by
  induction holders with
  | nil => exact absurd member List.not_mem_nil
  | cons holder rest inductionHypothesis =>
    rw [proRata_cons, List.mem_append] at member
    rcases member with here | later
    · exact payment_positive here
    · exact inductionHypothesis later

/-- The payouts of the leaves say whether the leaves are positive. -/
theorem positive_of_payouts {leaves : List ExitRecordV5}
    (positive : ∀ entry ∈ payouts leaves, entry.2 ≠ 0) : ∀ leaf ∈ leaves, leaf.amount ≠ 0 := by
  intro leaf member zero
  refine positive _ (List.mem_map_of_mem member) ?_
  dsimp only
  rw [zero]
  rfl

end Lists

/-! ### The loops of one asset -/

/-- The message of a total of the balances that leaves the word. -/
def balanceOverflow : StfError :=
  .longLivedRoom [.text "exit sweep balance total", .text " overflow"]

/-- The message of a product of the residual with a balance that leaves the word. -/
def shareOverflow : StfError := .longLivedRoom "exit sweep share overflow"

/-- The leaf of an amount, unless it is zero. -/
def leafOf (recipient asset : Address) (amount : Nat) : List ExitRecordV5 :=
  if amount = 0 then [] else [⟨recipient, asset, BitVec.ofNat 256 amount⟩]

/-- The leaves of the shares of some holders. -/
def shareLeaves (asset : Address) (residual total : Nat) (holders : List (Address × U256)) :
    List ExitRecordV5 :=
  holders.flatMap fun holder => leafOf holder.1 asset (residual * holder.2.toNat / total)

/-- The shares of some holders, rounded down, in total. -/
def sharesOf (residual total : Nat) (holders : List (Address × U256)) : Nat :=
  ((balancesOf holders).map fun balance => residual * balance / total).sum

/-- The leaves of one asset. -/
def sweptLeaves (binding : ExitBindingV5) (asset : Address) (residual : U256)
    (holders : List (Address × U256)) : List ExitRecordV5 :=
  let total := (balancesOf holders).sum
  if total = 0 then [⟨binding.fallbackRecipient, asset, residual⟩]
  else shareLeaves asset residual.toNat total holders ++
    leafOf binding.fallbackRecipient asset
      (residual.toNat - sharesOf residual.toNat total holders)

section Loops

variable {keccak256 : Bytes → B256}

/-- An account that takes part has a balance that can be read. -/
def Reads (keccak256 : Bytes → B256) (bound : ExitAssetBindingV5) (terminal : StateMap)
    (entry : Address × AccountRecord) : Prop :=
  Claimant entry → sweepBalance keccak256 bound terminal entry =
    .ok (holderBalance keccak256 bound terminal entry)

theorem reads_of_readable {bound : ExitAssetBindingV5} {terminal : StateMap}
    (supported : bound.kind = 0 ∨ bound.kind = 1)
    (readable : BalancesReadable keccak256 bound terminal) :
    ∀ entry ∈ terminal.accounts.toList, Reads keccak256 bound terminal entry := by
  intro entry member claims
  unfold sweepBalance holderBalance
  rcases supported with native | token
  · rw [if_pos native, if_pos native]
  · have other : bound.kind ≠ 0 := by rw [token]; decide
    rw [if_neg other, if_neg other, if_pos token, readStorageV5,
      readable token entry member claims]
    rfl

theorem reads_of_gatherBalance {bound : ExitAssetBindingV5} {terminal : StateMap}
    {entry : Address × AccountRecord} {before after : U256 × List (Address × U256)}
    (stepped : gatherBalance keccak256 bound terminal before entry = .ok after) :
    Reads keccak256 bound terminal entry := by
  intro claims
  unfold gatherBalance at stepped
  rw [if_neg (not_or.mpr ⟨claims.1, not_not.mpr claims.2⟩)] at stepped
  obtain ⟨balance, read, -⟩ := bind_eq_ok.mp stepped
  rw [read]
  unfold sweepBalance at read
  unfold holderBalance
  by_cases native : bound.kind = 0
  · rw [if_pos native] at read ⊢
    exact read.symm
  · rw [if_neg native] at read ⊢
    split at read
    · obtain ⟨-, read⟩ := refuse_bind_eq_ok.mp read
      exact congrArg _ (pure_eq_ok.mp read).symm
    · cases read

/-- Counting one account in appends what it holds and adds it to the total, which has to stay
inside a word. -/
theorem gatherBalance_eq {bound : ExitAssetBindingV5} {terminal : StateMap}
    {entry : Address × AccountRecord} (reads : Reads keccak256 bound terminal entry)
    (before : U256 × List (Address × U256)) :
    gatherBalance keccak256 bound terminal before entry =
      if before.1.toNat +
          (balancesOf (holderOf keccak256 bound terminal entry).toList).sum < 2 ^ 256 then
        .ok (BitVec.ofNat 256 (before.1.toNat +
            (balancesOf (holderOf keccak256 bound terminal entry).toList).sum),
          before.2 ++ (holderOf keccak256 bound terminal entry).toList)
      else .error balanceOverflow := by
  have unchanged : (Except.ok before : Except StfError (U256 × List (Address × U256))) =
      if before.1.toNat + (balancesOf []).sum < 2 ^ 256 then
        .ok (BitVec.ofNat 256 (before.1.toNat + (balancesOf []).sum), before.2 ++ [])
      else .error balanceOverflow := by
    simp [balancesOf, before.1.isLt]
  unfold gatherBalance
  by_cases claims : Claimant entry
  · rw [if_neg (not_or.mpr ⟨claims.1, not_not.mpr claims.2⟩), reads claims]
    by_cases zero : holderBalance keccak256 bound terminal entry = 0
    · have nothing : holderOf keccak256 bound terminal entry = none :=
        if_neg fun holds => holds.2 zero
      rw [nothing]
      exact (if_pos zero).trans unchanged
    · have holds : holderOf keccak256 bound terminal entry =
          some (entry.1, holderBalance keccak256 bound terminal entry) := if_pos ⟨claims, zero⟩
      rw [holds]
      refine (if_neg zero).trans ?_
      unfold checkedAddExitV5 checkedAdd
      simp only [Option.toList_some, balancesOf, List.map_cons, List.map_nil, List.sum_singleton]
      split <;> rfl
  · have skipped : entry.1 = 0 ∨ entry.2.code ≠ [] := by
      rwa [Claimant, not_and_or, not_not] at claims
    have nothing : holderOf keccak256 bound terminal entry = none :=
      if_neg fun holds => claims holds.1
    rw [if_pos skipped, nothing]
    exact unchanged

/-- The balance loop gathers the holders and the sum of their balances, if that is a word. -/
theorem gatherBalances_eq {bound : ExitAssetBindingV5} {terminal : StateMap}
    {entries : List (Address × AccountRecord)}
    (reads : ∀ entry ∈ entries, Reads keccak256 bound terminal entry)
    (start : U256 × List (Address × U256)) :
    entries.foldlM (gatherBalance keccak256 bound terminal) start =
      if start.1.toNat +
          (balancesOf (entries.filterMap (holderOf keccak256 bound terminal))).sum < 2 ^ 256 then
        .ok (BitVec.ofNat 256 (start.1.toNat +
            (balancesOf (entries.filterMap (holderOf keccak256 bound terminal))).sum),
          start.2 ++ entries.filterMap (holderOf keccak256 bound terminal))
      else .error balanceOverflow := by
  induction entries generalizing start with
  | nil => simp [balancesOf, start.1.isLt, pure, Except.pure]
  | cons entry rest inductionHypothesis =>
    obtain ⟨here, others⟩ := List.forall_mem_cons.mp reads
    rw [List.foldlM_cons, gatherBalance_eq here, balancesOf_cons, filterMap_holderOf_cons]
    by_cases fits : start.1.toNat +
        (balancesOf (holderOf keccak256 bound terminal entry).toList).sum < 2 ^ 256
    · rw [if_pos fits]
      refine (inductionHypothesis others _).trans ?_
      rw [BitVec.toNat_ofNat, Nat.mod_eq_of_lt fits, Nat.add_assoc, List.append_assoc]
    · rw [if_neg fits, if_neg (by omega)]
      rfl

/-- One turn of the share loop writes the leaf of the holder's floor. -/
theorem shareResidual_eq {asset : Address} {residual total : U256}
    {shared : U256 × List ExitRecordV5} {holder : Address × U256}
    (bounded : shared.1.toNat + residual.toNat * holder.2.toNat / total.toNat < 2 ^ 256) :
    shareResidual asset residual total shared holder =
      if residual.toNat * holder.2.toNat < 2 ^ 256 then
        .ok (BitVec.ofNat 256 (shared.1.toNat +
            residual.toNat * holder.2.toNat / total.toNat),
          shared.2 ++ leafOf holder.1 asset (residual.toNat * holder.2.toNat / total.toNat))
      else .error shareOverflow := by
  unfold shareResidual checkedMul
  by_cases fits : residual.toNat * holder.2.toNat < 2 ^ 256
  · have share : (residual * holder.2 / total).toNat =
        residual.toNat * holder.2.toNat / total.toNat := by
      rw [BitVec.toNat_udiv, BitVec.toNat_mul, Nat.mod_eq_of_lt fits]
    rw [← share] at bounded
    rw [if_pos fits, if_pos fits, ← share]
    refine bind_of_eq_ok rfl ?_
    dsimp only
    unfold leafOf
    by_cases zero : residual * holder.2 / total = 0
    · rw [if_pos zero, if_pos (toNat_eq_zero.mpr zero), toNat_eq_zero.mpr zero]
      simp [pure, Except.pure]
    · rw [if_neg zero, if_neg fun none => zero (toNat_eq_zero.mp none)]
      unfold checkedAddExitV5 checkedAdd
      rw [if_pos bounded, BitVec.ofNat_toNat, BitVec.setWidth_eq]
      rfl
  · rw [if_neg fits, if_neg fits]
    rfl

/-- The share loop writes the leaves of the floors, if the products fit a word. -/
theorem shareResiduals_eq {asset : Address} {residual total : U256}
    {holders : List (Address × U256)} {start : U256 × List ExitRecordV5}
    (bounded : start.1.toNat + sharesOf residual.toNat total.toNat holders < 2 ^ 256) :
    holders.foldlM (shareResidual asset residual total) start =
      if ProductsFit residual holders then
        .ok (BitVec.ofNat 256 (start.1.toNat + sharesOf residual.toNat total.toNat holders),
          start.2 ++ shareLeaves asset residual.toNat total.toNat holders)
      else .error shareOverflow := by
  induction holders generalizing start with
  | nil => simp [ProductsFit, sharesOf, shareLeaves, balancesOf, pure, Except.pure]
  | cons holder rest inductionHypothesis =>
    have split : sharesOf residual.toNat total.toNat (holder :: rest) =
        residual.toNat * holder.2.toNat / total.toNat +
          sharesOf residual.toNat total.toNat rest := rfl
    rw [split] at bounded ⊢
    rw [List.foldlM_cons, shareResidual_eq (by omega)]
    by_cases fits : residual.toNat * holder.2.toNat < 2 ^ 256
    · have value : (BitVec.ofNat 256 (start.1.toNat +
          residual.toNat * holder.2.toNat / total.toNat)).toNat =
            start.1.toNat + residual.toNat * holder.2.toNat / total.toNat := by
        rw [BitVec.toNat_ofNat, Nat.mod_eq_of_lt (by omega)]
      rw [if_pos fits]
      refine (inductionHypothesis (by dsimp only; omega)).trans ?_
      refine if_congr ?_ ?_ rfl
      · exact ⟨fun others => List.forall_mem_cons.mpr ⟨fits, others⟩,
          fun all => (List.forall_mem_cons.mp all).2⟩
      · dsimp only
        rw [value, Nat.add_assoc, List.append_assoc]
        rfl
    · rw [if_neg fits, if_neg fun all => fits (all holder List.mem_cons_self)]
      rfl

/-- One asset is swept into its leaves, if the total of its holders and every product of the
residual with a balance fit a word. -/
theorem sweepAsset_eq {binding : ExitBindingV5} {terminal : StateMap}
    {bound : ExitAssetBindingV5} (residual : U256)
    (reads : ∀ entry ∈ terminal.accounts.toList, Reads keccak256 bound terminal entry) :
    sweepAsset keccak256 binding terminal bound residual =
      if (balancesOf (sweepHolders keccak256 bound terminal)).sum < 2 ^ 256 then
        if ProductsFit residual (sweepHolders keccak256 bound terminal) then
          .ok (sweptLeaves binding bound.asset residual (sweepHolders keccak256 bound terminal))
        else .error shareOverflow
      else .error balanceOverflow := by
  have zero : (0 : U256).toNat = 0 := rfl
  unfold sweepAsset
  rw [gatherBalances_eq reads, zero, Nat.zero_add, List.nil_append, ← sweepHolders]
  by_cases fits : (balancesOf (sweepHolders keccak256 bound terminal)).sum < 2 ^ 256
  · obtain ⟨total, value⟩ := exists_toNat_eq fits
    rw [if_pos fits, if_pos fits, ← value, BitVec.ofNat_toNat, BitVec.setWidth_eq]
    refine bind_of_eq_ok rfl ?_
    dsimp only
    by_cases none : total = 0
    · have products : ProductsFit residual (sweepHolders keccak256 bound terminal) := by
        intro holder member
        have positive := sweepHolders_positive member
        have atMost := List.single_le_sum (l := balancesOf _) (fun _ _ => Nat.zero_le _) _
          (List.mem_map_of_mem (f := fun holder : Address × U256 => holder.2.toNat) member)
        rw [← value, none, zero] at atMost
        omega
      rw [if_pos none, if_pos products, sweptLeaves, ← value, none, if_pos zero]
      rfl
    · have shares : sharesOf residual.toNat total.toNat (sweepHolders keccak256 bound terminal) ≤
          residual.toNat := sum_shares_le _ _ _ value.ge
      have inside := residual.isLt
      have handed : (BitVec.ofNat 256 (sharesOf residual.toNat total.toNat
          (sweepHolders keccak256 bound terminal))).toNat =
            sharesOf residual.toNat total.toNat (sweepHolders keccak256 bound terminal) := by
        rw [BitVec.toNat_ofNat, Nat.mod_eq_of_lt (by omega)]
      rw [if_neg none, shareResiduals_eq (by rw [zero]; omega), zero, Nat.zero_add,
        List.nil_append]
      split
      case isFalse => rfl
      obtain ⟨dust, rest⟩ := checkedSub_isSome.mpr (handed.le.trans shares)
      have remains := checkedSub_eq_some.mp rest
      refine bind_of_eq_ok rfl (bind_of_eq_ok (orRefuse_eq_ok.mpr rest) (congrArg Except.ok ?_))
      rw [sweptLeaves, ← value, if_neg fun empty => none (toNat_eq_zero.mp empty)]
      refine congrArg (_ ++ ·) ?_
      have amount : residual.toNat - sharesOf residual.toNat total.toNat
          (sweepHolders keccak256 bound terminal) = dust.toNat := by omega
      rw [amount, leafOf, BitVec.ofNat_toNat, BitVec.setWidth_eq]
      exact if_congr toNat_eq_zero.symm rfl rfl
  · rw [if_neg fits, if_neg fits]
    rfl

theorem payouts_leafOf {recipient asset : Address} {amount : Nat} (fits : amount < 2 ^ 256) :
    payouts (leafOf recipient asset amount) = payment recipient amount := by
  unfold leafOf payment
  split
  · rfl
  · rw [payouts, List.map_singleton, BitVec.toNat_ofNat, Nat.mod_eq_of_lt fits]

theorem payouts_shareLeaves {asset : Address} {residual : U256} {total : Nat}
    {holders : List (Address × U256)} (products : ProductsFit residual holders) :
    payouts (shareLeaves asset residual.toNat total holders) =
      proRata residual.toNat total holders := by
  induction holders with
  | nil => rfl
  | cons holder rest inductionHypothesis =>
    obtain ⟨fits, others⟩ := List.forall_mem_cons.mp products
    rw [shareLeaves, List.flatMap_cons, payouts_append, ← shareLeaves, inductionHypothesis others,
      payouts_leafOf (lt_of_le_of_lt (Nat.div_le_self _ _) fits), proRata_cons]

theorem asset_of_mem_sweptLeaves {binding : ExitBindingV5} {asset : Address} {residual : U256}
    {holders : List (Address × U256)} {leaf : ExitRecordV5}
    (member : leaf ∈ sweptLeaves binding asset residual holders) : leaf.asset = asset := by
  have single : ∀ {recipient : Address} {amount : Nat}, leaf ∈ leafOf recipient asset amount →
      leaf.asset = asset := by
    intro recipient amount listed
    unfold leafOf at listed
    split at listed
    · exact absurd listed List.not_mem_nil
    · rw [List.mem_singleton.mp listed]
  unfold sweptLeaves at member
  dsimp only at member
  split at member
  · rw [List.mem_singleton.mp member]
  · rcases List.mem_append.mp member with share | dust
    · obtain ⟨holder, -, listed⟩ := List.mem_flatMap.mp share
      exact single listed
    · exact single dust

/-- What one asset with a residual pays. -/
theorem sweepAsset_spec {binding : ExitBindingV5} {terminal : StateMap}
    {bound : ExitAssetBindingV5} {residual : U256} {leaves : List ExitRecordV5}
    (nonzero : residual ≠ 0)
    (swept : sweepAsset keccak256 binding terminal bound residual = .ok leaves) :
    SweptAsset keccak256 binding terminal bound residual leaves := by
  obtain ⟨gathered, gathers, -⟩ := bind_eq_ok.mp swept
  rw [sweepAsset_eq residual
    (foldlM_forall gathers fun entry before after => reads_of_gatherBalance)] at swept
  split at swept
  case isFalse => cases swept
  split at swept
  case isFalse => cases swept
  case isTrue products =>
  have ascending := @sweepHolders_ascending keccak256 bound terminal
  rw [← Except.ok.inj swept]
  by_cases empty : (balancesOf (sweepHolders keccak256 bound terminal)).sum = 0
  · have single : sweptLeaves binding bound.asset residual (sweepHolders keccak256 bound terminal) =
        [⟨binding.fallbackRecipient, bound.asset, residual⟩] := if_pos empty
    refine ⟨fun leaf => asset_of_mem_sweptLeaves, ?_, ?_, ascending, fun _ => by rw [single]; rfl,
      fun held => absurd empty held⟩
    · intro leaf member
      rw [single, List.mem_singleton] at member
      rw [member]
      exact nonzero
    · rw [single]
      exact Nat.add_zero _
  · have shares : sharesOf residual.toNat (balancesOf (sweepHolders keccak256 bound terminal)).sum
        (sweepHolders keccak256 bound terminal) ≤ residual.toNat := sum_shares_le _ _ _ le_rfl
    have inside := residual.isLt
    have all : payouts (sweptLeaves binding bound.asset residual
          (sweepHolders keccak256 bound terminal)) =
        proRata residual.toNat (balancesOf (sweepHolders keccak256 bound terminal)).sum
            (sweepHolders keccak256 bound terminal) ++
          payment binding.fallbackRecipient (residual.toNat - sharesOf residual.toNat
            (balancesOf (sweepHolders keccak256 bound terminal)).sum
            (sweepHolders keccak256 bound terminal)) := by
      rw [sweptLeaves, if_neg empty, payouts_append, payouts_shareLeaves products,
        payouts_leafOf (by omega)]
    refine ⟨fun leaf => asset_of_mem_sweptLeaves, positive_of_payouts ?_, ?_, ascending,
      fun none => absurd none empty, fun _ => ⟨_, ?_, all⟩⟩
    · intro entry member
      rw [all] at member
      rcases List.mem_append.mp member with share | last
      · exact proRata_positive share
      · exact payment_positive last
    · rw [all, paid_append, paid_proRata, paid_payment]
      exact Nat.add_sub_cancel' shares
    · have bounded := residual_sub_sum_shares_lt residual.toNat (Nat.pos_of_ne_zero empty)
      rwa [balancesOf, List.length_map] at bounded

/-- The sweep of one asset succeeds exactly when the total of its holders and every product
of the residual with a balance fit a word. -/
theorem exists_sweepAsset_eq_ok {binding : ExitBindingV5} {terminal : StateMap}
    {bound : ExitAssetBindingV5} {residual : U256}
    (supported : bound.kind = 0 ∨ bound.kind = 1)
    (readable : BalancesReadable keccak256 bound terminal) :
    (∃ leaves, sweepAsset keccak256 binding terminal bound residual = .ok leaves) ↔
      (balancesOf (sweepHolders keccak256 bound terminal)).sum < 2 ^ 256 ∧
        ProductsFit residual (sweepHolders keccak256 bound terminal) := by
  rw [sweepAsset_eq residual (reads_of_readable supported readable)]
  split_ifs with fits products
  · exact ⟨fun _ => ⟨fits, products⟩, fun _ => ⟨_, rfl⟩⟩
  · exact ⟨by rintro ⟨_, ⟨⟩⟩, fun both => absurd both.2 products⟩
  · exact ⟨by rintro ⟨_, ⟨⟩⟩, fun both => absurd both.1 fits⟩

end Loops

/-! ### The whole sweep -/

section Sweep

variable {keccak256 : Bytes → B256}

/-- The message of the check against paying more than the residual. -/
def distributedMore : StfError :=
  .longLivedRoom "exit sweep distributed more than the residual"

/-- Gathering the holders fails with a message about a balance. -/
theorem gatherBalance_ne_distributedMore (bound : ExitAssetBindingV5) (terminal : StateMap)
    (gathered : U256 × List (Address × U256)) (entry : Address × AccountRecord) :
    gatherBalance keccak256 bound terminal gathered entry ≠ .error distributedMore := by
  have balance : sweepBalance keccak256 bound terminal entry ≠ .error distributedMore := by
    unfold sweepBalance
    split
    · nofun
    · split
      · exact bind_ne_error (refuse_ne_error (by simp [distributedMore])) fun _ _ =>
          pure_ne_error _
      · simp [distributedMore]
  unfold gatherBalance
  split
  · nofun
  · refine bind_ne_error balance fun value _ => ?_
    split
    · exact pure_ne_error _
    · exact bind_ne_error (orRefuse_ne_error (by simp [distributedMore])) fun _ _ =>
        pure_ne_error _

theorem sweepAsset_ne_distributedMore (binding : ExitBindingV5) (terminal : StateMap)
    (bound : ExitAssetBindingV5) (residual : U256) :
    sweepAsset keccak256 binding terminal bound residual ≠ .error distributedMore := by
  intro failed
  have begins := @foldlM_ne_error _ _ _ distributedMore (gatherBalance keccak256 bound terminal)
    terminal.accounts.toList (0, []) fun _ entry _ gathered _ _ =>
      gatherBalance_ne_distributedMore bound terminal gathered entry
  cases gathers : terminal.accounts.toList.foldlM (gatherBalance keccak256 bound terminal)
      (0, []) with
  | error failure =>
    unfold sweepAsset at failed
    rw [gathers] at failed begins
    exact begins (congrArg Except.error (Except.error.inj failed))
  | ok gathered =>
    rw [sweepAsset_eq residual
      (foldlM_forall gathers fun entry before after => reads_of_gatherBalance)] at failed
    split_ifs at failed <;> simp [distributedMore, shareOverflow, balanceOverflow] at failed

theorem deriveCloseSweepV5_ne_distributedMore (binding : ExitBindingV5) (terminal : StateMap)
    (residuals : BTreeMap Address U256) :
    deriveCloseSweepV5 keccak256 binding terminal residuals ≠ .error distributedMore := by
  refine bind_ne_error (mapM_ne_error fun bound _ => ?_) fun lists _ => pure_ne_error _
  unfold sweepBoundAsset
  split
  · nofun
  · exact sweepAsset_ne_distributedMore binding terminal bound _

/-- What the sweep of one declared asset returns: nothing without a residual. -/
theorem sweepBoundAsset_spec {binding : ExitBindingV5} {terminal : StateMap}
    {residuals : BTreeMap Address U256} {bound : ExitAssetBindingV5} {leaves : List ExitRecordV5}
    (swept : sweepBoundAsset keccak256 binding terminal residuals bound = .ok leaves) :
    (residuals.getD bound.asset 0 = 0 → leaves = []) ∧
      (residuals.getD bound.asset 0 ≠ 0 → SweptAsset keccak256 binding terminal bound
        (residuals.getD bound.asset 0) leaves) := by
  unfold sweepBoundAsset at swept
  by_cases zero : residuals.getD bound.asset 0 = 0
  · rw [if_pos zero, Except.ok.injEq] at swept
    exact ⟨fun _ => swept.symm, fun nonzero => absurd zero nonzero⟩
  · rw [if_neg zero] at swept
    exact ⟨fun none => absurd none zero, fun nonzero => sweepAsset_spec nonzero swept⟩

/-- A leaf of a declared asset is positive, in that asset, and only there with a residual. -/
theorem sweepBoundAsset_leaf {binding : ExitBindingV5} {terminal : StateMap}
    {residuals : BTreeMap Address U256} {bound : ExitAssetBindingV5} {leaves : List ExitRecordV5}
    (swept : sweepBoundAsset keccak256 binding terminal residuals bound = .ok leaves)
    {leaf : ExitRecordV5} (member : leaf ∈ leaves) :
    leaf.asset = bound.asset ∧ leaf.amount ≠ 0 ∧ residuals.getD bound.asset 0 ≠ 0 := by
  obtain ⟨empty, sweeps⟩ := sweepBoundAsset_spec swept
  have residue : residuals.getD bound.asset 0 ≠ 0 := fun zero => by
    rw [empty zero] at member
    exact absurd member List.not_mem_nil
  exact ⟨(sweeps residue).asset leaf member, (sweeps residue).positive leaf member, residue⟩

/-- The leaves of assets other than a given one are in other assets. -/
theorem sweepBoundAssets_avoid {binding : ExitBindingV5} {terminal : StateMap}
    {residuals : BTreeMap Address U256} {assets : List ExitAssetBindingV5}
    {lists : List (List ExitRecordV5)}
    (swept : assets.mapM (sweepBoundAsset keccak256 binding terminal residuals) = .ok lists)
    {asset : Address} (different : ∀ bound ∈ assets, bound.asset ≠ asset) :
    ∀ leaf ∈ lists.flatten, leaf.asset ≠ asset := by
  intro leaf member same
  obtain ⟨leaves, listed, inside⟩ := List.mem_flatten.mp member
  obtain ⟨bound, declared, single⟩ := mem_of_mapM_eq_ok swept listed
  exact different bound declared ((sweepBoundAsset_leaf single inside).1.symm.trans same)

/-- Close sweep arithmetic. In a sweep over assets in strictly increasing order the leaves of
every declared asset with a residual stand together and are what the residual is shared into;
every leaf is positive and in a declared asset with a residual. No sweep at all, of whatever
binding, fails because it paid more than the residual. -/
theorem closeSweep_arithmetic (keccak256 : Bytes → B256) (binding : ExitBindingV5)
    (terminal : StateMap) (residuals : BTreeMap Address U256) :
    (∀ leaves, deriveCloseSweepV5 keccak256 binding terminal residuals = .ok leaves →
      binding.assets.Pairwise (fun earlier later => earlier.asset < later.asset) →
        (∀ bound ∈ binding.assets, residuals.getD bound.asset 0 ≠ 0 →
          ∃ before own after, leaves = before ++ own ++ after ∧
            (∀ leaf ∈ before ++ after, leaf.asset ≠ bound.asset) ∧
            SweptAsset keccak256 binding terminal bound (residuals.getD bound.asset 0) own) ∧
          ∀ leaf ∈ leaves, leaf.amount ≠ 0 ∧
            ∃ bound ∈ binding.assets, bound.asset = leaf.asset ∧
              residuals.getD bound.asset 0 ≠ 0) ∧
      deriveCloseSweepV5 keccak256 binding terminal residuals ≠
        .error (.longLivedRoom "exit sweep distributed more than the residual") := by
  refine ⟨fun leaves derived sorted => ?_,
    deriveCloseSweepV5_ne_distributedMore binding terminal residuals⟩
  obtain ⟨lists, swept, flattened⟩ := bind_eq_ok.mp derived
  have flat : leaves = lists.flatten := (pure_eq_ok.mp flattened).symm
  refine ⟨fun bound declared residue => ?_, fun leaf member => ?_⟩
  · obtain ⟨earlier, later, parts⟩ := List.append_of_mem declared
    rw [parts] at swept sorted
    obtain ⟨before, own, after, front, here, back, rfl⟩ := mapM_append_cons_eq_ok swept
    obtain ⟨-, ordered, below⟩ := List.pairwise_append.mp sorted
    refine ⟨before.flatten, own, after.flatten, ?_, ?_, (sweepBoundAsset_spec here).2 residue⟩
    · rw [flat, List.flatten_append, List.flatten_cons, List.append_assoc]
    · intro leaf member
      rcases List.mem_append.mp member with inFront | behind
      · exact sweepBoundAssets_avoid front (fun other listed =>
          (BitVec.ne_of_lt (below other listed bound List.mem_cons_self))) leaf inFront
      · exact sweepBoundAssets_avoid back (fun other listed =>
          (BitVec.ne_of_lt ((List.pairwise_cons.mp ordered).1 other listed)).symm) leaf behind
  · rw [flat] at member
    obtain ⟨own, listed, inside⟩ := List.mem_flatten.mp member
    obtain ⟨bound, declared, single⟩ := mem_of_mapM_eq_ok swept listed
    obtain ⟨same, positive, residue⟩ := sweepBoundAsset_leaf single inside
    exact ⟨positive, bound, declared, same.symm, residue⟩

/-- A binding that declares one native asset under the address 7. -/
def sampleExitBinding : ExitBindingV5 := ⟨12, 0, 1, [⟨7, 0, 0, 0⟩], 9⟩

/-- A room with an empty exit queue and two holders of native balances. -/
def sampleTerminal (first second : U256) : StateMap :=
  let accounts : List (Address × AccountRecord) :=
    [(3, ⟨0, first, [], ∅⟩), (4, ⟨0, second, [], ∅⟩), (12, ⟨1, 0, [0x60], ∅⟩)]
  let storage : List (Address × BTreeSet U256) := [(12, .ofList [(0 : U256)])]
  .fromCompact (.ofList accounts) (.ofList (accounts.map Prod.fst)) (.ofList storage)

/-- The residual map of a room whose only asset is the sample one. -/
def sampleResiduals (residual : U256) : BTreeMap Address U256 :=
  let entries : List (Address × U256) := [(7, residual)]
  .ofList entries

/-- Five units over balances 1 and 2: shares of one and three, and one unit of dust. -/
theorem closeSweep_arithmetic_sample :
    ∃ own, deriveCloseSweepV5 sampleDigest sampleExitBinding (sampleTerminal 1 2)
        (sampleResiduals 5) = .ok own ∧
      (∀ leaf ∈ own, leaf.amount ≠ 0) ∧ payouts own = [(3, 1), (4, 3), (9, 1)] := by
  have derived : deriveCloseSweepV5 sampleDigest sampleExitBinding (sampleTerminal 1 2)
      (sampleResiduals 5) = .ok [⟨3, 7, 1⟩, ⟨4, 7, 3⟩, ⟨9, 7, 1⟩] := by decide +kernel
  obtain ⟨-, leaves⟩ := (closeSweep_arithmetic sampleDigest sampleExitBinding (sampleTerminal 1 2)
    (sampleResiduals 5)).1 _ derived (by decide)
  exact ⟨_, derived, fun leaf member => (leaves leaf member).1, by decide⟩

end Sweep

/-! ### When the sweep can be computed -/

/-- Every declared asset with a residual has holders whose balances add up within a word, and
so does the product of the residual with every one of them. -/
def SweepFits (keccak256 : Bytes → B256) (binding : ExitBindingV5) (terminal : StateMap)
    (residuals : BTreeMap Address U256) : Prop :=
  ∀ bound ∈ binding.assets, residuals.getD bound.asset 0 ≠ 0 →
    (balancesOf (sweepHolders keccak256 bound terminal)).sum < 2 ^ 256 ∧
      ProductsFit (residuals.getD bound.asset 0) (sweepHolders keccak256 bound terminal)

instance (keccak256 : Bytes → B256) (binding : ExitBindingV5) (terminal : StateMap)
    (residuals : BTreeMap Address U256) :
    Decidable (SweepFits keccak256 binding terminal residuals) :=
  inferInstanceAs (Decidable (∀ bound ∈ binding.assets, _))

/-- Once the kinds are supported and the balances readable, a close can be computed exactly
when the totals and the products fit a word, and is refused with the message of the one or the
other otherwise. -/
theorem deriveCloseSweepV5_succeeds_iff (keccak256 : Bytes → B256) (binding : ExitBindingV5)
    (terminal : StateMap) (residuals : BTreeMap Address U256)
    (supported : ∀ bound ∈ binding.assets, bound.kind = 0 ∨ bound.kind = 1)
    (readable : ∀ bound ∈ binding.assets, residuals.getD bound.asset 0 ≠ 0 →
      BalancesReadable keccak256 bound terminal) :
    ((∃ leaves, deriveCloseSweepV5 keccak256 binding terminal residuals = .ok leaves) ↔
        SweepFits keccak256 binding terminal residuals) ∧
      (¬ SweepFits keccak256 binding terminal residuals →
        deriveCloseSweepV5 keccak256 binding terminal residuals =
            .error (.longLivedRoom [.text "exit sweep balance total", .text " overflow"]) ∨
          deriveCloseSweepV5 keccak256 binding terminal residuals =
            .error (.longLivedRoom "exit sweep share overflow")) := by
  have succeeds : (∃ leaves, deriveCloseSweepV5 keccak256 binding terminal residuals =
      .ok leaves) ↔ SweepFits keccak256 binding terminal residuals := by
    have flattened : (∃ leaves, deriveCloseSweepV5 keccak256 binding terminal residuals =
        .ok leaves) ↔ ∃ lists, binding.assets.mapM
          (sweepBoundAsset keccak256 binding terminal residuals) = .ok lists := by
      constructor
      · rintro ⟨leaves, swept⟩
        obtain ⟨lists, mapped, -⟩ := bind_eq_ok.mp swept
        exact ⟨lists, mapped⟩
      · rintro ⟨lists, mapped⟩
        exact ⟨lists.flatten, bind_eq_ok.mpr ⟨lists, mapped, rfl⟩⟩
    rw [flattened, exists_mapM_eq_ok]
    refine forall₂_congr fun bound member => ?_
    unfold sweepBoundAsset
    by_cases zero : residuals.getD bound.asset 0 = 0
    · rw [if_pos zero]
      exact ⟨fun _ residue => absurd zero residue, fun _ => ⟨[], rfl⟩⟩
    · rw [if_neg zero, exists_sweepAsset_eq_ok (supported bound member)
        (readable bound member zero)]
      exact ⟨fun fits _ => fits, fun fits => fits zero⟩
  refine ⟨succeeds, fun overflows => ?_⟩
  cases derived : deriveCloseSweepV5 keccak256 binding terminal residuals with
  | ok leaves => exact absurd (succeeds.mp ⟨leaves, derived⟩) overflows
  | error failure =>
    by_contra other
    rw [not_or] at other
    refine bind_ne_error (mapM_ne_error fun bound member => ?_) (fun _ _ => pure_ne_error _)
      derived
    unfold sweepBoundAsset
    split
    case isTrue => nofun
    case isFalse residue =>
    rw [sweepAsset_eq _ (reads_of_readable (supported bound member)
      (readable bound member residue))]
    split_ifs
    · nofun
    · exact fun same => other.2 same.symm
    · exact fun same => other.1 same.symm

/-- Five units over balances 1 and 2 are swept; two units over a balance of `2 ^ 255` overflow. -/
theorem deriveCloseSweepV5_succeeds_iff_sample :
    (∃ leaves, deriveCloseSweepV5 sampleDigest sampleExitBinding (sampleTerminal 1 2)
      (sampleResiduals 5) = .ok leaves) ∧
      (deriveCloseSweepV5 sampleDigest sampleExitBinding (sampleTerminal (.twoPow 256 255) 0)
          (sampleResiduals 2) =
          .error (.longLivedRoom [.text "exit sweep balance total", .text " overflow"]) ∨
        deriveCloseSweepV5 sampleDigest sampleExitBinding (sampleTerminal (.twoPow 256 255) 0)
          (sampleResiduals 2) = .error (.longLivedRoom "exit sweep share overflow")) :=
  ⟨(deriveCloseSweepV5_succeeds_iff sampleDigest sampleExitBinding (sampleTerminal 1 2)
      (sampleResiduals 5) (by decide +kernel) (by decide +kernel)).1.mpr (by decide +kernel),
    (deriveCloseSweepV5_succeeds_iff sampleDigest sampleExitBinding
      (sampleTerminal (.twoPow 256 255) 0) (sampleResiduals 2) (by decide +kernel)
      (by decide +kernel)).2 (by decide +kernel)⟩

/-- Two holders with the balance `2 ^ 255` block a close with any residual, and one such
holder a close with a residual of two. -/
theorem deriveCloseSweepV5_blocked :
    (∀ bound ∈ sampleExitBinding.assets, bound.kind = 0 ∨ bound.kind = 1) ∧
      (∀ bound ∈ sampleExitBinding.assets,
        BalancesReadable sampleDigest bound (sampleTerminal (.twoPow 256 255) 0)) ∧
      deriveCloseSweepV5 sampleDigest sampleExitBinding (sampleTerminal (.twoPow 256 255) 0)
        (sampleResiduals 2) = .error (.longLivedRoom "exit sweep share overflow") ∧
      (∀ bound ∈ sampleExitBinding.assets,
        BalancesReadable sampleDigest bound
          (sampleTerminal (.twoPow 256 255) (.twoPow 256 255))) ∧
      deriveCloseSweepV5 sampleDigest sampleExitBinding
          (sampleTerminal (.twoPow 256 255) (.twoPow 256 255)) (sampleResiduals 1) =
          .error (.longLivedRoom [.text "exit sweep balance total", .text " overflow"]) := by
  decide +kernel

end Zkdeal

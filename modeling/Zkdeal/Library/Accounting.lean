/-
This file is the bookkeeping a ledger rests on, over arbitrary keys and assets.

Three pieces. Totals per key are accumulated in an ordered map with checked
additions; `Represents` says that such a map holds exactly the sums of a list of
entries. Pro-rata shares are floors of `residual * balance / total`, and never
add up to more than the residual. A custody is what an escrow owes per asset, in
four classes; a transition moves value from pending through controlled to
claimable and neither creates nor destroys any, and so does every run.
-/

import Zkdeal.Library.Words

namespace Accounting

open Std

/-! ### Totals per key -/

section Totals

variable {Key : Type} [DecidableEq Key] {width : Nat}

/-- The sum of the entries under one key. -/
def sumOf (key : Key) (entries : List (Key × BitVec width)) : Nat :=
  ((entries.filter fun entry => entry.1 = key).map fun entry => entry.2.toNat).sum

@[simp]
theorem sumOf_nil (key : Key) : sumOf key ([] : List (Key × BitVec width)) = 0 := rfl

@[simp]
theorem sumOf_cons (key : Key) (entry : Key × BitVec width)
    (rest : List (Key × BitVec width)) :
    sumOf key (entry :: rest) =
      (if entry.1 = key then entry.2.toNat else 0) + sumOf key rest := by
  unfold sumOf
  by_cases same : entry.1 = key <;> simp [same]

@[simp]
theorem sumOf_append (key : Key) (first second : List (Key × BitVec width)) :
    sumOf key (first ++ second) = sumOf key first + sumOf key second := by
  unfold sumOf
  rw [List.filter_append, List.map_append, List.sum_append]

theorem sumOf_eq_zero (key : Key) (entries : List (Key × BitVec width))
    (absent : ∀ entry ∈ entries, entry.1 ≠ key) : sumOf key entries = 0 := by
  unfold sumOf
  rw [List.filter_eq_nil_iff.mpr fun entry member => by simpa using absent entry member]
  rfl

variable [Ord Key] [TransOrd Key]

/-- Running totals per key. -/
abbrev Totals (Key : Type) [Ord Key] (width : Nat) := ExtTreeMap Key (BitVec width)

/-- Add an amount to the total of one key, failing on overflow. -/
def credit (totals : Totals Key width) (key : Key) (amount : BitVec width) :
    Option (Totals Key width) :=
  (Words.checkedAdd (totals.getD key 0) amount).map (totals.insert key)

/-- The totals are the sums of the entries, and no key is present without an entry. -/
structure Represents (entries : List (Key × BitVec width)) (totals : Totals Key width) :
    Prop where
  /-- Every key's total is the sum of its entries. -/
  sums : ∀ key, (totals.getD key 0).toNat = sumOf key entries
  /-- A key is present exactly when it has an entry. -/
  keys : ∀ key, key ∈ totals ↔ ∃ entry ∈ entries, entry.1 = key

theorem represents_empty : Represents ([] : List (Key × BitVec width)) ∅ where
  sums key := by rw [ExtTreeMap.getD_empty, sumOf_nil, Words.toNat_eq_zero]
  keys key := by simp

/-- One checked credit extends the represented entries by one. -/
theorem Represents.credit [LawfulEqOrd Key] {entries : List (Key × BitVec width)}
    {totals next : Totals Key width} (represented : Represents entries totals) {key : Key}
    {amount : BitVec width} (credited : credit totals key amount = some next) :
    Represents (entries ++ [(key, amount)]) next := by
  obtain ⟨sum, added, rfl⟩ := Option.map_eq_some_iff.mp credited
  have value := Words.checkedAdd_eq_some.mp added
  constructor
  · intro other
    rw [sumOf_append, sumOf_cons, sumOf_nil, ExtTreeMap.getD_insert, ← represented.sums other]
    by_cases same : key = other
    · subst same
      rw [if_pos compare_self, if_pos rfl, ← value, Nat.add_zero]
    · rw [if_neg fun equal => same (Std.compare_eq_iff_eq.mp equal), if_neg same,
        Nat.add_zero]
  · intro other
    rw [ExtTreeMap.mem_insert, represented.keys other, Std.compare_eq_iff_eq]
    simp only [List.mem_append, List.mem_singleton]
    constructor
    · rintro (rfl | ⟨entry, member, same⟩)
      · exact ⟨_, Or.inr rfl, rfl⟩
      · exact ⟨entry, Or.inl member, same⟩
    · rintro ⟨entry, member | rfl, same⟩
      · exact Or.inr ⟨entry, member, same⟩
      · exact Or.inl same

end Totals

/-! ### Terms picked by a key -/

/-- Of items with different keys, a sum over one key has one term. -/
theorem sum_ite_key_eq {Item Key : Type} [DecidableEq Key] {key : Item → Key} {items : List Item}
    (distinct : items.Pairwise fun first second => key first ≠ key second) {item : Item}
    (member : item ∈ items) (value : Item → Nat) :
    (items.map fun other => if key other = key item then value other else 0).sum = value item := by
  induction items with
  | nil => cases member
  | cons first rest inductionHypothesis =>
    obtain ⟨apart, others⟩ := List.pairwise_cons.mp distinct
    rw [List.map_cons, List.sum_cons]
    rcases List.mem_cons.mp member with rfl | later
    · have none : (rest.map fun other => if key other = key item then value other else 0).sum =
          0 := by
        refine List.sum_eq_zero fun term listed => ?_
        obtain ⟨other, among, rfl⟩ := List.mem_map.mp listed
        exact if_neg (apart other among).symm
      rw [if_pos rfl, none, Nat.add_zero]
    · rw [if_neg (apart item later), Nat.zero_add, inductionHypothesis others later]

/-- A sum over items in groups is the sum over the groups. -/
theorem sum_map_flatMap {Group Item : Type} (groups : List Group) (items : Group → List Item)
    (value : Item → Nat) :
    ((groups.flatMap items).map value).sum =
      (groups.map fun group => ((items group).map value).sum).sum := by
  induction groups with
  | nil => rfl
  | cons group rest inductionHypothesis =>
    rw [List.flatMap_cons, List.map_append, List.sum_append, inductionHypothesis, List.map_cons,
      List.sum_cons]

/-! ### Pro-rata shares -/

/-- Division with remainder, summed over the balances. -/
theorem sum_shares_add_remainders (residual total : Nat) (balances : List Nat) :
    total * (balances.map fun balance => residual * balance / total).sum +
      (balances.map fun balance => residual * balance % total).sum = residual * balances.sum := by
  induction balances with
  | nil => simp
  | cons balance rest inductionHypothesis =>
    have division := Nat.div_add_mod (residual * balance) total
    simp only [List.map_cons, List.sum_cons, Nat.mul_add]
    omega

/-- Shares rounded down never exceed what they share out. -/
theorem sum_shares_le (residual total : Nat) (balances : List Nat)
    (bounded : balances.sum ≤ total) :
    (balances.map fun balance => residual * balance / total).sum ≤ residual := by
  rcases Nat.eq_zero_or_pos total with zero | positive
  · have nothing : ∀ value ∈ balances.map (fun balance => residual * balance / total),
        value = 0 := by
      intro value member
      obtain ⟨balance, -, rfl⟩ := List.mem_map.mp member
      rw [zero, Nat.div_zero]
    rw [List.sum_eq_zero nothing]
    exact Nat.zero_le _
  · have division := sum_shares_add_remainders residual total balances
    have scaled := Nat.mul_le_mul_left residual bounded
    refine Nat.le_of_mul_le_mul_left (c := total) ?_ positive
    rw [Nat.mul_comm total residual]
    omega

/-- What the shares of all balances leave over is less than a unit each. -/
theorem residual_sub_sum_shares_lt (residual : Nat) {balances : List Nat}
    (positive : 0 < balances.sum) :
    residual - (balances.map fun balance => residual * balance / balances.sum).sum <
      balances.length := by
  have division := sum_shares_add_remainders residual balances.sum balances
  have below : (balances.map fun balance => residual * balance % balances.sum).sum ≤
      balances.length * (balances.sum - 1) := by
    have each : ∀ rest ∈ balances.map fun balance => residual * balance % balances.sum,
        rest ≤ balances.sum - 1 := by
      intro rest member
      obtain ⟨balance, -, rfl⟩ := List.mem_map.mp member
      exact Nat.le_sub_one_of_lt (Nat.mod_lt _ positive)
    have bound := List.sum_le_card_nsmul _ _ each
    rwa [List.length_map, smul_eq_mul] at bound
  have holders : 0 < balances.length :=
    List.length_pos_of_ne_nil fun none => by rw [none] at positive; exact absurd positive (by simp)
  refine Nat.lt_of_mul_lt_mul_left (a := balances.sum) ?_
  rw [Nat.mul_sub, Nat.mul_comm balances.sum residual, Nat.mul_comm balances.sum balances.length]
  have smaller : balances.length * (balances.sum - 1) < balances.length * balances.sum :=
    Nat.mul_lt_mul_of_pos_left (Nat.sub_one_lt_of_lt positive) holders
  omega

/-- The shares of all balances are everything exactly when no division leaves a rest. -/
theorem sum_shares_eq_iff (residual : Nat) {balances : List Nat} (positive : 0 < balances.sum) :
    (balances.map fun balance => residual * balance / balances.sum).sum = residual ↔
      ∀ balance ∈ balances, balances.sum ∣ residual * balance := by
  have division := sum_shares_add_remainders residual balances.sum balances
  have exact : (balances.map fun balance => residual * balance / balances.sum).sum = residual ↔
      (balances.map fun balance => residual * balance % balances.sum).sum = 0 := by
    constructor
    · intro whole
      rw [whole, Nat.mul_comm] at division
      omega
    · intro nothing
      rw [nothing, Nat.add_zero, Nat.mul_comm residual] at division
      exact Nat.eq_of_mul_eq_mul_left positive division
  rw [exact, List.sum_eq_zero_iff, List.forall_mem_map]
  exact forall₂_congr fun balance _ => Nat.dvd_iff_mod_eq_zero.symm

/-! ### Custody -/

section Custody

variable {Asset : Type}

/-- What an escrow owes, per asset: deposits not yet consumed, value the application
controls, withdrawals not yet collected, and value already paid out. -/
structure Custody (Asset : Type) where
  pending : Asset → Nat
  controlled : Asset → Nat
  claimable : Asset → Nat
  paid : Asset → Nat

/-- Everything the escrow holds or has held of one asset. -/
def Custody.total (custody : Custody Asset) (asset : Asset) : Nat :=
  custody.pending asset + custody.controlled asset + custody.claimable asset +
    custody.paid asset

/-- A transition consumes deposits into control and releases withdrawals out of it. -/
structure Moves (before after : Custody Asset) (deposited withdrawn : Asset → Nat) : Prop where
  pending : ∀ asset, before.pending asset = after.pending asset + deposited asset
  controlled : ∀ asset,
    after.controlled asset + withdrawn asset = before.controlled asset + deposited asset
  claimable : ∀ asset, after.claimable asset = before.claimable asset + withdrawn asset
  paid : ∀ asset, after.paid asset = before.paid asset

theorem Moves.trans {first second third : Custody Asset}
    {deposited withdrawn moreDeposited moreWithdrawn : Asset → Nat}
    (earlier : Moves first second deposited withdrawn)
    (later : Moves second third moreDeposited moreWithdrawn) :
    Moves first third (fun asset => deposited asset + moreDeposited asset)
      fun asset => withdrawn asset + moreWithdrawn asset where
  pending asset := by rw [earlier.pending, later.pending]; omega
  controlled asset := by
    have one := earlier.controlled asset
    have two := later.controlled asset
    omega
  claimable asset := by rw [later.claimable, earlier.claimable]; omega
  paid asset := by rw [later.paid, earlier.paid]

/-- No transition creates or destroys value. -/
theorem Moves.total_eq {before after : Custody Asset} {deposited withdrawn : Asset → Nat}
    (moves : Moves before after deposited withdrawn) (asset : Asset) :
    after.total asset = before.total asset := by
  have pending := moves.pending asset
  have controlled := moves.controlled asset
  have claimable := moves.claimable asset
  have paid := moves.paid asset
  unfold Custody.total
  omega

end Custody

end Accounting

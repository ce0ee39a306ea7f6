/-
This file counts the leaves of a closing batch against the capacity of the
withdrawal tree.

The limits of a room bound its accounts, its slots and its declared assets, and the
capacity is meant to be out of reach of all of them together. It is, as long as no
two declared tokens share a balance: every share is then paid for by a slot of its
own. Assets that share a token and a balance slot share its holders, and the dust
leaves and the queue records come on top.
-/

import Zkdeal.AssetSeparation
import Zkdeal.ExitRuns
import Zkdeal.SweepShares
import Zkdeal.Library.Maps

namespace Zkdeal

open Words Guard Binding Accounting

/-! ### The number of leaves -/

/-- How many leaves the sweep of one declared asset has: none without a residual, one if nobody
holds the asset, and otherwise one for every holder with a share of at least a unit and one
more if some share was rounded. -/
def sweepLeafCount (keccak256 : Bytes → B256) (terminal : StateMap)
    (residuals : BTreeMap Address U256) (bound : ExitAssetBindingV5) : Nat :=
  let residual := (residuals.getD bound.asset 0).toNat
  let holders := sweepHolders keccak256 bound terminal
  let total := (balancesOf holders).sum
  if residual = 0 then 0
  else if total = 0 then 1
  else (holders.countP fun holder => total ≤ residual * holder.2.toNat) +
    if ∀ balance ∈ balancesOf holders, total ∣ residual * balance then 0 else 1

section Counting

variable {keccak256 : Bytes → B256}

theorem length_payouts (leaves : List ExitRecordV5) : (payouts leaves).length = leaves.length :=
  List.length_map _

theorem length_payment (recipient : Address) (amount : Nat) :
    (payment recipient amount).length = if amount = 0 then 0 else 1 := by
  unfold payment
  split <;> rfl

/-- A holder gets a leaf exactly when the product reaches the total. -/
theorem length_proRata {residual total : Nat} (positive : 0 < total)
    (holders : List (Address × U256)) :
    (proRata residual total holders).length =
      holders.countP fun holder => total ≤ residual * holder.2.toNat := by
  induction holders with
  | nil => rfl
  | cons holder rest inductionHypothesis =>
    have reaches : residual * holder.2.toNat / total = 0 ↔
        ¬ total ≤ residual * holder.2.toNat := by
      rw [Nat.div_eq_zero_iff_lt positive, not_le]
    rw [proRata_cons, List.length_append, length_payment, inductionHypothesis, List.countP_cons,
      Nat.add_comm]
    simp only [reaches, decide_eq_true_eq, ite_not]

/-- The leaves of one asset are as many as its holders and divisions say. -/
theorem SweptAsset.length_eq {binding : ExitBindingV5} {terminal : StateMap}
    {residuals : BTreeMap Address U256} {bound : ExitAssetBindingV5} {leaves : List ExitRecordV5}
    (residue : residuals.getD bound.asset 0 ≠ 0)
    (swept : SweptAsset keccak256 binding terminal bound (residuals.getD bound.asset 0) leaves) :
    leaves.length = sweepLeafCount keccak256 terminal residuals bound := by
  unfold sweepLeafCount
  dsimp only
  rw [if_neg fun zero => residue (toNat_eq_zero.mp zero), ← length_payouts]
  by_cases empty : (balancesOf (sweepHolders keccak256 bound terminal)).sum = 0
  · rw [if_pos empty, swept.unheld empty]
    rfl
  · have positive := Nat.pos_of_ne_zero empty
    obtain ⟨dust, -, paidOut⟩ := swept.shared empty
    have shares := sum_shares_eq_iff (residuals.getD bound.asset 0).toNat positive
    have whole := swept.sum
    rw [paidOut, paid_append, paid_payment, paid_proRata] at whole
    have rounded : dust = 0 ↔ ∀ balance ∈ balancesOf (sweepHolders keccak256 bound terminal),
        (balancesOf (sweepHolders keccak256 bound terminal)).sum ∣
          (residuals.getD bound.asset 0).toNat * balance := by
      rw [← shares]
      omega
    rw [if_neg empty, paidOut, List.length_append, length_proRata positive, length_payment]
    simp only [rounded]

/-- The sweep has as many leaves as its assets together. -/
theorem deriveCloseSweepV5_length {binding : ExitBindingV5} {terminal : StateMap}
    {residuals : BTreeMap Address U256} {leaves : List ExitRecordV5}
    (derived : deriveCloseSweepV5 keccak256 binding terminal residuals = .ok leaves) :
    leaves.length =
      (binding.assets.map (sweepLeafCount keccak256 terminal residuals)).sum := by
  obtain ⟨lists, swept, flattened⟩ := bind_eq_ok.mp derived
  rw [← pure_eq_ok.mp flattened, List.length_flatten]
  have pairwise := mapM_eq_ok.mp swept
  clear derived swept flattened
  generalize binding.assets = assets at pairwise
  induction pairwise with
  | nil => rfl
  | @cons bound own assets lists head tail inductionHypothesis =>
    rw [List.map_cons, List.map_cons, List.sum_cons, List.sum_cons, inductionHypothesis]
    congr 1
    obtain ⟨empty, sweeps⟩ := sweepBoundAsset_spec head
    by_cases zero : residuals.getD bound.asset 0 = 0
    · rw [empty zero, sweepLeafCount, if_pos (toNat_eq_zero.mpr zero)]
      rfl
    · exact (sweeps zero).length_eq zero

theorem readExitRecordsV5_length {binding : ExitBindingV5} {terminal : StateMap}
    {first last : U64} {records : List ExitRecordV5}
    (read : readExitRecordsV5 binding terminal first last = .ok records) :
    records.length = last.toNat - first.toNat := by
  rw [← (mapM_eq_ok.mp read).length_eq, recordIndices, List.length_range']

/-- The capacity is defined exactly up to its bound. -/
theorem withdrawalTreeCapacityV5_eq_ok {leafCount : Nat} :
    (∃ capacity, withdrawalTreeCapacityV5 leafCount = .ok capacity) ↔
      leafCount ≤ maxWithdrawalCapacityV5.toNat := by
  constructor
  · rintro ⟨capacity, fits⟩
    exact withdrawalTreeCapacityV5_bound fits
  · intro small
    unfold withdrawalTreeCapacityV5
    split
    · exact ⟨0, rfl⟩
    · exact ⟨_, refuse_bind_eq_ok.mpr ⟨not_lt.mpr small, rfl⟩⟩

end Counting

/-! ### What the envelope pays for -/

/-- The accounts and the stored slots of a state are among these, and these are no more than a
compact witness may list. -/
structure StateMap.FitsEnvelope (state : StateMap) (accounts : List Address)
    (slots : List (Address × U256)) : Prop where
  fewAccounts : accounts.length ≤ maxCompactAccountsV4
  fewSlots : slots.length ≤ maxCompactStorageSlotsV4
  account : ∀ (address : Address) (record : AccountRecord),
    state.accounts[address]? = some record → address ∈ accounts
  slot : ∀ (address : Address) (record : AccountRecord) (slot value : U256),
    state.accounts[address]? = some record → record.storage[slot]? = some value →
      (address, slot) ∈ slots

/-- No two declared tokens share a balance slot. -/
def TokensApart (assets : List ExitAssetBindingV5) : Prop :=
  assets.Pairwise fun earlier later => earlier.kind = 1 → later.kind = 1 →
    (earlier.token, earlier.balanceSlot) ≠ (later.token, later.balanceSlot)

/-- The strings the balance slots of a sweep are hashed from. -/
def sweepMessages (assets : List ExitAssetBindingV5) (terminal : StateMap) : List Bytes :=
  assets.flatMap fun bound => terminal.accounts.toList.map fun entry =>
    balanceSlotMessage entry.1 bound.balanceSlot

section Envelope

variable {keccak256 : Bytes → B256} {terminal : StateMap} {accounts : List Address}
  {slots : List (Address × U256)}

/-- A slot that reads non-zero is stored. -/
theorem StateMap.FitsEnvelope.mem_slots (fits : terminal.FitsEnvelope accounts slots)
    {address : Address} {slot : U256} (nonzero : terminal.storageAt address slot ≠ 0) :
    (address, slot) ∈ slots := by
  unfold StateMap.storageAt at nonzero
  cases found : terminal.accounts[address]? with
  | none =>
    rw [found] at nonzero
    exact absurd rfl nonzero
  | some record =>
    rw [found] at nonzero
    cases stored : record.storage[slot]? with
    | none =>
      refine absurd ?_ nonzero
      dsimp only
      rw [AccountRecord.slot, Std.ExtTreeMap.getD_eq_getD_getElem?, stored]
      rfl
    | some value => exact fits.slot address record slot value found stored

/-- A holder is an account of the state, with a balance that is not zero. -/
theorem mem_sweepHolders {bound : ExitAssetBindingV5} {holder : Address × U256}
    (member : holder ∈ sweepHolders keccak256 bound terminal) :
    ∃ entry ∈ terminal.accounts.toList, entry.1 = holder.1 ∧
      holderBalance keccak256 bound terminal entry ≠ 0 := by
  obtain ⟨entry, listed, holds⟩ := List.mem_filterMap.mp member
  unfold holderOf at holds
  split at holds
  · rename_i claims
    exact ⟨entry, listed, by rw [← Option.some.inj holds], claims.2⟩
  · cases holds

theorem nodup_sweepHolders (bound : ExitAssetBindingV5) (terminal : StateMap) :
    ((sweepHolders keccak256 bound terminal).map Prod.fst).Nodup := by
  refine List.pairwise_map.mpr ((sweepHolders_ascending bound terminal).imp ?_)
  intro earlier later before same
  exact absurd (same ▸ before) (BitVec.lt_irrefl _)

variable (keccak256) in
/-- The holders of one asset are accounts of the envelope. -/
theorem StateMap.FitsEnvelope.length_sweepHolders (fits : terminal.FitsEnvelope accounts slots)
    (bound : ExitAssetBindingV5) :
    (sweepHolders keccak256 bound terminal).length ≤ maxCompactAccountsV4 := by
  have inside : (sweepHolders keccak256 bound terminal).map Prod.fst ⊆ accounts := by
    intro address member
    obtain ⟨holder, listed, rfl⟩ := List.mem_map.mp member
    obtain ⟨entry, entryListed, same, -⟩ := mem_sweepHolders listed
    rw [← same]
    exact fits.account entry.1 entry.2
      (Std.ExtTreeMap.mem_toList_iff_getElem?_eq_some.mp entryListed)
  have counted := ((nodup_sweepHolders bound terminal).subperm inside).length_le
  rw [List.length_map] at counted
  exact counted.trans fits.fewAccounts

/-- The cells the holders of one token have their balances in. -/
def balanceCells (keccak256 : Bytes → B256) (terminal : StateMap) (bound : ExitAssetBindingV5) :
    List (Address × U256) :=
  (sweepHolders keccak256 bound terminal).map fun holder =>
    (bound.token, mappingSlotV5 keccak256 holder.1 bound.balanceSlot)

theorem mem_sweepMessages {assets : List ExitAssetBindingV5} {bound : ExitAssetBindingV5}
    (declared : bound ∈ assets) {holder : Address × U256}
    (member : holder ∈ sweepHolders keccak256 bound terminal) :
    balanceSlotMessage holder.1 bound.balanceSlot ∈ sweepMessages assets terminal := by
  obtain ⟨entry, listed, same, -⟩ := mem_sweepHolders member
  refine List.mem_flatMap.mpr ⟨bound, declared, List.mem_map.mpr ⟨entry, listed, ?_⟩⟩
  rw [same]

/-- Without a collision one cell is the balance of one account in one mapping. -/
theorem eq_of_balanceCell_eq {assets : List ExitAssetBindingV5}
    (clean : ¬ Collides keccak256 (sweepMessages assets terminal))
    {first second : ExitAssetBindingV5} (firstDeclared : first ∈ assets)
    (secondDeclared : second ∈ assets) {holder other : Address × U256}
    (holds : holder ∈ sweepHolders keccak256 first terminal)
    (otherHolds : other ∈ sweepHolders keccak256 second terminal)
    (same : mappingSlotV5 keccak256 holder.1 first.balanceSlot =
      mappingSlotV5 keccak256 other.1 second.balanceSlot) :
    holder.1 = other.1 ∧ first.balanceSlot = second.balanceSlot :=
  balanceSlotMessage_injective (eq_of_hash_eq clean (mem_sweepMessages firstDeclared holds)
    (mem_sweepMessages secondDeclared otherHolds) same)

/-- Tokens that are kept apart have their balances in different cells. -/
theorem nodup_balanceCells {assets tokens : List ExitAssetBindingV5}
    (clean : ¬ Collides keccak256 (sweepMessages assets terminal))
    (declared : ∀ bound ∈ tokens, bound ∈ assets)
    (apart : tokens.Pairwise fun earlier later =>
      (earlier.token, earlier.balanceSlot) ≠ (later.token, later.balanceSlot)) :
    (tokens.flatMap (balanceCells keccak256 terminal)).Nodup := by
  refine List.nodup_flatMap.mpr ⟨fun bound member => ?_, ?_⟩
  · refine List.Nodup.map_on ?_ (List.Nodup.of_map _ (nodup_sweepHolders bound terminal))
    intro holder holds other otherHolds same
    have address := (eq_of_balanceCell_eq clean (declared bound member) (declared bound member)
      holds otherHolds (Prod.ext_iff.mp same).2).1
    exact List.inj_on_of_nodup_map (nodup_sweepHolders bound terminal) holds otherHolds address
  · refine List.Pairwise.imp_of_mem ?_ apart
    intro earlier later earlierMember laterMember different cell inEarlier inLater
    obtain ⟨holder, holds, rfl⟩ := List.mem_map.mp inEarlier
    obtain ⟨other, otherHolds, same⟩ := List.mem_map.mp inLater
    obtain ⟨tokens, places⟩ := Prod.ext_iff.mp same
    have mapping := (eq_of_balanceCell_eq clean (declared later laterMember)
      (declared earlier earlierMember) otherHolds holds places).2
    exact different (Prod.ext tokens.symm mapping.symm)

/-- Every balance cell of a token is a slot of the envelope. -/
theorem StateMap.FitsEnvelope.balanceCells_subset (fits : terminal.FitsEnvelope accounts slots)
    {tokens : List ExitAssetBindingV5} (kinds : ∀ bound ∈ tokens, bound.kind = 1) :
    tokens.flatMap (balanceCells keccak256 terminal) ⊆ slots := by
  intro cell member
  obtain ⟨bound, listed, inside⟩ := List.mem_flatMap.mp member
  obtain ⟨holder, holds, rfl⟩ := List.mem_map.mp inside
  obtain ⟨entry, -, same, nonzero⟩ := mem_sweepHolders holds
  rw [holderBalance, if_neg (by rw [kinds bound listed]; decide), same] at nonzero
  exact fits.mem_slots nonzero

/-- Every record of the queue has its recipient in a slot of its own. -/
theorem StateMap.FitsEnvelope.length_records (fits : terminal.FitsEnvelope accounts slots)
    {binding : ExitBindingV5} {first last : U64} {records : List ExitRecordV5}
    (read : readExitRecordsV5 binding terminal first last = .ok records) :
    records.length ≤ maxCompactStorageSlotsV4 := by
  have each : ∀ index ∈ recordIndices first last,
      binding.recordsBaseSlot.toNat + 3 * index + 2 < 2 ^ 256 ∧
        terminal.storageAt binding.queueContract (recordSlot binding index 0) ≠ 0 := by
    intro index listed
    obtain ⟨record, -, single⟩ := exists_mem_of_mapM_eq_ok read listed
    have small : index < 2 ^ 64 := by
      have bounded := last.isLt
      rw [recordIndices, List.mem_range'_1] at listed
      omega
    have holds := readExitRecordV5_holds small single
    refine ⟨holds.inside, ?_⟩
    have narrow : 160 ≤ 256 := by decide
    rw [holds.recipient]
    exact fun zero => (readExitRecordV5_valid single).1 (setWidth_injective narrow zero)
  have distinct : ((recordIndices first last).map fun index =>
      (binding.queueContract, recordSlot binding index 0)).Nodup := by
    refine List.Nodup.map_on ?_ List.nodup_range'
    intro index listed other otherListed same
    have values := congrArg BitVec.toNat (Prod.ext_iff.mp same).2
    dsimp only at values
    rw [toNat_recordSlot (each index listed).1 (by omega),
      toNat_recordSlot (each other otherListed).1 (by omega)] at values
    omega
  have inside : ((recordIndices first last).map fun index =>
      (binding.queueContract, recordSlot binding index 0)) ⊆ slots := by
    intro cell member
    obtain ⟨index, listed, rfl⟩ := List.mem_map.mp member
    exact fits.mem_slots (each index listed).2
  have counted := (distinct.subperm inside).length_le
  rw [List.length_map, (mapM_eq_ok.mp read).length_eq] at counted
  exact counted.trans fits.fewSlots

variable (keccak256 terminal) in
/-- One asset has at most a leaf for every holder and one more. -/
theorem sweepLeafCount_le (residuals : BTreeMap Address U256) (bound : ExitAssetBindingV5) :
    sweepLeafCount keccak256 terminal residuals bound ≤
      (balanceCells keccak256 terminal bound).length + 1 := by
  have counted : (sweepHolders keccak256 bound terminal).countP (fun holder =>
      (balancesOf (sweepHolders keccak256 bound terminal)).sum ≤
        (residuals.getD bound.asset 0).toNat * holder.2.toNat) ≤
        (sweepHolders keccak256 bound terminal).length := List.countP_le_length
  rw [balanceCells, List.length_map]
  unfold sweepLeafCount
  dsimp only
  split
  · omega
  · split
    · omega
    · split <;> omega

/-- Tokens that are kept apart have no more leaves than the envelope has slots, and one more
for each of them. -/
theorem StateMap.FitsEnvelope.sum_sweepLeafCount (fits : terminal.FitsEnvelope accounts slots)
    {assets tokens : List ExitAssetBindingV5}
    (clean : ¬ Collides keccak256 (sweepMessages assets terminal))
    (declared : ∀ bound ∈ tokens, bound ∈ assets) (kinds : ∀ bound ∈ tokens, bound.kind = 1)
    (apart : TokensApart tokens) (residuals : BTreeMap Address U256) :
    (tokens.map (sweepLeafCount keccak256 terminal residuals)).sum ≤
      maxCompactStorageSlotsV4 + tokens.length := by
  have distinct := nodup_balanceCells clean declared
    (apart.imp_of_mem fun first second different =>
      different (kinds _ first) (kinds _ second))
  have counted := (distinct.subperm (fits.balanceCells_subset kinds)).length_le
  have each : (tokens.map (sweepLeafCount keccak256 terminal residuals)).sum ≤
      (tokens.flatMap (balanceCells keccak256 terminal)).length + tokens.length := by
    clear distinct counted apart kinds declared
    induction tokens with
    | nil => exact Nat.zero_le _
    | cons bound rest inductionHypothesis =>
      have here := sweepLeafCount_le keccak256 terminal residuals bound
      rw [List.map_cons, List.sum_cons, List.flatMap_cons, List.length_append, List.length_cons]
      omega
  exact each.trans (Nat.add_le_add_right (counted.trans fits.fewSlots) _)

end Envelope

/-! ### The cap -/

/-- A policy the constructor accepts has its exit assets in order, and not too many of them. -/
theorem fromV5_exitAssets {primitives : Primitives} {policy : ExecutionPolicyV5}
    {expectedHash : B256} {activeMembers : BTreeSet Address} {state : StateMap}
    {membershipChanged : Bool} {resolved : ExecutionPolicyV4} {binding : ExitBindingV5}
    (built : ExecutionPolicyV4.fromV5 primitives policy expectedHash activeMembers state
      membershipChanged = .ok resolved) (exit : policy.exit = some binding) :
    AssetsChecked binding.assets ∧ binding.assets.length ≤ maxExitAssetsV5 := by
  obtain ⟨pinned, callRules, regions, participant, builds, -⟩ := fromV5_eq_ok.mp built
  have checked := builds.exit binding (by rw [exit]; exact List.mem_cons_self)
  refine ⟨(checkExitBinding_spec checked).2, ?_⟩
  obtain ⟨-, checked⟩ := refuse_bind_eq_ok.mp checked
  obtain ⟨-, -, checked⟩ := bind_eq_ok.mp checked
  obtain ⟨-, checked⟩ := refuse_bind_eq_ok.mp checked
  obtain ⟨few, -⟩ := refuse_bind_eq_ok.mp checked
  exact not_lt.mp few

/-- The allocation of a closing batch fits the withdrawal tree exactly when the records between
the cursors and the leaves its assets, balances and residuals ask for are no more than the
cap. In a room that keeps its tokens apart they always are, short of a collision between two
balance slots. -/
theorem withdrawal_cap_iff (primitives : Primitives) (policy : ExecutionPolicyV5)
    (expectedHash : B256) (activeMembers : BTreeSet Address) (state : StateMap)
    (membershipChanged : Bool) (resolved : ExecutionPolicyV4) (binding : ExitBindingV5)
    (terminal : StateMap) (accounts : List Address) (slots : List (Address × U256))
    (residuals : BTreeMap Address U256) (first last : U64) (records swept : List ExitRecordV5)
    (built : ExecutionPolicyV4.fromV5 primitives policy expectedHash activeMembers state
      membershipChanged = .ok resolved)
    (exit : policy.exit = some binding) (fits : terminal.FitsEnvelope accounts slots)
    (read : readExitRecordsV5 binding terminal first last = .ok records)
    (derived : deriveCloseSweepV5 primitives.keccak256 binding terminal residuals = .ok swept) :
    ((∃ capacity, withdrawalTreeCapacityV5 (records ++ swept).length = .ok capacity) ↔
        last.toNat - first.toNat + (binding.assets.map
          (sweepLeafCount primitives.keccak256 terminal residuals)).sum ≤
          maxWithdrawalCapacityV5.toNat) ∧
      (TokensApart binding.assets →
        (∃ capacity, withdrawalTreeCapacityV5 (records ++ swept).length = .ok capacity) ∨
          Collides primitives.keccak256 (sweepMessages binding.assets terminal)) := by
  rw [withdrawalTreeCapacityV5_eq_ok, List.length_append]
  have recordCount := readExitRecordsV5_length read
  have sweepCount := deriveCloseSweepV5_length derived
  refine ⟨by rw [recordCount, sweepCount], fun apart => ?_⟩
  by_cases collides : Collides primitives.keccak256 (sweepMessages binding.assets terminal)
  · exact .inr collides
  · refine .inl ?_
    have fewRecords := fits.length_records read
    obtain ⟨checked, fewAssets⟩ := fromV5_exitAssets built exit
    have fewLeaves : (binding.assets.map
        (sweepLeafCount primitives.keccak256 terminal residuals)).sum ≤
          maxCompactAccountsV4 + 1 + (maxCompactStorageSlotsV4 + maxExitAssetsV5) := by
      cases parts : binding.assets with
      | nil => exact Nat.zero_le _
      | cons bound rest =>
        rw [parts] at checked fewAssets apart collides
        obtain ⟨above, -⟩ := List.pairwise_cons.mp checked.sorted
        have tokens : ∀ other ∈ rest, other.kind = 1 := by
          intro other listed
          rcases checked.kinds other (List.mem_cons_of_mem _ listed) with native | token
          · have lower := above other listed
            rw [native.2] at lower
            exact absurd lower (BitVec.not_lt_zero)
          · exact token.1
        have own := sweepLeafCount_le primitives.keccak256 terminal residuals bound
        rw [balanceCells, List.length_map] at own
        have holders := fits.length_sweepHolders primitives.keccak256 bound
        have others := fits.sum_sweepLeafCount collides
          (fun other listed => List.mem_cons_of_mem _ listed) tokens
          (List.pairwise_cons.mp apart).2 residuals
        rw [List.length_cons] at fewAssets
        rw [List.map_cons, List.sum_cons]
        omega
    have cap : maxCompactStorageSlotsV4 +
        (maxCompactAccountsV4 + 1 + (maxCompactStorageSlotsV4 + maxExitAssetsV5)) ≤
          maxWithdrawalCapacityV5.toNat := by decide
    omega

/-! ### A crowded room -/

/-- Entries under the keys `1` to `count`. -/
def numbered {Value : Type} (width count : Nat) (value : Nat → Value) :
    List (BitVec width × Value) :=
  (List.range count).map fun index => (BitVec.ofNat width (index + 1), value index)

theorem length_numbered {Value : Type} (width count : Nat) (value : Nat → Value) :
    (numbered width count value).length = count := by
  rw [numbered, List.length_map, List.length_range]

theorem getElem?_numbered {Value : Type} {width count : Nat} (fits : count < 2 ^ width)
    (value : Nat → Value) {index : Nat} (listed : index < count) :
    (Std.ExtTreeMap.ofList (numbered width count value)
      compare)[BitVec.ofNat width (index + 1)]? = some (value index) := by
  refine Std.ExtTreeMap.getElem?_ofList_of_mem (k := BitVec.ofNat width (index + 1))
    Std.ReflCmp.compare_self ?_ (List.mem_map.mpr ⟨index, List.mem_range.mpr listed, rfl⟩)
  refine List.pairwise_map.mpr (List.nodup_range.imp_of_mem ?_)
  intro first second firstListed secondListed different same
  have equal := congrArg BitVec.toNat (Std.compare_eq_iff_eq.mp same)
  rw [List.mem_range] at firstListed secondListed
  rw [BitVec.toNat_ofNat, BitVec.toNat_ofNat, Nat.mod_eq_of_lt (by omega),
    Nat.mod_eq_of_lt (by omega)] at equal
  omega

/-- The registry of the crowded room is also its token: 126 accounts hold one unit each. -/
def crowdedBalances : List (U256 × U256) :=
  [(0, 1), (1, 1), (2, 2), (3, 128)] ++ (List.range 126).map fun index =>
    (mappingSlotV5 sampleDigest (BitVec.ofNat 160 (index + 3)) 0, 1)

/-- The exit queue of the crowded room: 257 records of one unit each. -/
def crowdedQueue : List (U256 × U256) :=
  numbered 256 772 fun index => if index = 0 then 257 else 1

def crowdedAccount (index : Nat) : AccountRecord :=
  if index = 0 then ⟨1, 0, [11], .ofList crowdedBalances⟩
  else if index = 1 then ⟨1, 0, [12], .ofList crowdedQueue⟩
  else ⟨0, 1, [], ∅⟩

/-- The slots of the crowded room. -/
def crowdedEnvelope : List (Address × BTreeSet U256) :=
  [(1, .ofList (crowdedBalances.map Prod.fst)), (2, .ofList (crowdedQueue.map Prod.fst))]

/-- A room with as many accounts as a compact witness may list. -/
def crowdedState : StateMap :=
  .fromCompact (.ofList (numbered 160 128 crowdedAccount))
    (.ofList ((numbered 160 128 crowdedAccount).map Prod.fst)) (.ofList crowdedEnvelope)

/-- As many assets as a policy may declare, all in one balance slot of one token. -/
def crowdedAssets : List ExitAssetBindingV5 :=
  (List.range 256).map fun index => ⟨BitVec.ofNat 160 (index + 1), 1, 1, 0⟩

def crowdedBinding : ExitBindingV5 := ⟨2, 1, 2, crowdedAssets, 9⟩

def crowdedPolicy : ExecutionPolicyV5 :=
  { samplePolicy with
    code := [⟨1, sampleDigest [11]⟩, ⟨2, sampleDigest [12]⟩]
    calls := [⟨0, 2, [0x01020304], [0]⟩]
    storage := [⟨1, 0, 0, true⟩, ⟨2, 0, 0, true⟩]
    participantRegistry := some ⟨1, 0, 1, 2, 3⟩
    exit := some crowdedBinding }

/-- A residual of 127 units of every asset: a unit for every holder and one of dust. -/
def crowdedResiduals : BTreeMap Address U256 :=
  .ofList (numbered 160 256 fun _ => (127 : U256))

def crowdedMembers : BTreeSet Address := .ofList [(3 : Address)]

/-- What holds of the three kinds of accounts holds of every account of the room. -/
theorem forall_crowdedAccounts {property : Address → AccountRecord → Prop}
    (token : property 1 (crowdedAccount 0)) (queue : property 2 (crowdedAccount 1))
    (holder : ∀ address, property address ⟨0, 1, [], ∅⟩) :
    ∀ address account, crowdedState.accounts[address]? = some account →
      property address account := by
  refine Maps.forall_getElem?_ofList fun entry member => ?_
  obtain ⟨index, -, rfl⟩ := List.mem_map.mp member
  match index with
  | 0 => exact token
  | 1 => exact queue
  | index + 2 => exact holder _

/-- What is stored is among the slots it was written to. -/
theorem mem_of_stored {listed : List (U256 × U256)} (contract : Address) : ∀ slot value,
    (Std.ExtTreeMap.ofList listed compare)[slot]? = some value →
      (contract, slot) ∈ listed.map fun entry => (contract, entry.1) :=
  Maps.forall_getElem?_ofList fun entry member => List.mem_map.mpr ⟨entry, member, rfl⟩

/-- The room's own accounts and slots are a small enough envelope. -/
theorem crowdedState_fits : crowdedState.FitsEnvelope
    ((numbered 160 128 crowdedAccount).map Prod.fst)
    ((crowdedBalances.map fun entry => (1, entry.1)) ++
      crowdedQueue.map fun entry => (2, entry.1)) := by
  refine ⟨?_, ?_, ?_, fun address account slot value found => ?_⟩
  · rw [List.length_map, length_numbered]
    decide
  · rw [List.length_append, List.length_map, List.length_map, crowdedQueue, length_numbered,
      crowdedBalances, List.length_append, List.length_map, List.length_range]
    decide
  · exact Maps.forall_getElem?_ofList fun entry member => List.mem_map_of_mem member
  · revert slot value
    revert address account
    refine forall_crowdedAccounts ?_ ?_ ?_
    · exact fun slot value lookup => List.mem_append_left _ (mem_of_stored 1 slot value lookup)
    · exact fun slot value lookup => List.mem_append_right _ (mem_of_stored 2 slot value lookup)
    · intro holder slot value lookup
      have none : (∅ : BTreeMap U256 U256)[slot]? = some value := lookup
      rw [Std.ExtTreeMap.getElem?_empty] at none
      cases none

/-- The regions of the room: all of the token and all of the queue. -/
def crowdedRegions : List StorageNamespace := [⟨1, 0, 0, true⟩, ⟨2, 0, 0, true⟩]

theorem crowdedPolicy_accepted : ∃ resolved, ExecutionPolicyV4.fromV5 samplePrimitives
    crowdedPolicy (executionPolicyHashV5 samplePrimitives.keccak256 crowdedPolicy)
    crowdedMembers crowdedState false = .ok resolved := by
  have covered : ∀ slot : U256, coveredBy crowdedRegions 1 slot = true ∧
      coveredBy crowdedRegions 2 slot = true := fun slot => ⟨rfl, rfl⟩
  have stored : checkStoredSlots crowdedState.accounts crowdedRegions = .ok () := by
    refine forEach_eq_ok.mpr fun entry listed => forEach_eq_ok.mpr fun slot member => ?_
    refine refuse_eq_ok.mpr ?_
    obtain ⟨value, lookup⟩ : ∃ value, entry.2.storage[slot]? = some value :=
      Option.isSome_iff_exists.mp (Std.ExtTreeMap.isSome_getElem?_iff_mem.mpr
        (Std.ExtTreeMap.mem_keys.mp member))
    revert slot value
    have kinds : ∀ address account, crowdedState.accounts[address]? = some account →
        ∀ slot : U256, slot ∈ account.storage.keys → ∀ value, account.storage[slot]? = some value →
          ¬ coveredBy crowdedRegions address slot = false := by
      refine forall_crowdedAccounts ?_ ?_ ?_
      · exact fun slot _ _ _ uncovered => absurd ((covered slot).1.symm.trans uncovered) (by decide)
      · exact fun slot _ _ _ uncovered => absurd ((covered slot).2.symm.trans uncovered) (by decide)
      · intro address slot _ value lookup
        have none : (∅ : BTreeMap U256 U256)[slot]? = some value := lookup
        rw [Std.ExtTreeMap.getElem?_empty] at none
        cases none
    exact kinds entry.1 entry.2 (Std.ExtTreeMap.mem_toList_iff_getElem?_eq_some.mp listed)
  refine ⟨_, fromV5_eq_ok.mpr ⟨(some 2, .ofList [((1 : Address), sampleDigest [11]),
    (2, sampleDigest [12])]), crowdedPolicy.calls.map CallRuleV5.resolved, crowdedRegions,
    ⟨1, 0, 1, 2, 3⟩, ?_, rfl⟩⟩
  exact {
    hash := not_not.mpr rfl
    envelope := by decide +kernel
    pins := by decide +kernel
    somePins := by decide +kernel
    codePinned := by decide +kernel
    calls := by decide +kernel
    someRules := by decide +kernel
    namespaces := by decide +kernel
    stored := stored
    imports := by decide +kernel
    registry := by decide +kernel
    exit := by decide +kernel
    memory := by decide +kernel }

/-- A slot of the queue is declared, and holds what is written there. -/
theorem crowdedQueue_slot {index : Nat} (listed : index < 772) :
    crowdedState.declaresStorage 2 (BitVec.ofNat 256 (index + 1)) = true ∧
      crowdedState.storageAt 2 (BitVec.ofNat 256 (index + 1)) =
        if index = 0 then 257 else 1 := by
  have account : crowdedState.accounts[(2 : Address)]? = some (crowdedAccount 1) :=
    getElem?_numbered (by decide) crowdedAccount (show 1 < 128 by decide)
  have stored : (crowdedAccount 1).storage[BitVec.ofNat 256 (index + 1)]? =
      some (if index = 0 then 257 else 1) :=
    getElem?_numbered (by decide) (fun index => if index = 0 then (257 : U256) else 1) listed
  constructor
  · have envelope : (Std.ExtTreeMap.ofList crowdedEnvelope compare)[(2 : Address)]? =
        some (.ofList (crowdedQueue.map Prod.fst)) :=
      Std.ExtTreeMap.getElem?_ofList_of_mem (k := 2) (by decide)
        (List.pairwise_pair.mpr (by decide)) (List.mem_cons_of_mem _ List.mem_cons_self)
    have inside : (crowdedQueue.map Prod.fst).contains (BitVec.ofNat 256 (index + 1)) = true := by
      rw [List.contains_iff_mem]
      exact List.mem_map.mpr ⟨(BitVec.ofNat 256 (index + 1), if index = 0 then 257 else 1),
        List.mem_map.mpr ⟨index, List.mem_range.mpr listed, rfl⟩, rfl⟩
    have declares : crowdedState.declaresStorage 2 (BitVec.ofNat 256 (index + 1)) =
        (Std.ExtTreeMap.ofList crowdedEnvelope compare)[(2 : Address)]?.any fun slots =>
          slots.contains (BitVec.ofNat 256 (index + 1)) := rfl
    rw [declares, envelope, Option.any_some, Std.ExtTreeSet.contains_ofList, inside]
  · rw [StateMap.storageAt, account]
    dsimp only
    rw [AccountRecord.slot, Std.ExtTreeMap.getD_eq_getD_getElem?, stored]
    rfl

theorem crowdedQueue_record {index : Nat} (listed : index < 257) :
    readExitRecordV5 crowdedBinding crowdedState index = .ok ⟨1, 1, 1⟩ := by
  have place : ∀ offset ≤ 3, (BitVec.ofNat 256 (3 * index + 1 + offset)).toNat =
      3 * index + 1 + offset := by
    intro offset small
    rw [BitVec.toNat_ofNat, Nat.mod_eq_of_lt (by omega)]
  have read : ∀ offset, 1 ≤ offset → offset ≤ 3 → ∀ label,
      readStorageV5 crowdedState 2 (BitVec.ofNat 256 (3 * index + 1 + offset)) label = .ok 1 := by
    intro offset positive small label
    obtain ⟨declared, holds⟩ := crowdedQueue_slot (show 3 * index + offset < 772 by omega)
    rw [show 3 * index + offset + 1 = 3 * index + 1 + offset by omega] at declared holds
    refine refuse_bind_eq_ok.mpr ⟨by rw [declared]; decide, pure_eq_ok.mpr ?_⟩
    rw [holds, if_neg (by omega)]
  have two : crowdedBinding.recordsBaseSlot.toNat = 2 := rfl
  have three : (3 : U256).toNat = 3 := rfl
  have scaled : (BitVec.ofNat 256 index).toNat * (3 : U256).toNat =
      (BitVec.ofNat 256 (3 * index)).toNat := by
    rw [BitVec.toNat_ofNat, BitVec.toNat_ofNat, three, Nat.mod_eq_of_lt (by omega),
      Nat.mod_eq_of_lt (by omega), Nat.mul_comm]
  have placed : exitRecordSlot crowdedBinding index =
      .ok (BitVec.ofNat 256 (3 * index + 1 + 1)) := by
    refine orRefuse_eq_ok.mpr (Option.bind_eq_some_iff.mpr ⟨BitVec.ofNat 256 (3 * index),
      checkedMul_eq_some.mpr scaled, checkedAdd_eq_some.mpr ?_⟩)
    rw [place 1 (by omega), two, BitVec.toNat_ofNat, Nat.mod_eq_of_lt (by omega)]
    omega
  have next : ∀ distance : U256, ∀ step, distance.toNat = step → step ≤ 2 → ∀ label,
      checkedAddExitV5 (BitVec.ofNat 256 (3 * index + 1 + 1)) distance label =
        .ok (BitVec.ofNat 256 (3 * index + 1 + (1 + step))) := by
    intro distance step value small label
    refine orRefuse_eq_ok.mpr (checkedAdd_eq_some.mpr ?_)
    rw [place 1 (by omega), place (1 + step) (by omega), value]
    omega
  have valid : ¬ ((1 : Address) = 0 ∨ (1 : U256) = 0 ∨
      ¬ ∃ bound ∈ crowdedBinding.assets, bound.asset = 1) := by
    rw [not_or, not_or, not_not]
    exact ⟨by decide, by decide, ⟨1, 1, 1, 0⟩,
      List.mem_map.mpr ⟨0, List.mem_range.mpr (by decide), rfl⟩, rfl⟩
  refine bind_eq_ok.mpr ⟨_, placed, bind_eq_ok.mpr ⟨_, next 1 1 rfl (by omega) _,
    bind_eq_ok.mpr ⟨_, next 2 2 rfl (by omega) _, ?_⟩⟩⟩
  have narrow : ∀ label, addressFromWordV5 1 label = .ok 1 := fun label =>
    refuse_bind_eq_ok.mpr ⟨by decide, pure_eq_ok.mpr (by decide)⟩
  refine bind_eq_ok.mpr ⟨1, read 1 (by omega) (by omega) _, bind_eq_ok.mpr ⟨1, narrow _, ?_⟩⟩
  refine bind_eq_ok.mpr ⟨1, read 2 (by omega) (by omega) _, bind_eq_ok.mpr ⟨1, narrow _, ?_⟩⟩
  refine bind_eq_ok.mpr ⟨1, read 3 (by omega) (by omega) _, ?_⟩
  exact refuse_bind_eq_ok.mpr ⟨valid, pure_eq_ok.mpr rfl⟩

/-- The queue counts 257 records, and all of them can be read. -/
theorem crowdedQueue_records : exitRecordCountV5 crowdedBinding crowdedState = .ok 257 ∧
    ∃ records, readExitRecordsV5 crowdedBinding crowdedState 0 257 = .ok records := by
  constructor
  · obtain ⟨declared, holds⟩ := crowdedQueue_slot (show 0 < 772 by decide)
    refine bind_eq_ok.mpr ⟨257, refuse_bind_eq_ok.mpr ⟨?_, pure_eq_ok.mpr holds⟩, rfl⟩
    rw [show crowdedState.declaresStorage crowdedBinding.queueContract crowdedBinding.countSlot =
      true from declared]
    decide
  · refine exists_mapM_eq_ok.mpr fun index listed => ⟨_, crowdedQueue_record ?_⟩
    have bound := (List.mem_range'_1.mp listed).2
    have count : (257 : U64).toNat = 257 := rfl
    have start : (0 : U64).toNat = 0 := rfl
    omega

/-- The holders of every asset are the same, and hold a unit each. -/
theorem crowdedBalances_eq (asset : Address) :
    balancesOf (sweepHolders sampleDigest ⟨asset, 1, 1, 0⟩ crowdedState) =
      List.replicate 126 1 := by
  have one : balancesOf (sweepHolders sampleDigest ⟨1, 1, 1, 0⟩ crowdedState) =
      List.replicate 126 1 := by decide +kernel
  exact one

theorem crowdedHolder_unit {asset : Address} {holder : Address × U256}
    (member : holder ∈ sweepHolders sampleDigest ⟨asset, 1, 1, 0⟩ crowdedState) :
    holder.2.toNat = 1 := by
  have unit : holder.2.toNat ∈ balancesOf (sweepHolders sampleDigest ⟨asset, 1, 1, 0⟩
      crowdedState) := List.mem_map_of_mem member
  rw [crowdedBalances_eq, List.mem_replicate] at unit
  exact unit.2

theorem crowdedBalances_readable (asset : Address) :
    BalancesReadable sampleDigest ⟨asset, 1, 1, 0⟩ crowdedState := by
  have one : BalancesReadable sampleDigest ⟨1, 1, 1, 0⟩ crowdedState := by decide +kernel
  exact one

/-- Every declared asset has 127 leaves: one for every holder, and one of dust. -/
theorem crowdedAssets_leafCount {bound : ExitAssetBindingV5} (declared : bound ∈ crowdedAssets) :
    crowdedResiduals.getD bound.asset 0 = 127 ∧
      sweepLeafCount sampleDigest crowdedState crowdedResiduals bound = 127 := by
  obtain ⟨index, listed, rfl⟩ := List.mem_map.mp declared
  have residual : crowdedResiduals.getD (BitVec.ofNat 160 (index + 1)) 0 = 127 := by
    rw [Std.ExtTreeMap.getD_eq_getD_getElem?, crowdedResiduals,
      getElem?_numbered (by decide) _ (List.mem_range.mp listed)]
    rfl
  refine ⟨residual, ?_⟩
  have balances := crowdedBalances_eq (BitVec.ofNat 160 (index + 1))
  have total : (balancesOf (sweepHolders sampleDigest ⟨BitVec.ofNat 160 (index + 1), 1, 1, 0⟩
      crowdedState)).sum = 126 := by rw [balances, List.sum_replicate]; rfl
  have value : (127 : U256).toNat = 127 := rfl
  have reach : (sweepHolders sampleDigest ⟨BitVec.ofNat 160 (index + 1), 1, 1, 0⟩
      crowdedState).countP (fun holder => 126 ≤ 127 * holder.2.toNat) = 126 := by
    rw [List.countP_eq_length.mpr]
    · have length := congrArg List.length balances
      rwa [balancesOf, List.length_map, List.length_replicate] at length
    · intro holder member
      rw [crowdedHolder_unit member]
      decide
  unfold sweepLeafCount
  dsimp only
  rw [residual, total, value, balances, reach]
  decide

/-- The crowded room can be swept. -/
theorem crowdedState_swept : ∃ swept, deriveCloseSweepV5 sampleDigest crowdedBinding crowdedState
    crowdedResiduals = .ok swept := by
  have each : ∀ bound ∈ crowdedBinding.assets, ∃ leaves, sweepBoundAsset sampleDigest
      crowdedBinding crowdedState crowdedResiduals bound = .ok leaves := by
    intro bound declared
    have residual := (crowdedAssets_leafCount declared).1
    obtain ⟨index, -, rfl⟩ := List.mem_map.mp declared
    have balances := crowdedBalances_eq (BitVec.ofNat 160 (index + 1))
    unfold sweepBoundAsset
    rw [residual, if_neg (by decide)]
    refine (exists_sweepAsset_eq_ok (.inr rfl) (crowdedBalances_readable _)).mpr ⟨?_, ?_⟩
    · rw [balances, List.sum_replicate]
      decide
    · intro holder member
      rw [crowdedHolder_unit member]
      decide
  obtain ⟨lists, swept⟩ := exists_mapM_eq_ok.mpr each
  exact ⟨lists.flatten, bind_eq_ok.mpr ⟨lists, swept, rfl⟩⟩

theorem crowdedAssets_leafCounts : (crowdedBinding.assets.map
    (sweepLeafCount sampleDigest crowdedState crowdedResiduals)).sum = 32512 := by
  have same : crowdedBinding.assets.map
      (sweepLeafCount sampleDigest crowdedState crowdedResiduals) =
        List.replicate crowdedBinding.assets.length 127 :=
    List.map_eq_replicate_iff.mpr fun bound declared => (crowdedAssets_leafCount declared).2
  have length : crowdedBinding.assets.length = 256 := by
    exact (List.length_map _).trans List.length_range
  rw [same, List.sum_replicate, length]
  rfl

/-- 256 assets over one balance slot with 126 holders and 257 queued exits are one leaf more
than the withdrawal tree holds, in a room inside all its limits. -/
theorem withdrawal_cap_exceeded :
    ∃ resolved records swept,
      ExecutionPolicyV4.fromV5 samplePrimitives crowdedPolicy
        (executionPolicyHashV5 samplePrimitives.keccak256 crowdedPolicy) crowdedMembers
        crowdedState false = .ok resolved ∧
      crowdedPolicy.exit = some crowdedBinding ∧
      (∃ accounts slots, crowdedState.FitsEnvelope accounts slots) ∧
      exitRecordCountV5 crowdedBinding crowdedState = .ok 257 ∧
      readExitRecordsV5 crowdedBinding crowdedState 0 257 = .ok records ∧
      deriveCloseSweepV5 samplePrimitives.keccak256 crowdedBinding crowdedState
        crowdedResiduals = .ok swept ∧
      withdrawalTreeCapacityV5 (records ++ swept).length =
        .error (.longLivedRoom "exit allocation exceeds MAX_WITHDRAWAL_CAPACITY_V5") := by
  obtain ⟨resolved, accepted⟩ := crowdedPolicy_accepted
  obtain ⟨counted, records, read⟩ := crowdedQueue_records
  obtain ⟨swept, derived⟩ := crowdedState_swept
  refine ⟨resolved, records, swept, accepted, rfl, ⟨_, _, crowdedState_fits⟩, counted, read,
    derived, ?_⟩
  have length : (records ++ swept).length = 32769 := by
    rw [List.length_append, readExitRecordsV5_length read, deriveCloseSweepV5_length derived,
      crowdedAssets_leafCounts]
    rfl
  rw [length]
  decide

/-- The slots of a token that keeps balances under two slots; one member holds a unit of each. -/
def pairedSlots : List (U256 × U256) :=
  [(0, 1), (1, 1), (2, 2), (3, 128), (mappingSlotV5 sampleDigest 3 0, 1),
    (mappingSlotV5 sampleDigest 3 5, 1)]

/-- A room with this token, an empty exit queue and the member. -/
def pairedState : StateMap :=
  .fromCompact (.ofList [((1 : Address), (⟨1, 0, [11], .ofList pairedSlots⟩ : AccountRecord)),
      (2, ⟨1, 0, [12], ∅⟩), (3, ⟨0, 1, [], ∅⟩)]) (.ofList [(1 : Address), 2, 3])
    (.ofList [((1 : Address), (.ofList (pairedSlots.map Prod.fst) : BTreeSet U256))])

def pairedBinding : ExitBindingV5 := ⟨2, 1, 2, [⟨1, 1, 1, 0⟩, ⟨2, 1, 1, 5⟩], 9⟩

def pairedPolicy : ExecutionPolicyV5 := { crowdedPolicy with exit := some pairedBinding }

def pairedResiduals : BTreeMap Address U256 := .ofList [((1 : Address), (2 : U256)), (2, 3)]

theorem pairedState_fits : pairedState.FitsEnvelope [1, 2, 3]
    (pairedSlots.map fun entry => (1, entry.1)) := by
  have kinds : ∀ (address : Address) (account : AccountRecord),
      pairedState.accounts[address]? = some account → address ∈ [(1 : Address), 2, 3] ∧
        ∀ slot value, account.storage[slot]? = some value →
          (address, slot) ∈ pairedSlots.map fun entry => ((1 : Address), entry.1) := by
    refine Maps.forall_getElem?_ofList fun entry member => ?_
    simp only [List.mem_cons, List.not_mem_nil, or_false] at member
    rcases member with rfl | rfl | rfl
    · exact ⟨by decide, mem_of_stored 1⟩
    · exact ⟨by decide, fun slot value stored => by simp at stored⟩
    · exact ⟨by decide, fun slot value stored => by simp at stored⟩
  exact ⟨by decide, by decide, fun address account found => (kinds address account found).1,
    fun address account slot value found => (kinds address account found).2 slot value⟩

/-- The crowded room is on the wrong side of the equivalence, and a room with two tokens apart is
on the right one. -/
theorem withdrawal_cap_iff_sample :
    (∃ records swept, readExitRecordsV5 crowdedBinding crowdedState 0 257 = .ok records ∧
      deriveCloseSweepV5 samplePrimitives.keccak256 crowdedBinding crowdedState
        crowdedResiduals = .ok swept ∧
      ¬ ∃ capacity, withdrawalTreeCapacityV5 (records ++ swept).length = .ok capacity) ∧
    TokensApart pairedBinding.assets ∧
      ∃ swept, deriveCloseSweepV5 sampleDigest pairedBinding pairedState pairedResiduals =
          .ok swept ∧
        ((∃ capacity, withdrawalTreeCapacityV5 ([] ++ swept).length = .ok capacity) ∨
          Collides sampleDigest (sweepMessages pairedBinding.assets pairedState)) := by
  constructor
  · obtain ⟨resolved, accepted⟩ := crowdedPolicy_accepted
    obtain ⟨-, records, read⟩ := crowdedQueue_records
    obtain ⟨swept, derived⟩ := crowdedState_swept
    refine ⟨records, swept, read, derived, fun fits => ?_⟩
    have small := (withdrawal_cap_iff samplePrimitives crowdedPolicy _ crowdedMembers crowdedState
      false resolved crowdedBinding crowdedState _ _ crowdedResiduals 0 257 records swept accepted
      rfl crowdedState_fits read derived).1.mp fits
    have counts : (crowdedBinding.assets.map (sweepLeafCount samplePrimitives.keccak256
      crowdedState crowdedResiduals)).sum = 32512 := crowdedAssets_leafCounts
    rw [counts] at small
    exact absurd small (by decide)
  · have apart : TokensApart pairedBinding.assets := by
      unfold TokensApart
      decide
    obtain ⟨resolved, accepted⟩ : ∃ resolved, ExecutionPolicyV4.fromV5 samplePrimitives
        pairedPolicy (executionPolicyHashV5 samplePrimitives.keccak256 pairedPolicy)
        crowdedMembers pairedState false = .ok resolved :=
      exists_eq_ok_of_isSome (by decide +kernel)
    obtain ⟨swept, derived⟩ : ∃ swept, deriveCloseSweepV5 samplePrimitives.keccak256
        pairedBinding pairedState pairedResiduals = .ok swept :=
      exists_eq_ok_of_isSome (by decide +kernel)
    exact ⟨apart, swept, derived, (withdrawal_cap_iff samplePrimitives pairedPolicy _
      crowdedMembers pairedState false resolved pairedBinding pairedState _ _ pairedResiduals 0 0
      [] swept accepted rfl pairedState_fits (by decide +kernel) derived).2 apart⟩

end Zkdeal

/-
This file proves that the escrow accounting conserves value over every run.

One accepted batch moves the custody of each asset: consumed deposits from
pending into controlled, withdrawals from controlled into claimable, and nothing
else. The per-asset totals live in maps that are drained while the two liability
lists are compared; because the lists are strictly sorted no total is read
twice, and because the maps end empty none is lost. A run composes these moves.
-/

import Zkdeal.Room.Liabilities

namespace Zkdeal

open Words Guard Accounting

/-! ### Totals -/

/-- The accumulated totals are the sums of the entries. -/
theorem accumulateTotals_represents {label : String} {entries : List (Address × U256)}
    {totals : BTreeMap Address U256} (ran : accumulateTotals label entries = .ok totals) :
    Represents entries totals := by
  refine foldlM_invariant (fun consumed totals => Represents consumed totals) ran
    represents_empty ?_
  intro consumed item before after represented stepped
  exact represented.credit (orRefuse_eq_ok.mp stepped)

theorem consumedDeposits_append (first second : List DepositV5) :
    consumedDeposits (first ++ second) = consumedDeposits first ++ consumedDeposits second := by
  unfold consumedDeposits
  rw [List.filter_append, List.map_append]

/-- One inbox record adds its value to the totals, unless it is refunded. -/
theorem consumeDeposit_represents {journal : BatchJournalV5} {consumed : List DepositV5}
    {before after : BTreeMap Address U256} {item : DepositV5 × Nat}
    (represented : Represents (consumedDeposits consumed) before)
    (stepped : consumeDeposit journal before item = .ok after) :
    Represents (consumedDeposits (consumed ++ [item.1])) after := by
  obtain ⟨expectedId, -, stepped⟩ := bind_eq_ok.mp stepped
  obtain ⟨-, stepped⟩ := refuse_bind_eq_ok.mp stepped
  rw [consumedDeposits_append]
  by_cases refunded : item.1.refunded = true
  · rw [if_pos refunded, pure_eq_ok] at stepped
    have nothing : consumedDeposits [item.1] = [] := by simp [consumedDeposits, refunded]
    rw [nothing, List.append_nil, ← stepped]
    exact represented
  · rw [if_neg refunded] at stepped
    have single : consumedDeposits [item.1] = [(item.1.asset, item.1.amount)] := by
      simp [consumedDeposits, refunded]
    rw [single]
    exact represented.credit (orRefuse_eq_ok.mp stepped)

theorem consumeDeposits_represent {journal : BatchJournalV5} {deposits : List DepositV5}
    {totals : BTreeMap Address U256}
    (ran : deposits.zipIdx.foldlM (consumeDeposit journal) ∅ = .ok totals) :
    Represents (consumedDeposits deposits) totals := by
  have read := foldlM_invariant (fun consumed totals =>
    Represents (consumedDeposits (consumed.map Prod.fst)) totals) ran represents_empty (by
      intro consumed item before after represented stepped
      rw [List.map_append]
      exact consumeDeposit_represents represented stepped)
  rwa [List.zipIdx_map_fst] at read

/-! ### One asset -/

/-- What the accounting of one asset establishes, in natural numbers. -/
structure Conserved (deposit withdrawal : Nat) (close : Bool) (pre post : AssetLiabilityV5) :
    Prop where
  asset : post.asset = pre.asset
  pending : pre.pending.toNat = post.pending.toNat + deposit
  controlled : post.controlled.toNat + withdrawal = pre.controlled.toNat + deposit
  claimable : post.claimable.toNat = pre.claimable.toNat + withdrawal
  paid : post.paid = pre.paid
  closed : close = true → post.controlled = 0

/-- One comparison establishes conservation, is above the asset before it, and drains the
two totals of the asset. -/
theorem conserveLiability_spec {close : Bool} {before after : LiabilityProgress}
    {pre post : AssetLiabilityV5}
    (stepped : conserveLiability close before (pre, post) = .ok after) :
    Conserved (before.deposits.getD pre.asset 0).toNat
        (before.withdrawals.getD pre.asset 0).toNat close pre post ∧
      (∀ asset ∈ before.previousAsset, asset < pre.asset) ∧
      after = ⟨some pre.asset, before.deposits.erase pre.asset,
        before.withdrawals.erase pre.asset⟩ := by
  unfold conserveLiability at stepped
  dsimp only at stepped
  obtain ⟨matched, stepped⟩ := refuse_bind_eq_ok.mp stepped
  obtain ⟨expectedPending, pendingEqual, stepped⟩ := bind_eq_ok.mp stepped
  obtain ⟨expectedClaimable, claimableEqual, stepped⟩ := bind_eq_ok.mp stepped
  obtain ⟨available, availableEqual, stepped⟩ := bind_eq_ok.mp stepped
  obtain ⟨expectedControlled, controlledEqual, stepped⟩ := bind_eq_ok.mp stepped
  obtain ⟨conserved, stepped⟩ := refuse_bind_eq_ok.mp stepped
  obtain ⟨drained, finished⟩ := refuse_bind_eq_ok.mp stepped
  simp only [not_or, ne_eq, not_not] at matched conserved
  obtain ⟨rfl, rfl, rfl⟩ := conserved
  have pendingValue := checkedSub_eq_some.mp (orRefuse_eq_ok.mp pendingEqual)
  have claimableValue := checkedAdd_eq_some.mp (orRefuse_eq_ok.mp claimableEqual)
  have availableValue := checkedAdd_eq_some.mp (orRefuse_eq_ok.mp availableEqual)
  have controlledValue := checkedSub_eq_some.mp (orRefuse_eq_ok.mp controlledEqual)
  refine ⟨⟨matched.1.symm, by omega, by omega, by omega, matched.2.2.symm, ?_⟩, ?_,
    (pure_eq_ok.mp finished).symm⟩
  · intro closing
    by_contra remaining
    exact drained ⟨closing, remaining⟩
  · intro asset previous
    by_contra notBelow
    refine matched.2.1 ?_
    rw [Option.mem_def.mp previous]
    simpa using notBelow

/-! ### All assets -/

/-- Comparing two lists asset by asset: every pair conserves the totals the maps started
with, the assets are strictly sorted, and what is left in the maps are the totals of other
assets. -/
theorem conserveLiabilities_spec {close : Bool} {pre post : List AssetLiabilityV5}
    (sameLength : pre.length = post.length) {start finish : LiabilityProgress}
    (ran : (pre.zip post).foldlM (conserveLiability close) start = .ok finish) :
    (∀ pair ∈ pre.zip post, Conserved (start.deposits.getD pair.1.asset 0).toNat
        (start.withdrawals.getD pair.1.asset 0).toNat close pair.1 pair.2) ∧
      pre.Pairwise (fun first second => first.asset < second.asset) ∧
      (∀ liability ∈ pre, ∀ asset ∈ start.previousAsset, asset < liability.asset) ∧
      (∀ asset, asset ∈ finish.deposits ↔
        asset ∈ start.deposits ∧ asset ∉ pre.map AssetLiabilityV5.asset) ∧
      (∀ asset, asset ∈ finish.withdrawals ↔
        asset ∈ start.withdrawals ∧ asset ∉ pre.map AssetLiabilityV5.asset) := by
  induction pre generalizing post start with
  | nil =>
    rw [List.zip_nil_left, foldlM_nil_eq_ok] at ran
    subst ran
    simp
  | cons liability rest inductionHypothesis =>
    cases post with
    | nil => simp at sameLength
    | cons after afterRest =>
      rw [List.zip_cons_cons, foldlM_cons_eq_ok] at ran
      obtain ⟨next, stepped, remaining⟩ := ran
      obtain ⟨conserved, above, rfl⟩ := conserveLiability_spec stepped
      obtain ⟨pairs, sorted, bounded, depositsLeft, withdrawalsLeft⟩ :=
        inductionHypothesis (by simpa using sameLength) remaining
      have later : ∀ other ∈ rest, liability.asset < other.asset := fun other member =>
        bounded other member liability.asset rfl
      have untouched : ∀ (totals : BTreeMap Address U256), ∀ other ∈ rest,
          (totals.erase liability.asset).getD other.asset 0 = totals.getD other.asset 0 := by
        intro totals other member
        rw [Std.ExtTreeMap.getD_erase, if_neg]
        intro same
        exact absurd (Std.compare_eq_iff_eq.mp same) (BitVec.ne_of_lt (later other member))
      have drained : ∀ (totals : BTreeMap Address U256) (asset : Address),
          (asset ∈ totals.erase liability.asset ∧ asset ∉ rest.map AssetLiabilityV5.asset) ↔
            asset ∈ totals ∧ asset ∉ (liability :: rest).map AssetLiabilityV5.asset := by
        intro totals asset
        rw [Std.ExtTreeMap.mem_erase, List.map_cons, List.mem_cons, ne_eq,
          Std.compare_eq_iff_eq]
        tauto
      refine ⟨?_, List.pairwise_cons.mpr ⟨later, sorted⟩, ?_, ?_, ?_⟩
      · intro pair member
        rcases List.mem_cons.mp member with rfl | member
        · exact conserved
        · have inRest := (List.of_mem_zip member).1
          have step := pairs pair member
          rwa [untouched _ pair.1 inRest, untouched _ pair.1 inRest] at step
      · intro other member asset previous
        rcases List.mem_cons.mp member with rfl | member
        · exact above asset previous
        · exact BitVec.lt_trans (above asset previous) (later other member)
      · intro asset
        rw [depositsLeft asset, drained]
      · intro asset
        rw [withdrawalsLeft asset, drained]

/-- The assets of a liability list, in order. -/
def assetsOf (liabilities : List AssetLiabilityV5) : List Address :=
  liabilities.map AssetLiabilityV5.asset

/-- The equations between the two liability lists of a batch. -/
structure LiabilityEquations (input : BatchInputV5) (close : Bool) : Prop where
  sameLength : input.preLiabilities.length = input.postLiabilities.length
  sorted : (assetsOf input.preLiabilities).Pairwise (· < ·)
  pairs : ∀ pair ∈ input.preLiabilities.zip input.postLiabilities,
    Conserved (sumOf pair.1.asset (consumedDeposits input.deposits))
      (sumOf pair.1.asset (withdrawnAmounts input.withdrawals)) close pair.1 pair.2

/-- What the escrow accounting of one batch establishes. -/
structure EscrowConserved (input : BatchInputV5) (close : Bool) : Prop
    extends LiabilityEquations input close where
  depositsListed : ∀ entry ∈ consumedDeposits input.deposits,
    entry.1 ∈ assetsOf input.preLiabilities
  withdrawalsListed : ∀ entry ∈ withdrawnAmounts input.withdrawals,
    entry.1 ∈ assetsOf input.preLiabilities

/-- A map of totals that has been drained of a list of assets had entries of these assets
only. -/
theorem Represents.listed {entries : List (Address × U256)}
    {totals left : BTreeMap Address U256} {assets : List Address}
    (represented : Represents entries totals)
    (drained : ∀ asset, asset ∈ left ↔ asset ∈ totals ∧ asset ∉ assets) (empty : left = ∅) :
    ∀ entry ∈ entries, entry.1 ∈ assets := by
  intro entry member
  by_contra unlisted
  have present := (drained entry.1).mpr
    ⟨(represented.keys entry.1).mpr ⟨entry, member, rfl⟩, unlisted⟩
  rw [empty] at present
  exact absurd present Std.ExtTreeMap.not_mem_empty

/-- What the totals of a batch are, and what it takes to compute them. -/
structure EscrowTotals (keccak256 : Bytes → B256) (input : BatchInputV5)
    (totals : BTreeMap Address U256 × BTreeMap Address U256) : Prop where
  sameLength : input.preLiabilities.length = input.postLiabilities.length
  deposits : Represents (consumedDeposits input.deposits) totals.1
  withdrawals : Represents (withdrawnAmounts input.withdrawals) totals.2
  provable : ¬ (input.journal.authorizationMode = 1 ∧ input.policy.exit = none)
  inboxIds : ∀ item ∈ input.deposits.zipIdx,
    item.1.inboxId.toNat = input.journal.inboxCursorBefore.toNat + (item.2 + 1)
  inboxCursor : input.journal.inboxCursorAfter.toNat =
    input.journal.inboxCursorBefore.toNat + input.deposits.length
  rooted : withdrawalRootV5 keccak256 input.journal.deploymentDomain input.journal.roomId
    input.journal.outboxEpoch input.withdrawals input.withdrawalCapacity =
      some input.journal.withdrawalRoot

theorem consumeDeposit_inboxId {journal : BatchJournalV5} {before after : BTreeMap Address U256}
    {item : DepositV5 × Nat} (stepped : consumeDeposit journal before item = .ok after) :
    item.1.inboxId.toNat = journal.inboxCursorBefore.toNat + (item.2 + 1) := by
  obtain ⟨expectedId, advanced, rest⟩ := bind_eq_ok.mp stepped
  obtain ⟨wellFormed, -⟩ := refuse_bind_eq_ok.mp rest
  rw [not_not.mp (not_or.mp wellFormed).1]
  exact (checkedAdvance_eq_some.mp (orRefuse_eq_ok.mp advanced)).symm

theorem liabilityTotals_spec {keccak256 : Bytes → B256} {input : BatchInputV5}
    {totals : BTreeMap Address U256 × BTreeMap Address U256}
    (computed : liabilityTotals keccak256 input = .ok totals) :
    EscrowTotals keccak256 input totals := by
  obtain ⟨provable, computed⟩ := refuse_bind_eq_ok.mp computed
  obtain ⟨preimages, computed⟩ := refuse_bind_eq_ok.mp computed
  obtain ⟨-, computed⟩ := refuse_bind_eq_ok.mp computed
  obtain ⟨deposits, depositsRan, computed⟩ := bind_eq_ok.mp computed
  obtain ⟨cursorAfter, advanced, computed⟩ := bind_eq_ok.mp computed
  obtain ⟨sameCursor, computed⟩ := refuse_bind_eq_ok.mp computed
  obtain ⟨withdrawals, withdrawalsRan, computed⟩ := bind_eq_ok.mp computed
  obtain ⟨expectedRoot, rooted, computed⟩ := bind_eq_ok.mp computed
  obtain ⟨sameRoot, computed⟩ := refuse_bind_eq_ok.mp computed
  simp only [not_or, ne_eq, not_not] at preimages sameCursor sameRoot
  rw [← pure_eq_ok.mp computed]
  exact {
    sameLength := preimages.2.2
    deposits := consumeDeposits_represent depositsRan
    withdrawals := accumulateTotals_represents withdrawalsRan
    provable := provable
    inboxIds := foldlM_forall depositsRan fun _ _ _ => consumeDeposit_inboxId
    inboxCursor := by
      rw [sameCursor]
      exact (checkedAdvance_eq_some.mp (orRefuse_eq_ok.mp advanced)).symm
    rooted := sameRoot ▸ orRefuse_eq_ok.mp rooted }

theorem validateLiabilitiesV5_totals {keccak256 : Bytes → B256} {input : BatchInputV5}
    {done : Unit} (accepted : validateLiabilitiesV5 keccak256 input = .ok done) :
    ∃ totals, EscrowTotals keccak256 input totals := by
  obtain ⟨totals, computed, -⟩ := bind_eq_ok.mp accepted
  exact ⟨totals, liabilityTotals_spec computed⟩

/-- A validity-only batch is only accepted under a policy that binds an exit queue. -/
theorem validateLiabilitiesV5_bound {keccak256 : Bytes → B256} {input : BatchInputV5}
    {done : Unit} (accepted : validateLiabilitiesV5 keccak256 input = .ok done)
    (validityOnly : input.journal.authorizationMode = 1) :
    ∃ binding, input.policy.exit = some binding := by
  obtain ⟨totals, computed⟩ := validateLiabilitiesV5_totals accepted
  exact Option.ne_none_iff_exists'.mp fun unbound => computed.provable ⟨validityOnly, unbound⟩

/-- An accepted escrow accounting conserves every asset and names no other. -/
theorem validateLiabilitiesV5_spec {keccak256 : Bytes → B256} {input : BatchInputV5}
    {done : Unit} (accepted : validateLiabilitiesV5 keccak256 input = .ok done) :
    EscrowConserved input input.journal.close := by
  obtain ⟨totals, computed, accepted⟩ := bind_eq_ok.mp accepted
  obtain ⟨progress, compared, accepted⟩ := bind_eq_ok.mp accepted
  have empty := refuse_eq_ok.mp accepted
  simp only [not_or, ne_eq, not_not] at empty
  have computed := liabilityTotals_spec computed
  obtain ⟨pairs, sorted, -, depositsLeft, withdrawalsLeft⟩ :=
    conserveLiabilities_spec computed.sameLength compared
  exact {
    sameLength := computed.sameLength
    sorted := List.pairwise_map.mpr sorted
    pairs := fun pair member => by
      have step := pairs pair member
      rwa [computed.deposits.sums, computed.withdrawals.sums] at step
    depositsListed := Represents.listed computed.deposits depositsLeft empty.1
    withdrawalsListed := Represents.listed computed.withdrawals withdrawalsLeft empty.2 }

/-! ### Custody -/

/-- One class of one asset in a liability list; an unlisted asset has none. -/
def amountOf (amount : AssetLiabilityV5 → U256) (liabilities : List AssetLiabilityV5)
    (asset : Address) : Nat :=
  match liabilities.find? fun liability => liability.asset == asset with
  | some liability => (amount liability).toNat
  | none => 0

/-- The custody a liability list describes. -/
def custodyOf (liabilities : List AssetLiabilityV5) : Custody Address where
  pending := amountOf AssetLiabilityV5.pending liabilities
  controlled := amountOf AssetLiabilityV5.controlled liabilities
  claimable := amountOf AssetLiabilityV5.claimable liabilities
  paid := amountOf AssetLiabilityV5.paid liabilities

/-- Two lists that name the same assets position by position look an asset up at the same
position. -/
theorem amountOf_zip {pre post : List AssetLiabilityV5} (sameLength : pre.length = post.length)
    (sameAsset : ∀ pair ∈ pre.zip post, pair.2.asset = pair.1.asset) (asset : Address) :
    (asset ∉ assetsOf pre ∧ ∀ amount, amountOf amount pre asset = 0 ∧
        amountOf amount post asset = 0) ∨
      ∃ pair ∈ pre.zip post, pair.1.asset = asset ∧ ∀ amount,
        amountOf amount pre asset = (amount pair.1).toNat ∧
          amountOf amount post asset = (amount pair.2).toNat := by
  induction pre generalizing post with
  | nil =>
    left
    rw [List.length_nil, eq_comm, List.length_eq_zero_iff] at sameLength
    subst sameLength
    exact ⟨by simp [assetsOf], fun _ => ⟨rfl, rfl⟩⟩
  | cons before rest inductionHypothesis =>
    cases post with
    | nil => simp at sameLength
    | cons after afterRest =>
      rw [List.zip_cons_cons] at sameAsset ⊢
      have headAsset : after.asset = before.asset :=
        sameAsset (before, after) List.mem_cons_self
      by_cases here : before.asset = asset
      · right
        refine ⟨(before, after), List.mem_cons_self, here, fun amount => ?_⟩
        simp [amountOf, here, headAsset]
      · have skip : ∀ amount, amountOf amount (before :: rest) asset = amountOf amount rest asset ∧
            amountOf amount (after :: afterRest) asset = amountOf amount afterRest asset := by
          intro amount
          simp [amountOf, here, headAsset]
        rcases inductionHypothesis (by simpa using sameLength) (fun pair member =>
          sameAsset pair (List.mem_cons_of_mem _ member)) with ⟨unlisted, zero⟩ | ⟨pair, found⟩
        · left
          refine ⟨?_, fun amount => ?_⟩
          · rw [assetsOf, List.map_cons, List.mem_cons, not_or]
            exact ⟨fun same => here same.symm, unlisted⟩
          · rw [(skip amount).1, (skip amount).2]
            exact zero amount
        · right
          refine ⟨pair, List.mem_cons_of_mem _ found.1, found.2.1, fun amount => ?_⟩
          rw [(skip amount).1, (skip amount).2]
          exact found.2.2 amount

theorem LiabilityEquations.sameAssets {input : BatchInputV5} {close : Bool}
    (conserved : LiabilityEquations input close) :
    assetsOf input.postLiabilities = assetsOf input.preLiabilities := by
  have firsts : (input.preLiabilities.zip input.postLiabilities).map Prod.fst =
      input.preLiabilities := List.map_fst_zip conserved.sameLength.le
  have seconds : (input.preLiabilities.zip input.postLiabilities).map Prod.snd =
      input.postLiabilities := List.map_snd_zip conserved.sameLength.ge
  calc assetsOf input.postLiabilities
      = ((input.preLiabilities.zip input.postLiabilities).map Prod.snd).map
          AssetLiabilityV5.asset := by rw [seconds, assetsOf]
    _ = ((input.preLiabilities.zip input.postLiabilities).map Prod.fst).map
          AssetLiabilityV5.asset := by
        rw [List.map_map, List.map_map]
        exact List.map_congr_left fun pair member => (conserved.pairs pair member).asset
    _ = assetsOf input.preLiabilities := by rw [firsts, assetsOf]

/-- One accepted batch is a custody transition. -/
theorem EscrowConserved.moves {input : BatchInputV5} {close : Bool}
    (conserved : EscrowConserved input close) :
    Moves (custodyOf input.preLiabilities) (custodyOf input.postLiabilities)
      (fun asset => sumOf asset (consumedDeposits input.deposits))
      fun asset => sumOf asset (withdrawnAmounts input.withdrawals) := by
  have lookup := amountOf_zip conserved.sameLength fun pair member =>
    (conserved.pairs pair member).asset
  have unlisted : ∀ entries : List (Address × U256),
      (∀ entry ∈ entries, entry.1 ∈ assetsOf input.preLiabilities) →
      ∀ asset ∉ assetsOf input.preLiabilities, sumOf asset entries = 0 :=
    fun entries listed asset absent => sumOf_eq_zero asset entries fun entry member same =>
      absent (same ▸ listed entry member)
  have noDeposit := unlisted _ conserved.depositsListed
  have noWithdrawal := unlisted _ conserved.withdrawalsListed
  constructor <;> intro asset <;> simp only [custodyOf] <;>
    rcases lookup asset with ⟨absent, zero⟩ | ⟨pair, member, rfl, found⟩
  · rw [(zero _).1, (zero _).2, noDeposit asset absent]
  · rw [(found _).1, (found _).2, (conserved.pairs pair member).pending]
  · rw [(zero _).1, (zero _).2, noDeposit asset absent, noWithdrawal asset absent]
  · rw [(found _).1, (found _).2, (conserved.pairs pair member).controlled]
  · rw [(zero _).1, (zero _).2, noWithdrawal asset absent]
  · rw [(found _).1, (found _).2, (conserved.pairs pair member).claimable]
  · rw [(zero _).1, (zero _).2]
  · rw [(found _).1, (found _).2, (conserved.pairs pair member).paid]

/-! ### Runs -/

/-- The deposits a run consumed. -/
def runDeposits (batches : List BatchInputV5) : List (Address × U256) :=
  batches.flatMap fun batch => consumedDeposits batch.deposits

/-- The withdrawals a run minted. -/
def runWithdrawals (batches : List BatchInputV5) : List (Address × U256) :=
  batches.flatMap fun batch => withdrawnAmounts batch.withdrawals

/-- A batch that opens with the liabilities the one before it ended with. -/
def ContinuesLiabilities (earlier later : BatchInputV5) : Prop :=
  later.preLiabilities = earlier.postLiabilities

instance : DecidableRel ContinuesLiabilities := fun _ _ => inferInstanceAs (Decidable (_ = _))

/-- A run of conserving batches is a custody transition over one list of assets. -/
theorem run_moves {first last : BatchInputV5} {rest : List BatchInputV5}
    (conserved : ∀ batch ∈ first :: rest, EscrowConserved batch batch.journal.close)
    (chained : (first :: rest).IsChain ContinuesLiabilities)
    (ends : (first :: rest).getLast? = some last) :
    Moves (custodyOf first.preLiabilities) (custodyOf last.postLiabilities)
        (fun asset => sumOf asset (runDeposits (first :: rest)))
        (fun asset => sumOf asset (runWithdrawals (first :: rest))) ∧
      ∀ batch ∈ first :: rest, assetsOf batch.preLiabilities = assetsOf first.preLiabilities ∧
        assetsOf batch.postLiabilities = assetsOf first.preLiabilities := by
  have here := conserved first List.mem_cons_self
  induction rest generalizing first with
  | nil =>
    rw [List.getLast?_singleton, Option.some.injEq] at ends
    subst ends
    refine ⟨?_, fun batch member => ?_⟩
    · simpa [runDeposits, runWithdrawals] using here.moves
    · rw [List.mem_singleton.mp member]
      exact ⟨rfl, here.sameAssets⟩
  | cons second rest inductionHypothesis =>
    obtain ⟨continues, remaining⟩ := List.isChain_cons_cons.mp chained
    obtain ⟨moves, assets⟩ := inductionHypothesis
      (fun batch member => conserved batch (List.mem_cons_of_mem _ member)) remaining
      (by rwa [List.getLast?_cons_cons] at ends)
      (conserved second (List.mem_cons_of_mem _ List.mem_cons_self))
    rw [ContinuesLiabilities] at continues
    rw [continues] at moves assets
    refine ⟨?_, fun batch member => ?_⟩
    · have both := here.moves.trans moves
      simpa only [runDeposits, runWithdrawals, List.flatMap_cons, sumOf_append] using both
    · rcases List.mem_cons.mp member with rfl | member
      · exact ⟨rfl, here.sameAssets⟩
      · rw [← here.sameAssets]
        exact assets batch member

/-- Escrow conservation over any run: the strictly sorted asset list never changes; the total
of every asset is the same before and after; pending has fallen by exactly the deposits that
are not refunded and claimable has risen by exactly the withdrawals; paid is unchanged; and
no deposit or withdrawal names an asset outside the list. -/
theorem escrow_conserved_run (keccak256 : Bytes → B256) (batches : List BatchInputV5)
    (first last : BatchInputV5)
    (accepted : ∀ batch ∈ batches, validateLiabilitiesV5 keccak256 batch = .ok ())
    (chained : batches.IsChain ContinuesLiabilities) (begins : batches.head? = some first)
    (ends : batches.getLast? = some last) :
    (assetsOf first.preLiabilities).Pairwise (· < ·) ∧
      (∀ batch ∈ batches, assetsOf batch.preLiabilities = assetsOf first.preLiabilities ∧
        assetsOf batch.postLiabilities = assetsOf first.preLiabilities) ∧
      (∀ asset, (custodyOf last.postLiabilities).total asset =
          (custodyOf first.preLiabilities).total asset ∧
        (custodyOf first.preLiabilities).pending asset =
          (custodyOf last.postLiabilities).pending asset + sumOf asset (runDeposits batches) ∧
        (custodyOf last.postLiabilities).claimable asset =
          (custodyOf first.preLiabilities).claimable asset +
            sumOf asset (runWithdrawals batches) ∧
        (custodyOf last.postLiabilities).paid asset =
          (custodyOf first.preLiabilities).paid asset) ∧
      ∀ batch ∈ batches,
        (∀ deposit ∈ batch.deposits, deposit.refunded = false →
          deposit.asset ∈ assetsOf first.preLiabilities) ∧
        ∀ withdrawal ∈ batch.withdrawals,
          withdrawal.asset ∈ assetsOf first.preLiabilities := by
  obtain ⟨rest, rfl⟩ := List.head?_eq_some_iff.mp begins
  have conserved : ∀ batch ∈ first :: rest, EscrowConserved batch batch.journal.close :=
    fun batch member => validateLiabilitiesV5_spec (accepted batch member)
  obtain ⟨moves, assets⟩ := run_moves conserved chained ends
  refine ⟨(conserved first List.mem_cons_self).sorted, assets, fun asset => ?_, ?_⟩
  · exact ⟨moves.total_eq asset, moves.pending asset, moves.claimable asset, moves.paid asset⟩
  · intro batch member
    refine ⟨fun deposit depositMember unrefunded => ?_, fun withdrawal withdrawalMember => ?_⟩
    · rw [← (assets batch member).1]
      refine (conserved batch member).depositsListed (deposit.asset, deposit.amount) ?_
      exact List.mem_map_of_mem (List.mem_filter.mpr ⟨depositMember, by simp [unrefunded]⟩)
    · rw [← (assets batch member).1]
      exact (conserved batch member).withdrawalsListed (withdrawal.asset, withdrawal.amount)
        (List.mem_map_of_mem withdrawalMember)

/-- A batch of a unanimous room that carries only escrow data. -/
def sampleEscrowBatch (pre post : List AssetLiabilityV5) (cursor : U64)
    (deposits : List DepositV5) (withdrawals : List WithdrawalV5) : BatchInputV5 :=
  { (default : BatchInputV5) with
    preLiabilities := pre
    postLiabilities := post
    deposits := deposits
    withdrawals := withdrawals
    withdrawalCapacity := 2
    journal := { (default : BatchJournalV5) with
      inboxCursorBefore := cursor
      inboxCursorAfter := cursor + lengthWord deposits
      inboxRecordsHash := inboxRecordsHashV5 sampleDigest deposits
      preLiabilitiesHash := liabilitiesHashV5 sampleDigest pre
      postLiabilitiesHash := liabilitiesHashV5 sampleDigest post
      withdrawalRoot := (withdrawalRootV5 sampleDigest 0 0 0 withdrawals 2).getD 0 } }

def sampleLiabilities : List AssetLiabilityV5 := [⟨0, 10, 0, 0, 0⟩, ⟨7, 20, 5, 0, 1⟩]

/-- Two batches: the first consumes a native and a token deposit, crosses a refunded record
of an unlisted asset, and mints a token withdrawal; the second mints a native one. -/
def sampleEscrowRun : List BatchInputV5 :=
  let between : List AssetLiabilityV5 := [⟨0, 6, 4, 0, 0⟩, ⟨7, 14, 9, 2, 1⟩]
  [sampleEscrowBatch sampleLiabilities between 0
      [⟨1, 3, 4, 0, 4, 1, false, false⟩, ⟨2, 3, 4, 9, 3, 1, false, true⟩,
        ⟨3, 3, 4, 7, 6, 1, false, false⟩]
      [⟨1, 0, 3, 7, 2⟩],
    sampleEscrowBatch between [⟨0, 6, 3, 1, 0⟩, ⟨7, 14, 9, 2, 1⟩] 3 [] [⟨0, 0, 3, 0, 1⟩]]

/-- The run of `sampleEscrowRun` conserves the token. -/
theorem escrow_conserved_run_sample :
    (∀ batch ∈ sampleEscrowRun, validateLiabilitiesV5 sampleDigest batch = .ok ()) ∧
      (custodyOf [⟨0, 6, 3, 1, 0⟩, ⟨7, 14, 9, 2, 1⟩]).total 7 =
        (custodyOf sampleLiabilities).total 7 := by
  have accepted : ∀ batch ∈ sampleEscrowRun,
      validateLiabilitiesV5 sampleDigest batch = .ok () := by decide +kernel
  exact ⟨accepted, ((escrow_conserved_run sampleDigest sampleEscrowRun _ _ accepted
    (by decide +kernel) rfl rfl).2.2.1 7).1⟩

end Zkdeal

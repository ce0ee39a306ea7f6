/-
This file is about the admission fees withheld from deposits over a run of batches.
A deposit is credited once, in the batch that crosses it, and the fees withheld
there are those of the receipts of that batch. A receipt of another batch may
reference the deposit as well; its fee is never withheld.
-/

import Zkdeal.AssetSeparation
import Zkdeal.Cursors

namespace Zkdeal

open Words Guard

/-! ### Credits of one batch -/

section Credits

variable {keccak256 : Bytes → B256} {input : BatchInputV5}

/-- What the beneficiary of a deposit holds of its asset in the room. -/
def beneficiaryHolding (keccak256 : Bytes → B256) (policy : ExecutionPolicyV5)
    (deposit : DepositV5) (state : StateMap) : Nat :=
  if deposit.asset = 0 then (state.nativeBalance deposit.beneficiary).toNat
  else
    match boundToken policy deposit.asset with
    | some bound => (roomBalance keccak256 bound state deposit.beneficiary).toNat
    | none => 0

/-- By how much the credit of every deposit raises what its beneficiary holds, in order, under
the inbox id of the deposit. -/
def creditTrace (keccak256 : Bytes → B256) (input : BatchInputV5) :
    StateMap → List DepositV5 → List (U64 × Nat)
  | _, [] => []
  | state, deposit :: rest =>
    match creditDeposit keccak256 input state deposit with
    | .ok next =>
      (deposit.inboxId, beneficiaryHolding keccak256 input.policy deposit next -
        beneficiaryHolding keccak256 input.policy deposit state) ::
          creditTrace keccak256 input next rest
    | .error _ => []

/-- A credit raises what the beneficiary holds by what the deposit is worth to it. -/
theorem beneficiaryHolding_credited {before after : StateMap} {deposit : DepositV5}
    (stepped : creditDeposit keccak256 input before deposit = .ok after) :
    beneficiaryHolding keccak256 input.policy deposit after =
      beneficiaryHolding keccak256 input.policy deposit before + creditedAmount input deposit := by
  unfold beneficiaryHolding
  cases creditDeposit_raises stepped with
  | nothing zero same => rw [zero, same, Nat.add_zero]
  | native asset balances storage => rw [if_pos asset, if_pos asset, balances, if_pos rfl]
  | token asset bound found balances storage =>
    rw [if_neg asset, if_neg asset, found]
    dsimp only
    have token : bound.kind = 1 := by
      rw [boundToken] at found
      obtain ⟨exit, -, lookup⟩ := Option.bind_eq_some_iff.mp found
      have matched := List.find?_some lookup
      rw [Bool.and_eq_true, beq_iff_eq, beq_iff_eq] at matched
      exact matched.2
    rw [roomBalance_token token, roomBalance_token token, storage, if_pos ⟨rfl, rfl⟩]

/-- The credits of a batch are what its deposits are worth. -/
theorem creditTrace_eq {deposits : List DepositV5} {before after : StateMap}
    (credited : deposits.foldlM (creditDeposit keccak256 input) before = .ok after) :
    creditTrace keccak256 input before deposits =
      deposits.map fun deposit => (deposit.inboxId, creditedAmount input deposit) := by
  induction deposits generalizing before with
  | nil => rfl
  | cons deposit rest inductionHypothesis =>
    obtain ⟨next, stepped, remaining⟩ := foldlM_cons_eq_ok.mp credited
    rw [creditTrace, stepped]
    dsimp only
    rw [beneficiaryHolding_credited stepped, Nat.add_sub_cancel_left,
      inductionHypothesis remaining, List.map_cons]

end Credits

/-! ### Totals of a run -/

section Run

variable {externals : Externals}

/-- The credits of an accepted batch. -/
def AcceptedBatch.credits (batch : AcceptedBatch externals) : List (U64 × Nat) :=
  creditTrace externals.keccak256 batch.input batch.opened.imported batch.input.deposits

/-- What a run credits for an inbox id. -/
def totalCredited (run : List (AcceptedBatch externals)) (inboxId : U64) : Nat :=
  (((run.flatMap AcceptedBatch.credits).filter fun credit => credit.1 = inboxId).map
    Prod.snd).sum

/-- The fees of all receipts of a run that reference a deposit. -/
def totalFees (run : List (AcceptedBatch externals)) (deposit : DepositV5) : Nat :=
  (run.map fun batch => withheldFees batch.input.admissions deposit).sum

/-- A batch that begins with the inbox cursor the one before it left. -/
def InboxFollows (earlier later : AcceptedBatch externals) : Prop :=
  later.input.journal.inboxCursorBefore = earlier.input.journal.inboxCursorAfter

theorem AcceptedBatch.credits_eq (batch : AcceptedBatch externals) :
    batch.credits = batch.input.deposits.map fun deposit =>
      (deposit.inboxId, creditedAmount batch.input deposit) :=
  creditTrace_eq (openBatch_spec batch.opens).credited

/-- The one entry under a key is the sum of the entries under it. -/
theorem sum_filter_eq {Key : Type} [DecidableEq Key] {entries : List (Key × Nat)} {key : Key}
    {value : Nat} (distinct : (entries.map Prod.fst).Nodup) (member : (key, value) ∈ entries) :
    ((entries.filter fun entry => entry.1 = key).map Prod.snd).sum = value := by
  induction entries with
  | nil => cases member
  | cons entry rest inductionHypothesis =>
    rw [List.map_cons, List.nodup_cons] at distinct
    rcases List.mem_cons.mp member with rfl | later
    · have others : rest.filter (fun entry => entry.1 = key) = [] := by
        refine List.filter_eq_nil_iff.mpr fun other listed same => distinct.1 ?_
        exact List.mem_map.mpr ⟨other, listed, of_decide_eq_true same⟩
      rw [List.filter_cons_of_pos (by simp), others, List.map_singleton, List.sum_singleton]
    · have different : entry.1 ≠ key :=
        fun same => distinct.1 (same ▸ List.mem_map_of_mem later)
      rw [List.filter_cons_of_neg (by simpa using different)]
      exact inductionHypothesis distinct.2 later

/-- Over a chain of batches no inbox id is credited twice. -/
theorem credits_nodup {run : List (AcceptedBatch externals)} (chained : run.IsChain InboxFollows) :
    ((run.flatMap AcceptedBatch.credits).map Prod.fst).Nodup := by
  have ids : ((run.flatMap AcceptedBatch.credits).map Prod.fst).map BitVec.toNat =
      run.flatMap fun batch => Cursor.inbox.consumed batch.input := by
    rw [List.map_map, List.map_flatMap]
    refine List.flatMap_congr fun batch _ => ?_
    rw [batch.credits_eq, List.map_map]
    rfl
  refine List.Nodup.of_map BitVec.toNat ?_
  rw [ids]
  cases run with
  | nil => exact List.nodup_nil
  | cons first rest =>
    rw [AcceptedBatch.consumed_run chained (List.getLast?_eq_getLast_of_ne_nil (by simp))
      fun batch _ => batch.exact_of_ne (by decide)]
    exact List.nodup_range'

/-- A deposit is credited once, by what it is worth in the batch that crosses it. -/
theorem totalCredited_eq {run : List (AcceptedBatch externals)}
    (chained : run.IsChain InboxFollows) {batch : AcceptedBatch externals} (listed : batch ∈ run)
    {deposit : DepositV5} (consumed : deposit ∈ batch.input.deposits) :
    totalCredited run deposit.inboxId = creditedAmount batch.input deposit := by
  refine sum_filter_eq (credits_nodup chained) (List.mem_flatMap.mpr ⟨batch, listed, ?_⟩)
  rw [batch.credits_eq]
  exact List.mem_map.mpr ⟨deposit, consumed, rfl⟩

theorem totalFees_append (first second : List (AcceptedBatch externals)) (deposit : DepositV5) :
    totalFees (first ++ second) deposit = totalFees first deposit + totalFees second deposit := by
  rw [totalFees, List.map_append, List.sum_append, totalFees, totalFees]

/-- A run charges a deposit nothing exactly when no receipt that references it has a fee. -/
theorem totalFees_eq_zero {run : List (AcceptedBatch externals)} {deposit : DepositV5} :
    totalFees run deposit = 0 ↔ ∀ batch ∈ run, ∀ record ∈ batch.input.admissions,
      record.receipt.depositInboxId = deposit.inboxId → record.receipt.admissionFee = 0 := by
  unfold totalFees withheldFees
  simp only [List.sum_eq_zero_iff, List.forall_mem_map, List.mem_filter, decide_eq_true_eq,
    toNat_eq_zero, and_imp]

/-- What is withheld from a deposit over a run is what its credit leaves out, exactly when the
batches that do not cross the deposit charge it nothing. -/
theorem withheld_iff {earlier later : List (AcceptedBatch externals)}
    {batch : AcceptedBatch externals} (chained : (earlier ++ batch :: later).IsChain InboxFollows)
    {deposit : DepositV5} (consumed : deposit ∈ batch.input.deposits)
    (unrefunded : deposit.refunded = false) :
    totalCredited (earlier ++ batch :: later) deposit.inboxId +
          totalFees (earlier ++ batch :: later) deposit = deposit.amount.toNat ↔
      totalFees (earlier ++ later) deposit = 0 := by
  have covered : withheldFees batch.input.admissions deposit ≤ deposit.amount.toNat :=
    foldlM_forall (openBatch_spec batch.opens).credited
      (fun _ _ _ stepped => (creditDeposit_spec stepped).fees) deposit consumed unrefunded
  have whole : totalFees (earlier ++ batch :: later) deposit =
      totalFees (earlier ++ later) deposit + withheldFees batch.input.admissions deposit := by
    rw [totalFees_append, totalFees_append, totalFees, totalFees, totalFees, List.map_cons,
      List.sum_cons]
    omega
  rw [totalCredited_eq chained (by simp) consumed, creditedAmount, if_neg (by simp [unrefunded]),
    whole]
  omega

end Run

/-- Over a chain of batches every deposit is credited with its amount less the fees of all
receipts that reference it, exactly when no receipt with a fee references a deposit of another
batch of the chain. -/
theorem fees_withheld_iff (externals : Externals) (run : List (AcceptedBatch externals))
    (chained : run.IsChain InboxFollows) :
    (∀ batch ∈ run, ∀ deposit ∈ batch.input.deposits, deposit.refunded = false →
      totalCredited run deposit.inboxId + totalFees run deposit = deposit.amount.toNat) ↔
    ∀ earlier batch later, run = earlier ++ batch :: later →
      ∀ deposit ∈ batch.input.deposits, deposit.refunded = false →
        ∀ other ∈ earlier ++ later, ∀ record ∈ other.input.admissions,
          record.receipt.depositInboxId = deposit.inboxId → record.receipt.admissionFee = 0 := by
  constructor
  · rintro withheld earlier batch later rfl deposit consumed unrefunded
    have exactly := withheld batch (by simp) deposit consumed unrefunded
    exact totalFees_eq_zero.mp ((withheld_iff chained consumed unrefunded).mp exactly)
  · intro uncharged batch listed deposit consumed unrefunded
    obtain ⟨earlier, later, rfl⟩ := List.append_of_mem listed
    refine (withheld_iff chained consumed unrefunded).mpr (totalFees_eq_zero.mpr ?_)
    exact uncharged earlier batch later rfl deposit consumed unrefunded

/-- The deposit of the sample batch. -/
def sampleDeposit : DepositV5 := ⟨1, 3, 3, 7, 5, 1, false, false⟩

/-- A batch after the one with the sample deposit, whose receipt references that deposit. -/
def sampleLateReceipt (fee : U256) : BatchInputV5 :=
  let transactionHash := sampleDigest (sampleCall 0 3 7 1)
  { sampleExitBatch with
    admissions := [⟨⟨1, transactionHash, 1, depositContentHashV5 sampleDigest sampleDeposit, 1, 2,
      0, fee, List.replicate 65 0⟩, ⟨1, transactionHash, 0, 1, 0, 0⟩⟩]
    journal := { sampleExitBatch.journal with inboxCursorBefore := 1 } }

/-- The sample deposit is crossed, and a later batch charges it. -/
theorem exists_sampleLateRun (fee : U256)
    (runs : ((runBatch sampleExternals (sampleComposed (sampleLateReceipt fee))).toOption.any
      fun _ => true) = true) :
    ∃ first second : AcceptedBatch sampleExternals,
      ComposedOf sampleExternals sampleDepositBatch first.input ∧
        ComposedOf sampleExternals (sampleLateReceipt fee) second.input ∧
        InboxFollows first second ∧ QueuesFollow first second := by
  obtain ⟨first, -, firstComposed, -⟩ := exists_sampleBatch sampleDepositBatch (fun _ _ => true)
    (by decide +kernel)
  obtain ⟨second, -, secondComposed, -⟩ := exists_sampleBatch (sampleLateReceipt fee)
    (fun _ _ => true) runs
  have inbox := first.exact_of_ne (show Cursor.inbox ≠ .l1Import by decide)
  rw [Cursor.Exact, Cursor.consumed, firstComposed.deposits, Cursor.before,
    firstComposed.inboxCursor] at inbox
  refine ⟨first, second, firstComposed, secondComposed, BitVec.eq_of_toNat_eq ?_,
    BitVec.eq_of_toNat_eq ?_, BitVec.eq_of_toNat_eq ?_⟩
  · rw [secondComposed.inboxCursor]
    exact inbox.symm
  · rw [secondComposed.admissionCursor, first.queues.admissionCursor,
      firstComposed.admissionCursor, firstComposed.admissions]
    rfl
  · rw [secondComposed.forcedCursor, first.queues.forcedCursor, firstComposed.forcedCursor,
      firstComposed.forced]
    rfl

theorem fees_withheld_iff_sample :
    ∃ first second : AcceptedBatch sampleExternals,
      ComposedOf sampleExternals (sampleLateReceipt 0) second.input ∧
        ∀ batch ∈ [first, second], ∀ deposit ∈ batch.input.deposits, deposit.refunded = false →
          totalCredited [first, second] deposit.inboxId + totalFees [first, second] deposit =
            deposit.amount.toNat := by
  obtain ⟨first, second, firstComposed, secondComposed, follows, -⟩ :=
    exists_sampleLateRun 0 (by decide +kernel)
  refine ⟨first, second, secondComposed, (fees_withheld_iff sampleExternals [first, second]
    (List.isChain_cons_cons.mpr ⟨follows, List.isChain_singleton _⟩)).mpr ?_⟩
  have free : ∀ batch ∈ [first, second], ∀ record ∈ batch.input.admissions,
      record.receipt.admissionFee = 0 := by
    intro batch listed
    rcases List.mem_cons.mp listed with rfl | listed
    · rw [firstComposed.admissions]
      exact fun record member => absurd member List.not_mem_nil
    · rw [List.mem_singleton.mp listed, secondComposed.admissions]
      exact fun record member => List.mem_singleton.mp member ▸ rfl
  intro earlier batch later split deposit _ _ other member record charged _
  refine free other (split ▸ ?_) record charged
  rcases List.mem_append.mp member with before | after
  · exact List.mem_append_left _ before
  · exact List.mem_append_right _ (List.mem_cons_of_mem _ after)

/-- A deposit is credited in full, and a later receipt charges it all the same. -/
theorem fee_not_withheld :
    ∃ first second : AcceptedBatch sampleExternals,
      first.input.journal.authorizationMode = 1 ∧ second.input.journal.authorizationMode = 1 ∧
        InboxFollows first second ∧ QueuesFollow first second ∧
        sampleDeposit ∈ first.input.deposits ∧ sampleDeposit.refunded = false ∧
        totalCredited [first, second] sampleDeposit.inboxId = sampleDeposit.amount.toNat ∧
        totalFees [first, second] sampleDeposit = 2 := by
  obtain ⟨first, second, firstComposed, secondComposed, follows, queues⟩ :=
    exists_sampleLateRun 2 (by decide +kernel)
  have consumed : sampleDeposit ∈ first.input.deposits := by
    rw [firstComposed.deposits]
    exact List.mem_cons_self
  refine ⟨first, second, firstComposed.authorizationMode, secondComposed.authorizationMode,
    follows, queues, consumed, rfl, ?_, ?_⟩
  · rw [totalCredited_eq (List.isChain_cons_cons.mpr ⟨follows, List.isChain_singleton _⟩)
      List.mem_cons_self consumed, creditedAmount, firstComposed.admissions]
    rfl
  · rw [totalFees, List.map_cons, List.map_singleton, firstComposed.admissions,
      secondComposed.admissions]
    decide +kernel

end Zkdeal

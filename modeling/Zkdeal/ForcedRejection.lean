/-
This file is about the transactions forced through L1 that a validity-only batch
records as rejected: whether the batch could have carried them, and whether it
executed them all the same.

The reason of a rejection is derived at the end of the batch under the policy the
batch was executed with. That policy counts the signers of the transactions the
composer chose to include, so the root call of a forced transaction is judged
without its own signer; and its state is the terminal one, so a transaction that
was executed has a used-up nonce there.
-/

import Zkdeal.QueueAccounting

namespace Zkdeal

open Words Guard

section Rejection

variable {externals : Externals}

/-! ### The derived reason -/

/-- The sender can pay for and sequence the transaction in this state. -/
def SenderReady (state : StateMap) (tx : TxEnv) : Prop :=
  (senderAccount state tx.caller).1 = tx.nonce ∧ tx.value ≤ (senderAccount state tx.caller).2

instance (state : StateMap) (tx : TxEnv) : Decidable (SenderReady state tx) :=
  inferInstanceAs (Decidable (_ ∧ _))

/-- What an accepted batch establishes about a forced transaction it records as rejected. -/
structure Rejection (batch : AcceptedBatch externals) (forced : ForcedTransactionV5)
    (reason : U8) : Prop where
  derived : forcedRejectionReasonV5 externals forced.rawTransaction
    (batchChainId externals batch.input) batch.opened.policy batch.terminal = some reason
  committed : forced.outcome.reasonHash = forcedRejectionReasonHashV5 externals.keccak256
    (externals.keccak256 forced.rawTransaction) reason
  hash : forced.outcome.transactionHash = externals.keccak256 forced.rawTransaction

/-- What the record checks of an accepted batch say about rejections. -/
theorem AcceptedBatch.records (batch : AcceptedBatch externals) :
    (∀ record ∈ batch.input.admissions, record.outcome.status = 2 →
      record.outcome.transactionHash ∉ executedHashes batch.closed.executed) ∧
      ∀ forced ∈ batch.input.forcedTransactions, forced.outcome.status = 2 →
        ∃ reason, Rejection batch forced reason := by
  refine ⟨fun record member => ?_, fun forced member rejected => ?_⟩
  · obtain ⟨position, item⟩ := exists_mem_zipIdx member
    exact (batch.queues.admissions _ item).unexecuted
  · obtain ⟨position, item⟩ := exists_mem_zipIdx member
    have checked := batch.queues.forced _ item
    obtain ⟨reason, proved⟩ := checked.proved rejected
    exact ⟨reason, proved.derived, proved.committed, checked.hash⟩

/-! ### Signers -/

/-- The account signed a transaction the batch includes. -/
def Signs (externals : Externals) (input : BatchInputV5) (signer : Address) : Prop :=
  ∃ raw ∈ includedTransactions input, ∃ tx,
    txEnvFromRaw externals raw (batchChainId externals input) = .ok tx ∧ tx.caller = signer

/-- The authenticated callers of a validity-only batch are its signers. -/
theorem AcceptedBatch.mem_callers (batch : AcceptedBatch externals)
    (validityOnly : batch.input.journal.authorizationMode = 1) {signer : Address} :
    signer ∈ batch.opened.callers ↔ Signs externals batch.input signer := by
  obtain ⟨rosterCallers, roster, decoding⟩ := (openBatch_spec batch.opens).decoded
  unfold validateRosterTransitionV5 at roster
  dsimp only at roster
  rw [if_pos validityOnly] at roster
  obtain ⟨-, roster⟩ := refuse_bind_eq_ok.mp roster
  unfold decodeBatch at decoding
  rw [if_pos validityOnly] at decoding
  obtain ⟨decoded, mapped, decoding⟩ := bind_eq_ok.mp decoding
  dsimp only at decoding
  obtain ⟨-, decoding⟩ := refuse_bind_eq_ok.mp decoding
  obtain ⟨-, callers⟩ := Prod.mk.inj (pure_eq_ok.mp decoding)
  rw [← callers, ← pure_eq_ok.mp roster, Std.ExtTreeSet.mem_insertMany_list,
    List.contains_iff_mem, or_iff_right Std.ExtTreeSet.not_mem_empty]
  have chain := batch.executes.2.1
  unfold decodedCallers Signs includedTransactions
  constructor
  · intro member
    obtain ⟨transactions, listed, member⟩ := List.mem_flatMap.mp member
    obtain ⟨tx, txMember, rfl⟩ := List.mem_map.mp member
    obtain ⟨block, blockMember, blockDecodes⟩ := mem_of_mapM_eq_ok mapped listed
    obtain ⟨raw, rawMember, decodes⟩ := mem_of_mapM_eq_ok blockDecodes txMember
    rw [mapError_eq_ok, chain block blockMember] at decodes
    exact ⟨raw, List.mem_flatMap.mpr ⟨block, blockMember, rawMember⟩, tx, decodes, rfl⟩
  · rintro ⟨raw, member, tx, decodes, rfl⟩
    obtain ⟨block, blockMember, rawMember⟩ := List.mem_flatMap.mp member
    obtain ⟨transactions, listed, blockDecodes⟩ := exists_mem_of_mapM_eq_ok mapped blockMember
    obtain ⟨other, otherMember, otherDecodes⟩ :=
      exists_mem_of_mapM_eq_ok blockDecodes rawMember
    rw [mapError_eq_ok, chain block blockMember, decodes] at otherDecodes
    rw [Except.ok.inj otherDecodes]
    exact List.mem_flatMap.mpr ⟨transactions, listed, List.mem_map_of_mem otherMember⟩

/-! ### Transactions the batch could have carried -/

/-- The batch could have carried the transaction: it decodes on the chain of the room, its
root call passes once its own signer is counted, and its sender is ready in the terminal
state. -/
def Carriable (batch : AcceptedBatch externals) (raw : Bytes) : Prop :=
  ∃ tx, txEnvFromRaw externals raw (batchChainId externals batch.input) = .ok tx ∧
    (batch.opened.policy.withMember tx.caller).validateTransactionEntry externals.toPrimitives
      tx.caller tx.kind tx.data = .ok () ∧
    SenderReady batch.terminal tx

/-- An active-member rule of the policy covers the root call of the transaction. -/
def MemberCall (policy : ExecutionPolicyV5) (tx : TxEnv) : Prop :=
  ∃ target selector, tx.kind = .call target ∧ selectorOf tx.data = some selector ∧
    RuleCovers policy activeMemberSentinel target .call selector

/-- A root call passes once its signer is counted exactly when an active-member rule covers
it, precompile calls of pinned accounts apart. -/
theorem counted_entry_iff {policy : ExecutionPolicyV5} {members : BTreeSet Address}
    {resolved : ExecutionPolicyV4} (built : FromV5 policy members resolved)
    {primitives : Primitives} {tx : TxEnv}
    (refused : resolved.validateTransactionEntry primitives tx.caller tx.kind tx.data ≠ .ok ()) :
    (resolved.withMember tx.caller).validateTransactionEntry primitives tx.caller tx.kind
        tx.data = .ok () ↔ MemberCall policy tx := by
  have counted := built.withMember tx.caller
  rw [counted.entry_eq_ok]
  rw [ne_eq, built.entry_eq_ok] at refused
  constructor
  · rintro ⟨target, called, allowed⟩
    rcases (counted.allowsCall_member Std.ExtTreeSet.mem_insert_self).mp allowed with
      precompile | ⟨selector, selected, covered⟩
    · exact absurd ⟨target, called, built.allowsCall_precompile precompile⟩ refused
    · exact ⟨target, selector, called, selected, covered⟩
  · rintro ⟨target, selector, called, selected, covered⟩
    exact ⟨target, called, (counted.allowsCall_member Std.ExtTreeSet.mem_insert_self).mpr
      (.inr ⟨selector, selected, covered⟩)⟩

/-- What the policy admits as it is can only be rejected because of its sender. -/
theorem Rejection.of_admitted {batch : AcceptedBatch externals} {forced : ForcedTransactionV5}
    {reason : U8} (rejection : Rejection batch forced reason) {tx : TxEnv}
    (decodes : txEnvFromRaw externals forced.rawTransaction
      (batchChainId externals batch.input) = .ok tx)
    (admitted : batch.opened.policy.validateTransactionEntry externals.toPrimitives tx.caller
      tx.kind tx.data = .ok ()) :
    ¬ SenderReady batch.terminal tx ∧ reason = forcedRejectionSenderV5 := by
  have derived := rejection.derived
  unfold forcedRejectionReasonV5 at derived
  rw [decodes] at derived
  dsimp only at derived
  rw [admitted] at derived
  dsimp only at derived
  split at derived
  case isTrue unready =>
    refine ⟨fun ready => ?_, (Option.some.inj derived).symm⟩
    exact unready.elim (fun nonce => nonce ready.1) (BitVec.not_lt.mpr ready.2)
  case isFalse => cases derived

/-- A batch refuses to reject what its policy admits as it is. -/
theorem Rejection.refused {batch : AcceptedBatch externals} {forced : ForcedTransactionV5}
    {reason : U8} (rejection : Rejection batch forced reason) {tx : TxEnv}
    (decodes : txEnvFromRaw externals forced.rawTransaction
      (batchChainId externals batch.input) = .ok tx) (ready : SenderReady batch.terminal tx) :
    batch.opened.policy.validateTransactionEntry externals.toPrimitives tx.caller tx.kind
      tx.data ≠ .ok () := by
  intro admitted
  exact (rejection.of_admitted decodes admitted).1 ready

/-- A forced transaction recorded as rejected is not one the batch could have carried, exactly
when its signer signed a transaction of the batch or no active-member rule covers its root
call. -/
theorem rejected_not_carriable_iff (batch : AcceptedBatch externals)
    (validityOnly : batch.input.journal.authorizationMode = 1) (forced : ForcedTransactionV5)
    (member : forced ∈ batch.input.forcedTransactions) (rejected : forced.outcome.status = 2) :
    ¬ Carriable batch forced.rawTransaction ↔
      ∀ tx, txEnvFromRaw externals forced.rawTransaction (batchChainId externals batch.input) =
          .ok tx →
        SenderReady batch.terminal tx →
        Signs externals batch.input tx.caller ∨ ¬ MemberCall batch.input.policy tx := by
  have built := (openBatch_spec batch.opens).policy
  obtain ⟨reason, rejection⟩ := (batch.records).2 forced member rejected
  constructor
  · intro outside tx decodes ready
    refine .inr fun covered => outside ⟨tx, decodes, ?_, ready⟩
    exact (counted_entry_iff built (rejection.refused decodes ready)).mpr covered
  · rintro exempt ⟨tx, decodes, entered, ready⟩
    have refused := rejection.refused decodes ready
    have covered := (counted_entry_iff built refused).mp entered
    rcases exempt tx decodes ready with signs | uncovered
    · obtain ⟨target, selector, called, selected, covers⟩ := covered
      rw [ne_eq, built.entry_eq_ok] at refused
      exact refused ⟨target, called, (built.allowsCall_member
        ((batch.mem_callers validityOnly).mpr signs)).mpr (.inr ⟨selector, selected, covers⟩)⟩
    · exact uncovered covered

/-- A forced transaction recorded as rejected for a reason. -/
def sampleRejection (raw : Bytes) (reason : U8) : ForcedTransactionV5 where
  forcedId := 1
  rawTransaction := raw
  outcome := {
    admissionId := 1
    transactionHash := sampleDigest raw
    status := 2
    l2BlockNumber := 0
    transactionIndex := 0
    reasonHash := forcedRejectionReasonHashV5 sampleDigest (sampleDigest raw) reason }

/-- The sample batch with one rejected forced transaction. -/
def sampleRejectedBatch (raw : Bytes) (reason : U8) : BatchInputV5 :=
  sampleComposed { sampleExitBatch with forcedTransactions := [sampleRejection raw reason] }

theorem exists_sampleRejectedBatch (raw : Bytes) (reason : U8)
    (property : OpenedBatch → BatchProgress → Bool)
    (holds : ((runBatch sampleExternals (sampleRejectedBatch raw reason)).toOption.any
      fun stages => property stages.1 stages.2) = true) :
    ∃ batch : AcceptedBatch sampleExternals, batch.input = sampleRejectedBatch raw reason ∧
      ComposedOf sampleExternals
        { sampleExitBatch with forcedTransactions := [sampleRejection raw reason] }
        batch.input ∧
      property batch.opened batch.closed = true :=
  exists_sampleBatch _ property holds

/-- A call of the queue with a selector no rule names, by the member who signed the batch. -/
def sampleUnknownCall : Bytes := [2, 1, 3, 12, 9, 9, 9, 9]

theorem rejected_not_carriable_iff_sample :
    ∃ batch : AcceptedBatch sampleExternals,
      batch.input = sampleRejectedBatch sampleUnknownCall forcedRejectionPolicyV5 ∧
        ¬ Carriable batch sampleUnknownCall := by
  obtain ⟨batch, same, composed, signed⟩ := exists_sampleRejectedBatch sampleUnknownCall
    forcedRejectionPolicyV5 (fun opened _ => opened.callers.contains 3) (by decide +kernel)
  refine ⟨batch, same, (rejected_not_carriable_iff batch composed.authorizationMode
    (sampleRejection sampleUnknownCall forcedRejectionPolicyV5)
    (by rw [composed.forced]; exact List.mem_cons_self) rfl).mpr fun tx decodes _ => .inl ?_⟩
  obtain ⟨decoded, envelope, signer⟩ := txEnvFromRaw_signer decodes
  obtain rfl := Except.ok.inj envelope
  rw [← Except.ok.inj signer, ← batch.mem_callers composed.authorizationMode]
  exact Std.ExtTreeSet.contains_iff_mem.mp signed

/-- A member who signed nothing in the batch is rejected for a call every member may make. -/
theorem rejected_carriable :
    ∃ batch : AcceptedBatch sampleExternals,
      batch.input = sampleRejectedBatch (sampleCall 0 4 7 1) forcedRejectionPolicyV5 ∧
        batch.input.journal.authorizationMode = 1 ∧
        (∃ forced ∈ batch.input.forcedTransactions, forced.outcome.status = 2 ∧
          Carriable batch forced.rawTransaction) := by
  obtain ⟨batch, same, composed, carried⟩ := exists_sampleRejectedBatch (sampleCall 0 4 7 1)
    forcedRejectionPolicyV5
    (fun opened closed =>
      (txEnvFromRaw sampleExternals (sampleCall 0 4 7 1) sampleChainId).toOption.any fun tx =>
        decide ((opened.policy.withMember tx.caller).validateTransactionEntry
          sampleExternals.toPrimitives tx.caller tx.kind tx.data = .ok () ∧
          SenderReady closed.state tx))
    (by decide +kernel)
  refine ⟨batch, same, composed.authorizationMode, sampleRejection (sampleCall 0 4 7 1)
    forcedRejectionPolicyV5, by rw [composed.forced]; exact List.mem_cons_self, rfl, ?_⟩
  have chain : batchChainId sampleExternals batch.input = sampleChainId := composed.chainId
  cases decodes : txEnvFromRaw sampleExternals (sampleCall 0 4 7 1) sampleChainId with
  | error failure =>
    rw [decodes] at carried
    cases carried
  | ok tx =>
    rw [decodes] at carried
    exact ⟨tx, by rw [chain]; exact decodes, of_decide_eq_true carried⟩

/-! ### Transactions the batch executed -/

/-- A rejected forced transaction that the batch also includes is rejected because of its
sender. -/
theorem Rejection.included {batch : AcceptedBatch externals} {forced : ForcedTransactionV5}
    {reason : U8} (rejection : Rejection batch forced reason)
    (included : forced.rawTransaction ∈ includedTransactions batch.input) :
    reason = forcedRejectionSenderV5 := by
  obtain ⟨tx, decodes, admitted⟩ := batch.executes.2.2 _ included
  exact (rejection.of_admitted decodes admitted).2

/-- A transaction of the batch has the signer and the nonce of this one, which it uses up. -/
def NonceSpent (externals : Externals) (input : BatchInputV5) (raw : Bytes) : Prop :=
  ∃ tx, txEnvFromRaw externals raw (batchChainId externals input) = .ok tx ∧
    ∃ other ∈ includedTransactions input, ∃ spender,
      txEnvFromRaw externals other (batchChainId externals input) = .ok spender ∧
        spender.caller = tx.caller ∧ spender.nonce = tx.nonce

/-- No transaction is both executed and recorded as rejected if no forced record that carries
the sender reason has a nonce that the batch itself spends, and the raw transactions do not
collide. -/
theorem rejected_not_executed (batch : AcceptedBatch externals)
    (clean : ¬ Binding.Collides externals.keccak256
      (batch.input.forcedTransactions.map ForcedTransactionV5.rawTransaction ++
        includedTransactions batch.input))
    (unspent : ∀ forced ∈ batch.input.forcedTransactions, forced.outcome.status = 2 →
      forced.outcome.reasonHash = forcedRejectionReasonHashV5 externals.keccak256
        (externals.keccak256 forced.rawTransaction) forcedRejectionSenderV5 →
      ¬ NonceSpent externals batch.input forced.rawTransaction) :
    (∀ record ∈ batch.input.admissions, record.outcome.status = 2 →
        record.outcome.transactionHash ∉ executedHashes batch.closed.executed) ∧
      ∀ forced ∈ batch.input.forcedTransactions, forced.outcome.status = 2 →
        forced.outcome.transactionHash ∉ executedHashes batch.closed.executed := by
  obtain ⟨admissions, rejections⟩ := batch.records
  refine ⟨admissions, fun forced member rejected executed => ?_⟩
  obtain ⟨reason, rejection⟩ := rejections forced member rejected
  rw [batch.executes.1, rejection.hash] at executed
  obtain ⟨raw, included, digest⟩ := List.mem_map.mp executed
  have same := Binding.eq_of_hash_eq clean (List.mem_append_right _ included)
    (List.mem_append_left _ (List.mem_map_of_mem member)) digest
  rw [same] at included
  obtain ⟨tx, decodes, -⟩ := batch.executes.2.2 _ included
  refine unspent forced member rejected ?_
    ⟨tx, decodes, forced.rawTransaction, included, tx, decodes, rfl, rfl⟩
  rw [rejection.committed, rejection.included included]

/-- The member who signed the batch is also rejected with a nonce that is not spent in it. -/
theorem rejected_not_executed_sample :
    ∃ batch : AcceptedBatch sampleExternals,
      batch.input = sampleRejectedBatch (sampleCall 5 3 7 1) forcedRejectionSenderV5 ∧
        ∀ forced ∈ batch.input.forcedTransactions, forced.outcome.status = 2 →
          forced.outcome.transactionHash ∉ executedHashes batch.closed.executed := by
  obtain ⟨batch, same, composed, -⟩ := exists_sampleRejectedBatch (sampleCall 5 3 7 1)
    forcedRejectionSenderV5 (fun _ _ => true) (by decide +kernel)
  have included : includedTransactions batch.input = [sampleCall 0 3 7 1] := by
    rw [same]
    decide +kernel
  refine ⟨batch, same, (rejected_not_executed batch ?_ ?_).2⟩
  · rw [composed.forced, included]
    unfold Binding.Collides
    decide +kernel
  · rw [composed.forced]
    rintro forced member - - ⟨tx, decodes, other, otherMember, spender, otherDecodes, -, nonce⟩
    rw [List.mem_singleton.mp member, composed.chainId] at decodes
    rw [included, List.mem_singleton] at otherMember
    rw [otherMember, composed.chainId] at otherDecodes
    have nonces : ((txEnvFromRaw sampleExternals (sampleCall 5 3 7 1) sampleChainId).toOption.map
        TxEnv.nonce, (txEnvFromRaw sampleExternals (sampleCall 0 3 7 1)
          sampleChainId).toOption.map TxEnv.nonce) = (some 5, some 0) := by decide +kernel
    rw [show txEnvFromRaw sampleExternals (sampleCall 5 3 7 1) sampleChainId = .ok tx from decodes,
      show txEnvFromRaw sampleExternals (sampleCall 0 3 7 1) sampleChainId = .ok spender from
        otherDecodes] at nonces
    simp only [Except.toOption, Option.map_some, Prod.mk.injEq, Option.some.injEq] at nonces
    rw [nonces.1, nonces.2] at nonce
    exact absurd nonce (by decide)

/-- A transaction is executed, and recorded as rejected because the execution used up its
nonce. -/
theorem rejected_and_executed :
    ∃ batch : AcceptedBatch sampleExternals,
      batch.input = sampleRejectedBatch (sampleCall 0 3 7 1) forcedRejectionSenderV5 ∧
        batch.input.journal.authorizationMode = 1 ∧
        ∃ forced ∈ batch.input.forcedTransactions, forced.outcome.status = 2 ∧
          forced.outcome.transactionHash ∈ executedHashes batch.closed.executed := by
  obtain ⟨batch, same, composed, executed⟩ := exists_sampleRejectedBatch (sampleCall 0 3 7 1)
    forcedRejectionSenderV5
    (fun _ closed => sampleDigest (sampleCall 0 3 7 1) ∈ executedHashes closed.executed)
    (by decide +kernel)
  exact ⟨batch, same, composed.authorizationMode, sampleRejection (sampleCall 0 3 7 1)
    forcedRejectionSenderV5, by rw [composed.forced]; exact List.mem_cons_self, rfl,
    of_decide_eq_true executed⟩

end Rejection

end Zkdeal

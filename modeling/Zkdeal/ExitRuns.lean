/-
This file is about the exit queue over a run of batches: every record of the queue
is minted exactly once.

A batch mints the records between the cursor of the state it opens at and the
cursor of the state it ends with. The opening cursor is read after the import, so
that an import cannot move it has to come from the policy, which keeps the import
mirrors out of the queue contract. Batches that open where the one before them
ended then take consecutive spans of the queue.
-/

import Zkdeal.Library.Spans
import Zkdeal.WriteEnvelope

namespace Zkdeal

open Words Guard Spans

/-! ### The cursor -/

/-- The cursor of the exit queue in a state. -/
def exitCursor (binding : ExitBindingV5) (state : StateMap) : Nat :=
  (state.storageAt binding.queueContract binding.countSlot).toNat

theorem exitRecordCountV5_eq {binding : ExitBindingV5} {state : StateMap} {count : U64}
    (read : exitRecordCountV5 binding state = .ok count) :
    count.toNat = exitCursor binding state := by
  obtain ⟨value, stored, read⟩ := bind_eq_ok.mp read
  obtain ⟨-, stored⟩ := refuse_bind_eq_ok.mp stored
  obtain ⟨fits, read⟩ := refuse_bind_eq_ok.mp read
  rw [← pure_eq_ok.mp read, exitCursor, pure_eq_ok.mp stored, BitVec.toNat_setWidth,
    Nat.mod_eq_of_lt (not_le.mp fits)]

/-- An import that keeps out of the queue contract leaves the cursor alone. -/
theorem exitCursor_import {primitives : Primitives} {input : BatchInputV5}
    {binding : ExitBindingV5} {before after : StateMap}
    (avoids : ∀ mirror ∈ input.policy.imports, mirror.roomContract ≠ binding.queueContract)
    (imported : verifyAndApplyImportV5 primitives input before = .ok after) :
    exitCursor binding after = exitCursor binding before := by
  have outside : ¬ Mirrored input.policy binding.queueContract binding.countSlot := by
    rintro ⟨mirror, member, same, -⟩
    exact avoids mirror member same
  rw [exitCursor, exitCursor, (verifyAndApplyImportV5_spec imported).2.kept outside]

/-! ### Records -/

/-- A slot of a record of the queue. -/
def recordSlot (binding : ExitBindingV5) (index offset : Nat) : U256 :=
  binding.recordsBaseSlot + BitVec.ofNat 256 (3 * index + offset)

/-- The slots of a record that does not wrap are in their place. -/
theorem toNat_recordSlot {binding : ExitBindingV5} {index offset : Nat}
    (inside : binding.recordsBaseSlot.toNat + 3 * index + 2 < 2 ^ 256) (small : offset ≤ 2) :
    (recordSlot binding index offset).toNat =
      binding.recordsBaseSlot.toNat + 3 * index + offset := by
  rw [recordSlot, BitVec.toNat_add, BitVec.toNat_ofNat, Nat.add_mod_mod,
    Nat.mod_eq_of_lt (by omega)]
  omega

/-- The three slots of a record hold this recipient, asset and amount, and do not wrap. -/
structure HoldsRecord (binding : ExitBindingV5) (state : StateMap) (index : Nat)
    (recipient asset : Address) (amount : U256) : Prop where
  inside : binding.recordsBaseSlot.toNat + 3 * index + 2 < 2 ^ 256
  recipient : state.storageAt binding.queueContract (recordSlot binding index 0) =
    recipient.setWidth 256
  asset : state.storageAt binding.queueContract (recordSlot binding index 1) =
    asset.setWidth 256
  amount : state.storageAt binding.queueContract (recordSlot binding index 2) = amount

theorem readStorageV5_eq {state : StateMap} {address : Address} {slot : U256} {label : String}
    {value : U256} (read : readStorageV5 state address slot label = .ok value) :
    state.storageAt address slot = value := by
  obtain ⟨-, read⟩ := refuse_bind_eq_ok.mp read
  exact pure_eq_ok.mp read

theorem addressFromWordV5_eq {word : U256} {label : String} {address : Address}
    (read : addressFromWordV5 word label = .ok address) : word = address.setWidth 256 := by
  obtain ⟨narrow, read⟩ := refuse_bind_eq_ok.mp read
  have high : word.toNat / 2 ^ 160 = 0 := by
    have zero := congrArg BitVec.toNat (not_not.mp narrow)
    rwa [BitVec.toNat_ushiftRight, Nat.shiftRight_eq_div_pow] at zero
  rw [← pure_eq_ok.mp read]
  refine BitVec.eq_of_toNat_eq ?_
  rw [BitVec.toNat_setWidth_of_le (by decide), BitVec.toNat_setWidth]
  exact (Nat.mod_eq_of_lt (by omega)).symm

/-- A record that is read is the one its three slots hold. -/
theorem readExitRecordV5_holds {binding : ExitBindingV5} {state : StateMap} {index : Nat}
    {record : ExitRecordV5} (small : index < 2 ^ 64)
    (read : readExitRecordV5 binding state index = .ok record) :
    HoldsRecord binding state index record.recipient record.asset record.amount := by
  obtain ⟨recipientSlot, placed, read⟩ := bind_eq_ok.mp read
  obtain ⟨assetSlot, assetPlaced, read⟩ := bind_eq_ok.mp read
  obtain ⟨amountSlot, amountPlaced, read⟩ := bind_eq_ok.mp read
  obtain ⟨recipientWord, recipientRead, read⟩ := bind_eq_ok.mp read
  obtain ⟨recipient, recipientNarrow, read⟩ := bind_eq_ok.mp read
  obtain ⟨assetWord, assetRead, read⟩ := bind_eq_ok.mp read
  obtain ⟨asset, assetNarrow, read⟩ := bind_eq_ok.mp read
  obtain ⟨amount, amountRead, read⟩ := bind_eq_ok.mp read
  obtain ⟨-, read⟩ := refuse_bind_eq_ok.mp read
  obtain ⟨scaled, multiplied, added⟩ := Option.bind_eq_some_iff.mp (orRefuse_eq_ok.mp placed)
  have product := checkedMul_eq_some.mp multiplied
  have first := checkedAdd_eq_some.mp added
  have second := checkedAdd_eq_some.mp (orRefuse_eq_ok.mp assetPlaced)
  have third := checkedAdd_eq_some.mp (orRefuse_eq_ok.mp amountPlaced)
  have indexValue : (BitVec.ofNat 256 index).toNat = index := by
    rw [BitVec.toNat_ofNat, Nat.mod_eq_of_lt (by omega)]
  have three : (3 : U256).toNat = 3 := rfl
  have one : (1 : U256).toNat = 1 := rfl
  have two : (2 : U256).toNat = 2 := rfl
  rw [indexValue, three] at product
  rw [one] at second
  rw [two] at third
  have bounded := amountSlot.isLt
  have slotValue : ∀ offset, offset ≤ 2 →
      (recordSlot binding index offset).toNat =
        binding.recordsBaseSlot.toNat + 3 * index + offset :=
    fun offset small => toNat_recordSlot (by omega) small
  have recipientPlace : recipientSlot = recordSlot binding index 0 :=
    BitVec.eq_of_toNat_eq (by rw [slotValue 0 (by omega)]; omega)
  have assetPlace : assetSlot = recordSlot binding index 1 :=
    BitVec.eq_of_toNat_eq (by rw [slotValue 1 (by omega)]; omega)
  have amountPlace : amountSlot = recordSlot binding index 2 :=
    BitVec.eq_of_toNat_eq (by rw [slotValue 2 (by omega)]; omega)
  rw [← pure_eq_ok.mp read]
  exact {
    inside := by omega
    recipient := by
      rw [← recipientPlace, readStorageV5_eq recipientRead, addressFromWordV5_eq recipientNarrow]
    asset := by
      rw [← assetPlace, readStorageV5_eq assetRead, addressFromWordV5_eq assetNarrow]
    amount := by rw [← amountPlace, readStorageV5_eq amountRead] }

/-! ### One batch -/

/-- An accepted validity-only batch of a room with an exit queue. -/
structure QueueBatch (externals : Externals) (binding : ExitBindingV5) extends
    AcceptedBatch externals where
  validityOnly : input.journal.authorizationMode = 1
  bound : input.policy.exit = some binding

namespace QueueBatch

variable {externals : Externals} {binding : ExitBindingV5}

/-- The cursor a batch compares with is the one of the state it opens at. -/
theorem preExitCount_eq (batch : QueueBatch externals binding) :
    batch.opened.preExitCount.toNat = exitCursor binding batch.opened.opening ∧
      exitCursor binding batch.opened.imported = exitCursor binding batch.opened.opening := by
  have opens := openBatch_spec batch.opens
  have unmoved := exitCursor_import (opens.policy.importsAvoidQueue binding batch.bound)
    opens.imported
  have counted := opens.preExitCount
  unfold openingExitCount at counted
  rw [batch.bound] at counted
  dsimp only at counted
  rw [if_pos batch.validityOnly] at counted
  exact ⟨(exitRecordCountV5_eq counted).trans unmoved, unmoved⟩

/-- The allocation of a batch: the records between its cursors and, at a close, the sweep. -/
theorem allocation (batch : QueueBatch externals binding) :
    ∃ records swept,
      exitCursor binding batch.opened.opening ≤ exitCursor binding batch.terminal ∧
      exitCursor binding batch.terminal < 2 ^ 64 ∧
      List.Forall₂ (fun index record => readExitRecordV5 binding batch.terminal index = .ok record)
        (List.range' (exitCursor binding batch.opened.opening)
          (exitCursor binding batch.terminal - exitCursor binding batch.opened.opening))
        records ∧
      (batch.input.journal.close = false → swept = []) ∧
      batch.input.withdrawals =
        positionExits batch.input.journal.postRosterEpoch (records ++ swept) ∧
      batch.input.withdrawals.length ≤ maxWithdrawalCapacityV5.toNat := by
  have exits := (settleBatch_spec batch.settles).exits
  unfold validateExitV5 at exits
  rw [batch.bound] at exits
  dsimp only at exits
  rw [if_neg (not_not.mpr batch.validityOnly)] at exits
  obtain ⟨postCount, records, swept, counted, forward, read, sweptEqual, allocated, bounded⟩ :=
    validateBoundExit_spec exits
  have terminalCount : postCount.toNat = exitCursor binding batch.terminal :=
    exitRecordCountV5_eq counted
  have openingCount := batch.preExitCount_eq.1
  refine ⟨records, swept, ?_, ?_, ?_, fun stays => ?_, allocated, bounded⟩
  · rw [← openingCount, ← terminalCount]
    exact forward
  · rw [← terminalCount]
    exact postCount.isLt
  · rw [← openingCount, ← terminalCount]
    exact mapM_eq_ok.mp read
  · rw [closeSweep, if_neg (by simp [stays])] at sweptEqual
    exact (Except.ok.inj sweptEqual).symm

/-- The records a batch mints. -/
def span (batch : QueueBatch externals binding) : Span where
  first := exitCursor binding batch.opened.opening
  last := exitCursor binding batch.terminal
  ordered := by
    obtain ⟨_, _, ordered, -⟩ := batch.allocation
    exact ordered

end QueueBatch

theorem positionExits_getElem? (epoch : U64) (records : List ExitRecordV5) (position : Nat) :
    (positionExits epoch records)[position]? = records[position]?.map fun record =>
      positionExit epoch (record, position) := by
  rw [positionExits, List.getElem?_map, List.getElem?_zipIdx, Option.map_map, Nat.zero_add]
  rfl

/-- The leaves of a batch are the records of its span: the leaf at a position has this index
and what the three slots of its record hold in the terminal state. An open batch has no other
leaves. -/
structure MintsSpan (binding : ExitBindingV5) (terminal : StateMap) (input : BatchInputV5)
    (span : Span) : Prop where
  leaf : ∀ position, position < span.last - span.first →
    ∃ withdrawal, input.withdrawals[position]? = some withdrawal ∧
      withdrawal.index.toNat = position ∧
      HoldsRecord binding terminal (span.first + position) withdrawal.recipient
        withdrawal.asset withdrawal.amount
  enough : span.last - span.first ≤ input.withdrawals.length
  exact : input.journal.close = false → input.withdrawals.length = span.last - span.first

theorem QueueBatch.mintsSpan {externals : Externals} {binding : ExitBindingV5}
    (batch : QueueBatch externals binding) :
    MintsSpan binding batch.terminal batch.input batch.span := by
  obtain ⟨records, swept, ordered, small, read, sweptNothing, allocated, bounded⟩ :=
    batch.allocation
  have count : records.length = batch.span.last - batch.span.first := by
    have equal := read.length_eq
    rw [List.length_range'] at equal
    exact equal.symm
  have total : batch.input.withdrawals.length = records.length + swept.length := by
    rw [allocated, positionExits, List.length_map, List.length_zipIdx, List.length_append]
  refine ⟨fun position inside => ?_, by omega, fun stays => ?_⟩
  · rw [← count] at inside
    have place : position < (List.range' (exitCursor binding batch.opened.opening)
        (exitCursor binding batch.terminal -
          exitCursor binding batch.opened.opening)).length := by
      rw [read.length_eq]
      exact inside
    have single := (List.forall₂_iff_get.mp read).2 position place inside
    simp only [List.get_eq_getElem, List.getElem_range', Nat.one_mul] at single
    have found : (records ++ swept)[position]? = some records[position] := by
      rw [List.getElem?_append_left inside, List.getElem?_eq_getElem inside]
    refine ⟨positionExit batch.input.journal.postRosterEpoch (records[position], position),
      by rw [allocated, positionExits_getElem?, found, Option.map_some], ?_,
      readExitRecordV5_holds ?_ single⟩
    · have limit : maxWithdrawalCapacityV5.toNat < 2 ^ 64 := maxWithdrawalCapacityV5.isLt
      exact (BitVec.toNat_ofNat _ _).trans (Nat.mod_eq_of_lt (by omega))
    · have last : batch.span.last < 2 ^ 64 := small
      have first : batch.span.first = exitCursor binding batch.opened.opening := rfl
      omega
  · rw [total, sweptNothing stays, List.length_nil, Nat.add_zero, count]

/-! ### Runs -/

/-- A batch that opens at exactly the account map the one before it ended with. -/
def Reopens {externals : Externals} {binding : ExitBindingV5}
    (earlier later : QueueBatch externals binding) : Prop :=
  later.opened.opening.accounts = earlier.terminal.accounts

theorem Reopens.follows {externals : Externals} {binding : ExitBindingV5}
    {earlier later : QueueBatch externals binding} (reopens : Reopens earlier later) :
    Spans.Follows earlier.span later.span := by
  show exitCursor binding later.opened.opening = exitCursor binding earlier.terminal
  unfold exitCursor
  rw [StateMap.storageAt_eq_getD, StateMap.storageAt_eq_getD, reopens]

/-- Exactly-once exits over any run: the spans of the batches are, in order, the records from
the first opening cursor to the last terminal one; every record in between is minted by
exactly one batch; the leaves of every batch are the records of its span at indices counted
from zero; and an import does not move the cursor a batch starts from. -/
theorem exits_exactly_once {externals : Externals} {binding : ExitBindingV5}
    (batches : List (QueueBatch externals binding)) (first last : QueueBatch externals binding)
    (chained : batches.IsChain Reopens) (begins : batches.head? = some first)
    (ends : batches.getLast? = some last) :
    exitCursor binding first.opened.opening ≤ exitCursor binding last.terminal ∧
      (batches.flatMap fun batch => batch.span.indices) =
        List.range' (exitCursor binding first.opened.opening)
          (exitCursor binding last.terminal - exitCursor binding first.opened.opening) ∧
      (∀ index, exitCursor binding first.opened.opening ≤ index →
        index < exitCursor binding last.terminal →
        ∃! position : Nat, ∃ batch, batches[position]? = some batch ∧
          index ∈ batch.span.indices) ∧
      ∀ batch ∈ batches, MintsSpan binding batch.terminal batch.input batch.span ∧
        batch.opened.preExitCount.toNat = exitCursor binding batch.opened.opening ∧
        exitCursor binding batch.opened.imported = exitCursor binding batch.opened.opening := by
  obtain ⟨rest, rfl⟩ := List.head?_eq_some_iff.mp begins
  have spansChained : (first.span :: rest.map QueueBatch.span).IsChain Spans.Follows := by
    rw [← List.map_cons, List.isChain_map]
    exact chained.imp fun _ _ => Reopens.follows
  have spansEnd : (first.span :: rest.map QueueBatch.span).getLast? = some last.span := by
    rw [← List.map_cons, List.getLast?_map, ends, Option.map_some]
  have reached : first.span.last ≤ last.span.last :=
    left_le_last Span.first Span.last (fun span _ => span.ordered) spansChained spansEnd
  refine ⟨first.span.ordered.trans reached, ?_, fun index lower upper => ?_,
    fun batch _ => ⟨batch.mintsSpan, batch.preExitCount_eq⟩⟩
  · have covered := flatMap_indices spansChained spansEnd
    rwa [← List.map_cons, List.flatMap_map] at covered
  · obtain ⟨position, ⟨span, found, member⟩, unique⟩ :=
      existsUnique_position spansChained spansEnd lower upper
    rw [← List.map_cons, List.getElem?_map] at found
    obtain ⟨batch, batchFound, rfl⟩ := Option.map_eq_some_iff.mp found
    refine ⟨position, ⟨batch, batchFound, member⟩, ?_⟩
    rintro other ⟨otherBatch, otherFound, otherMember⟩
    refine unique other ⟨otherBatch.span, ?_, otherMember⟩
    rw [← List.map_cons, List.getElem?_map, otherFound, Option.map_some]

/-- The state the sample batch ends with. -/
def sampleNextState : CompactStateWitnessV4 :=
  sampleCompactState 1 [(0, 1), (1, 3), (2, 7), (3, 1), (4, 0), (5, 0), (6, 0)]

/-- The batch after the sample batch, in which the member leaves with two more units. -/
def sampleNextBatch : BatchInputV5 :=
  { sampleRoomBatch sampleNextState [sampleCall 1 3 7 2] with
    preLiabilities := [⟨7, 0, 9, 1, 0⟩]
    postLiabilities := [⟨7, 0, 7, 3, 0⟩]
    withdrawals := [⟨0, 0, 3, 7, 2⟩]
    withdrawalCapacity := 1 }

/-- The account map of `sampleNextState`. -/
def sampleNextAccounts : Option (BTreeMap Address AccountRecord) :=
  (verifyCompactStateV4 samplePrimitives sampleNextState).toOption.map StateMap.accounts

theorem exits_exactly_once_sample :
    ∃ first second : QueueBatch sampleExternals sampleQueueBinding,
      first.input = sampleComposed sampleExitBatch ∧
        second.input = sampleComposed sampleNextBatch ∧
        ([first, second].flatMap fun batch => batch.span.indices) = [0, 1] := by
  obtain ⟨first, firstInput, firstOf, firstRun⟩ := exists_sampleBatch sampleExitBatch
    (fun opened closed => some closed.state.accounts = sampleNextAccounts ∧
      exitCursor sampleQueueBinding opened.opening = 0) (by decide +kernel)
  obtain ⟨second, secondInput, secondOf, secondRun⟩ := exists_sampleBatch sampleNextBatch
    (fun opened closed => some opened.opening.accounts = sampleNextAccounts ∧
      exitCursor sampleQueueBinding closed.state = 2) (by decide +kernel)
  obtain ⟨firstEnds, firstCursor⟩ := of_decide_eq_true firstRun
  obtain ⟨secondBegins, secondCursor⟩ := of_decide_eq_true secondRun
  let earlier : QueueBatch sampleExternals sampleQueueBinding :=
    ⟨first, firstOf.authorizationMode, by rw [firstOf.policy]; rfl⟩
  let later : QueueBatch sampleExternals sampleQueueBinding :=
    ⟨second, secondOf.authorizationMode, by rw [secondOf.policy]; rfl⟩
  have reopens : Reopens earlier later :=
    Option.some.inj (secondBegins.trans firstEnds.symm)
  have covered := (exits_exactly_once [earlier, later] earlier later
    (List.isChain_cons_cons.mpr ⟨reopens, List.isChain_singleton _⟩) rfl rfl).2.1
  have begins : exitCursor sampleQueueBinding earlier.opened.opening = 0 := firstCursor
  have ends : exitCursor sampleQueueBinding later.terminal = 2 := secondCursor
  rw [begins, ends] at covered
  exact ⟨earlier, later, firstInput, secondInput, covered⟩

end Zkdeal

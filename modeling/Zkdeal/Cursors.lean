/-
This file is about the five cursors a batch moves: the roster changes, the L1
inbox, the admissions, the forced transactions and the L1 imports. They are
checked in four places with four kinds of arithmetic. Four of the cursors advance
by what the batch consumes; the import cursor saturates, so at the top of its
range an import is consumed without moving it.
-/

import Zkdeal.Escrow
import Zkdeal.ImportMirror
import Zkdeal.QueueAccounting
import Zkdeal.RosterLifecycle

namespace Zkdeal

open Words Guard Spans

/-! ### Cursors -/

/-- The queues a batch consumes from. -/
inductive Cursor where
  | rosterChange
  | inbox
  | admission
  | forced
  | l1Import
deriving DecidableEq

namespace Cursor

/-- The value of a cursor before a batch. -/
def before (journal : BatchJournalV5) : Cursor → U64
  | rosterChange => journal.rosterChangeCursorBefore
  | inbox => journal.inboxCursorBefore
  | admission => journal.admissionCursorBefore
  | forced => journal.forcedCursorBefore
  | l1Import => journal.importCursorBefore

/-- The value of a cursor after a batch. -/
def after (journal : BatchJournalV5) : Cursor → U64
  | rosterChange => journal.rosterChangeCursorAfter
  | inbox => journal.inboxCursorAfter
  | admission => journal.admissionCursorAfter
  | forced => journal.forcedCursorAfter
  | l1Import => journal.importCursorAfter

/-- The positions of the items a batch consumes; an import is at the one after the cursor. -/
def consumed (input : BatchInputV5) : Cursor → List Nat
  | rosterChange => input.rosterChanges.map fun change => change.requestId.toNat
  | inbox => input.deposits.map fun deposit => deposit.inboxId.toNat
  | admission => input.admissions.map fun record => record.receipt.admissionId.toNat
  | forced => input.forcedTransactions.map fun forced => forced.forcedId.toNat
  | l1Import => input.l1Import.toList.map fun _ => input.journal.importCursorBefore.toNat + 1

/-- The cursor advances by the number of items consumed. -/
def Exact (input : BatchInputV5) (cursor : Cursor) : Prop :=
  (cursor.after input.journal).toNat =
    (cursor.before input.journal).toNat + (cursor.consumed input).length

end Cursor

/-- The batch carries an import while the import cursor is at the top of its range. -/
def ImportsAtTop (input : BatchInputV5) : Prop :=
  input.l1Import ≠ none ∧ input.journal.importCursorBefore = BitVec.allOnes 64

section Batches

variable {externals : Externals}

theorem saturatingAdd_one {cursor : U64} :
    (saturatingAdd cursor 1).toNat = cursor.toNat + 1 ↔ cursor ≠ BitVec.allOnes 64 := by
  unfold saturatingAdd
  have top : (BitVec.allOnes 64).toNat = 2 ^ 64 - 1 := BitVec.toNat_allOnes
  have bound := cursor.isLt
  have atTop : cursor = BitVec.allOnes 64 ↔ cursor.toNat = 2 ^ 64 - 1 := by
    rw [← top]
    exact ⟨congrArg BitVec.toNat, BitVec.eq_of_toNat_eq⟩
  rw [ne_eq, atTop]
  change (if cursor.toNat + 1 < 2 ^ 64 then cursor + 1 else BitVec.allOnes 64).toNat = _ ↔ _
  split
  · rename_i fits
    have sum : (cursor + 1).toNat = cursor.toNat + 1 := by
      rw [BitVec.toNat_add]
      exact Nat.mod_eq_of_lt fits
    omega
  · omega

/-- The import cursor is exact unless it is at the top. -/
theorem AcceptedBatch.import_exact_iff (batch : AcceptedBatch externals) :
    Cursor.l1Import.Exact batch.input ↔ ¬ ImportsAtTop batch.input := by
  have imported := (openBatch_spec batch.opens).imported
  unfold verifyAndApplyImportV5 at imported
  unfold Cursor.Exact ImportsAtTop
  split at imported
  · rename_i absent
    obtain ⟨⟨⟩, empty, -⟩ := bind_eq_ok.mp imported
    have unmoved := not_not.mp (not_or.mp (refuse_eq_ok.mp empty)).1
    simp [Cursor.after, Cursor.before, Cursor.consumed, absent, unmoved]
  · rename_i l1Import present
    have moved := (applyImport_spec imported).cursor
    simp only [Cursor.after, Cursor.before, Cursor.consumed, present, moved, Option.toList_some,
      List.map_cons, List.map_nil, List.length_cons, List.length_nil, Nat.zero_add]
    rw [saturatingAdd_one]
    simp

/-- Every batch consumes the positions that follow its cursors. -/
theorem AcceptedBatch.consumed_eq (batch : AcceptedBatch externals) (cursor : Cursor) :
    cursor.consumed batch.input = List.range' ((cursor.before batch.input.journal).toNat + 1)
      (cursor.consumed batch.input).length := by
  have opens := openBatch_spec batch.opens
  cases cursor with
  | rosterChange =>
    obtain ⟨callers, roster, -⟩ := opens.decoded
    have requests := (AcceptedRoster.mk batch.input callers roster).advances.requests
    have counted := congrArg List.length requests
    rw [List.length_range'] at counted
    rw [← counted] at requests
    exact requests
  | inbox =>
    obtain ⟨totals, computed⟩ := validateLiabilitiesV5_totals opens.liabilities
    rw [Cursor.consumed, List.length_map]
    refine map_eq_range' fun item member => ?_
    rw [computed.inboxIds item member, Cursor.before]
    omega
  | admission =>
    rw [Cursor.consumed, List.length_map]
    exact batch.admissionIds_eq
  | forced =>
    rw [Cursor.consumed, List.length_map]
    exact batch.forcedIds_eq
  | l1Import =>
    cases present : batch.input.l1Import <;> simp [Cursor.consumed, Cursor.before, present]

/-- The cursors apart from the import cursor are exact. -/
theorem AcceptedBatch.exact_of_ne (batch : AcceptedBatch externals) {cursor : Cursor}
    (other : cursor ≠ .l1Import) : cursor.Exact batch.input := by
  have opens := openBatch_spec batch.opens
  unfold Cursor.Exact
  cases cursor with
  | rosterChange =>
    obtain ⟨callers, roster, -⟩ := opens.decoded
    have advances := (AcceptedRoster.mk batch.input callers roster).advances
    have counted := congrArg List.length advances.requests
    have ordered := advances.ordered
    rw [List.length_range'] at counted
    change _ = _ + (AcceptedRoster.mk batch.input callers roster).requestIds.length
    rw [counted]
    exact (Nat.add_sub_cancel' ordered).symm
  | inbox =>
    obtain ⟨totals, computed⟩ := validateLiabilitiesV5_totals opens.liabilities
    rw [Cursor.consumed, List.length_map]
    exact computed.inboxCursor
  | admission =>
    rw [Cursor.consumed, List.length_map]
    exact batch.queues.admissionCursor
  | forced =>
    rw [Cursor.consumed, List.length_map]
    exact batch.queues.forcedCursor
  | l1Import => exact absurd rfl other

/-- Over a chain of batches that advance a cursor exactly, every position is consumed once. -/
theorem AcceptedBatch.consumed_run {cursor : Cursor} {first last : AcceptedBatch externals}
    {rest : List (AcceptedBatch externals)}
    (chained : (first :: rest).IsChain fun earlier later =>
      cursor.before later.input.journal = cursor.after earlier.input.journal)
    (ends : (first :: rest).getLast? = some last)
    (advances : ∀ batch ∈ first :: rest, cursor.Exact batch.input) :
    ((first :: rest).flatMap fun batch => cursor.consumed batch.input) =
      List.range' ((cursor.before first.input.journal).toNat + 1)
        ((cursor.after last.input.journal).toNat -
          (cursor.before first.input.journal).toNat) := by
  have covered := flatMap_taken
    (fun batch : AcceptedBatch externals => (cursor.before batch.input.journal).toNat + 1)
    (fun batch => (cursor.after batch.input.journal).toNat + 1)
    (fun batch => cursor.consumed batch.input)
    (fun batch member => by rw [advances batch member]; omega)
    (fun batch member => by
      rw [advances batch member, Nat.add_sub_add_right, Nat.add_sub_cancel_left]
      exact batch.consumed_eq cursor)
    (chained.imp fun _ _ follows => by rw [follows]) ends
  rwa [Nat.add_sub_add_right] at covered

end Batches

/-- The five cursors of an accepted batch advance by what it consumes, unless it carries an L1
witness at the top of the import cursor. Over a chain of batches of which none does, every
position of a queue is consumed once. -/
theorem cursors_exact_iff (externals : Externals) :
    (∀ batch : AcceptedBatch externals,
      (∀ cursor : Cursor, cursor.Exact batch.input) ↔ ¬ ImportsAtTop batch.input) ∧
    ∀ (cursor : Cursor) (first last : AcceptedBatch externals)
      (rest : List (AcceptedBatch externals)),
      ((first :: rest).IsChain fun earlier later =>
        cursor.before later.input.journal = cursor.after earlier.input.journal) →
      (first :: rest).getLast? = some last →
      (∀ batch ∈ first :: rest, cursor = .l1Import → ¬ ImportsAtTop batch.input) →
      ((first :: rest).flatMap fun batch => cursor.consumed batch.input) =
          List.range' ((cursor.before first.input.journal).toNat + 1)
            ((cursor.after last.input.journal).toNat -
              (cursor.before first.input.journal).toNat) ∧
        ((first :: rest).flatMap fun batch => cursor.consumed batch.input).Nodup := by
  refine ⟨fun batch => ?_, ?_⟩
  · rw [← batch.import_exact_iff]
    constructor
    · exact fun every => every .l1Import
    · intro imports cursor
      by_cases same : cursor = .l1Import
      · rw [same]
        exact imports
      · exact batch.exact_of_ne same
  · intro cursor first last rest chained ends below
    have advances : ∀ batch ∈ first :: rest, cursor.Exact batch.input := by
      intro batch member
      by_cases same : cursor = .l1Import
      · rw [same]
        exact batch.import_exact_iff.mpr (below batch member same)
      · exact batch.exact_of_ne same
    have covered := AcceptedBatch.consumed_run chained ends advances
    refine ⟨covered, ?_⟩
    rw [covered]
    exact List.nodup_range'

/-- The sample batch with its first import. -/
theorem cursors_exact_iff_sample :
    ∃ batch : AcceptedBatch sampleExternals,
      batch.input = sampleComposed (sampleImportBatch 0 []) ∧
        (∀ cursor : Cursor, cursor.Exact batch.input) ∧
        ([batch].flatMap fun batch => Cursor.l1Import.consumed batch.input) = [1] := by
  obtain ⟨batch, same, composed, -⟩ := exists_sampleBatch (sampleImportBatch 0 [])
    (fun _ _ => true) (by decide +kernel)
  obtain ⟨before, after⟩ := Prod.mk.inj composed.importCursors
  have below : ¬ ImportsAtTop batch.input := by
    rintro ⟨-, top⟩
    rw [before] at top
    exact absurd top (by decide)
  obtain ⟨single, run⟩ := cursors_exact_iff sampleExternals
  refine ⟨batch, same, (single batch).mpr below, ?_⟩
  obtain ⟨covered, -⟩ := run .l1Import batch batch [] (List.isChain_singleton _) rfl
    fun other member _ => List.mem_singleton.mp member ▸ below
  rw [covered, Cursor.before, Cursor.after, before, after]
  rfl

/-- At the top of the import cursor a batch imports without moving it, and can do so again. -/
theorem import_consumed_twice :
    ∃ batch : AcceptedBatch sampleExternals,
      batch.input = sampleComposed (sampleImportBatch (BitVec.allOnes 64) []) ∧
        batch.input.l1Import ≠ none ∧
        Cursor.l1Import.before batch.input.journal = Cursor.l1Import.after batch.input.journal ∧
        ¬ Cursor.l1Import.Exact batch.input ∧
        ¬ ([batch, batch].flatMap fun batch => Cursor.l1Import.consumed batch.input).Nodup := by
  obtain ⟨batch, same, composed, -⟩ := exists_sampleBatch
    (sampleImportBatch (BitVec.allOnes 64) []) (fun _ _ => true) (by decide +kernel)
  obtain ⟨before, after⟩ := Prod.mk.inj composed.importCursors
  have present : batch.input.l1Import ≠ none := by
    rw [composed.l1Import]
    exact Option.some_ne_none _
  refine ⟨batch, same, present, ?_, ?_, ?_⟩
  · rw [Cursor.before, Cursor.after, before, after]
    decide
  · rw [batch.import_exact_iff, not_not]
    exact ⟨present, before⟩
  · rw [List.flatMap_cons, List.flatMap_singleton, Cursor.consumed, composed.l1Import, before]
    decide

end Zkdeal

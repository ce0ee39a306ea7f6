/-
This file applies the inbox segment of a batch: the numbered L1 entries between two
cursors, which are consumed, skipped or already refunded before the first block runs.
A consumed entry credits its deposits to the room-local state.
-/

import Zkdeal.Settlement.Exit

namespace Zkdeal

open Words Guard

/-- What becomes of an entry that passed its checks. -/
inductive InboxResolution where
  | refunded
  | skipped
  | consumed (recipient : Address)
deriving DecidableEq

/-- A segment in the middle of its entries. -/
structure InboxProgress where
  state : StateMap
  consumedJoins : BTreeSet U64
  resolvedEntries : List InboxEntryWitnessV4

/-- The activations of a batch. -/
def activations (deltas : List MembershipDeltaWitnessV4) : List MembershipDeltaWitnessV4 :=
  deltas.filter fun delta => delta.action == memberActivate

/-- The activations by the join request they consume. -/
def activationsByRequest (deltas : List MembershipDeltaWitnessV4) :
    BTreeMap U64 MembershipDeltaWitnessV4 :=
  (activations deltas).foldl (fun entered delta => entered.insert delta.joinRequestIndex delta) ∅

/-- The text of a failed check on an entry. -/
def inboxFailure (before : String) (entry : InboxEntryWitnessV4) (after : String) : Message :=
  [.text before, .decimal entry.index.toNat, .text after]

section Inbox

variable (primitives : Primitives)

/-- One deposit of an entry: positive, above the one before it, and of a declared asset. -/
def checkDeposit (program : ExitProgramV4) (entry : InboxEntryWitnessV4)
    (previousAsset : Option U8) (deposit : InboxAssetAmountV4) : Except Message (Option U8) := do
  refuse (deposit.amount = 0 ∨ previousAsset.any fun previous => deposit.assetId ≤ previous)
    (inboxFailure "inbox entry " entry " deposits must be positive and sorted unique")
  let _ ← program.asset deposit.assetId
  pure (some deposit.assetId)

def checkEntry (program : ExitProgramV4) (cursorBefore : U64)
    (item : InboxEntryWitnessV4 × Nat) : Except Message Unit := do
  let entry := item.1
  let expectedIndex ← orRefuse (checkedAdvance cursorBefore (item.2 + 1)) "inbox index overflow"
  refuse (entry.index ≠ expectedIndex)
    [.text "inbox entry ", .decimal item.2, .text " has index ", .decimal entry.index.toNat,
      .text ", expected ", .decimal expectedIndex.toNat]
  refuse (entry.deposits = [] ∨ maxAssets < entry.deposits.length)
    (inboxFailure "inbox entry " entry " has invalid deposit count")
  refuse (entry.status ≠ inboxPending ∧ entry.status ≠ inboxRefunded)
    (inboxFailure "inbox entry " entry " input status is not Pending/Refunded")
  let _ ← entry.deposits.foldlM (checkDeposit program entry) none
  pure ()

/-- A top-up is consumed while its depositor is active in the roster before the batch. -/
def resolveDeposit (preRoster : List MemberSlotWitnessV4) (entry : InboxEntryWitnessV4) :
    Except Message InboxResolution := do
  refuse (entry.deposits.length ≠ 1 ∨ maxMembers ≤ entry.beneficiarySlot.toNat)
    (inboxFailure "top-up inbox entry " entry " is malformed")
  let slot := preRoster.getD entry.beneficiarySlot.toNat default
  if entry.status = inboxRefunded then pure .refunded
  else if slot.state ≠ memberActive ∨ slot.account ≠ entry.account then pure .skipped
  else pure (.consumed slot.account)

/-- A join request is consumed by the activation that names it. -/
def resolveJoin (activated : BTreeMap U64 MembershipDeltaWitnessV4)
    (postRoster : List MemberSlotWitnessV4) (entry : InboxEntryWitnessV4) :
    Except Message InboxResolution := do
  refuse (entry.beneficiarySlot ≠ joinSlotSentinel ∨ entry.account = 0)
    (inboxFailure "join inbox entry " entry " is malformed")
  match decide (entry.status = inboxRefunded), activated[entry.index]? with
  | true, some _ => .error (inboxFailure "refunded join inbox entry " entry " cannot activate")
  | true, none => pure .refunded
  | false, none => pure .skipped
  | false, some delta =>
    refuse (delta.member ≠ entry.account)
      (inboxFailure "join inbox entry " entry " does not match activation acceptance")
    let slot := postRoster.getD delta.slot.toNat default
    refuse (slot.state ≠ memberActive ∨ slot.account ≠ entry.account)
      (inboxFailure "join inbox entry " entry " does not match post-roster")
    pure (.consumed slot.account)

def resolveEntry (activated : BTreeMap U64 MembershipDeltaWitnessV4)
    (preRoster postRoster : List MemberSlotWitnessV4) (entry : InboxEntryWitnessV4) :
    Except Message InboxResolution :=
  if entry.kind = inboxDeposit then resolveDeposit preRoster entry
  else if entry.kind = inboxJoin then resolveJoin activated postRoster entry
  else .error (inboxFailure "inbox entry " entry " has unsupported kind")

/-- Credit all deposits of an entry to one recipient. -/
def creditEntry (program : ExitProgramV4) (recipient : Address) (state : StateMap)
    (entry : InboxEntryWitnessV4) : Except Message StateMap :=
  entry.deposits.foldlM (fun credited deposit =>
    program.credit primitives.keccak256 credited deposit.assetId recipient deposit.amount) state

/-- Apply one entry. -/
def applyEntry (program : ExitProgramV4) (activated : BTreeMap U64 MembershipDeltaWitnessV4)
    (preRoster postRoster : List MemberSlotWitnessV4) (cursorBefore : U64)
    (progress : InboxProgress) (item : InboxEntryWitnessV4 × Nat) :
    Except Message InboxProgress := do
  let entry := item.1
  checkEntry program cursorBefore item
  let resolution ← resolveEntry activated preRoster postRoster entry
  match resolution with
  | .refunded => pure { progress with resolvedEntries := progress.resolvedEntries ++ [entry] }
  | .skipped =>
    pure { progress with
      resolvedEntries := progress.resolvedEntries ++ [{ entry with status := inboxSkipped }] }
  | .consumed recipient =>
    let credited ← creditEntry primitives program recipient progress.state entry
    pure {
      state := credited
      consumedJoins :=
        if entry.kind = inboxJoin then progress.consumedJoins.insert entry.index
        else progress.consumedJoins
      resolvedEntries :=
        progress.resolvedEntries ++ [{ entry with status := inboxConsumed }] }

/-- Apply a segment; the result is the credited state and the hash of the entries as they were
resolved. The distance of the cursors is cut to the width of the platform's sizes. -/
def applyInboxV4 (program : ExitProgramV4) (state : StateMap)
    (entries : List InboxEntryWitnessV4) (deltas : List MembershipDeltaWitnessV4)
    (preRoster postRoster : List MemberSlotWitnessV4) (cursorBefore cursorAfter : U64) :
    Except Message (StateMap × B256) := do
  refuse (cursorAfter < cursorBefore) "inbox cursor moved backwards"
  let expectedLen := (cursorAfter - cursorBefore).toNat % 2 ^ primitives.usizeBits
  refuse (entries.length ≠ expectedLen)
    [.text "inbox preimage length ", .decimal entries.length, .text " does not cover cursor ",
      .decimal cursorBefore.toNat, .text "..", .decimal cursorAfter.toNat]
  let activated := activationsByRequest deltas
  refuse (activated.size ≠ (activations deltas).length)
    "activation deltas reuse a join request index"
  let progress ← entries.zipIdx.foldlM
    (applyEntry primitives program activated preRoster postRoster cursorBefore) ⟨state, ∅, []⟩
  refuse (progress.consumedJoins.size ≠ activated.size)
    "an activation delta does not consume an inbox join request in this segment"
  pure (progress.state, hashInboxEntriesV4 primitives.keccak256 progress.resolvedEntries)

end Inbox

end Zkdeal

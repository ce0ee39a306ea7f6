/-
This file is the seven-slot roster: the two validators a roster goes through, the
one of the membership transition and the one of the policy, and the transition
itself, which compares two rosters slot by slot against sparse deltas.

The two validators are written separately in the source and differ in one thing:
which accounts may not repeat. What a slot must look like, where it must stand and
how the masks are computed is read back from both by the same lemma.
-/

import Zkdeal.Settlement.Commitments
import Zkdeal.Library.Guard
import Zkdeal.Library.Maps

namespace Zkdeal

open Words Guard

/-! ### The validators -/

/-- What a validator has collected from the slots it has seen. -/
@[ext]
structure RosterScan where
  active : U8
  used : U8
  accounts : BTreeSet Address

/-- One slot of the transition's validator. -/
def validateSlotShape (label : String) (scan : RosterScan) (item : MemberSlotWitnessV4 × Nat) :
    Except Message RosterScan :=
  let slot := item.1
  let index := item.2
  let bit := (1 : U8) <<< index
  if slot.slot.toNat ≠ index then
    .error [.text label, .text " slot ", .decimal index, .text " is missing or out of order"]
  else if slot.state = memberUnused then do
    refuse (slot.account ≠ 0 ∨ slot.joinedAtBatch ≠ 0 ∨ slot.retiredAtBatch.isSome)
      [.text label, .text " unused slot ", .decimal index, .text " is not zeroed"]
    pure scan
  else if slot.state = memberActive then do
    refuse (slot.account = 0 ∨ slot.retiredAtBatch.isSome)
      [.text label, .text " active slot ", .decimal index, .text " is malformed"]
    refuse (scan.accounts.contains slot.account)
      [.text label, .text " has a duplicate lifetime occupant"]
    pure ⟨scan.active ||| bit, scan.used ||| bit, scan.accounts.insert slot.account⟩
  else if slot.state = memberRetired then do
    refuse (slot.account = 0 ∨ slot.retiredAtBatch.isNone ∨
        slot.retiredAtBatch.any (· < slot.joinedAtBatch))
      [.text label, .text " retired slot ", .decimal index, .text " is malformed"]
    refuse (scan.accounts.contains slot.account)
      [.text label, .text " has a duplicate lifetime occupant"]
    pure ⟨scan.active, scan.used ||| bit, scan.accounts.insert slot.account⟩
  else
    .error [.text label, .text " slot ", .decimal index, .text " has invalid state"]

/-- One slot of the policy's validator: only active accounts are collected. -/
def verifySlot (scan : RosterScan) (item : MemberSlotWitnessV4 × Nat) :
    Except Message RosterScan :=
  let slot := item.1
  let index := item.2
  let bit := (1 : U8) <<< index
  if slot.slot.toNat ≠ index then
    .error [.text "pre-roster slot ", .decimal index, .text " missing or out of order"]
  else if slot.state = 0 then do
    refuse (slot.account ≠ 0 ∨ slot.joinedAtBatch ≠ 0 ∨ slot.retiredAtBatch.isSome)
      [.text "unused roster slot ", .decimal index, .text " is not zeroed"]
    pure scan
  else if slot.state = 1 then do
    refuse (slot.account = 0 ∨ slot.retiredAtBatch.isSome)
      [.text "active roster slot ", .decimal index, .text " is malformed"]
    refuse (scan.accounts.contains slot.account) "duplicate active roster account"
    pure ⟨scan.active ||| bit, scan.used ||| bit, scan.accounts.insert slot.account⟩
  else if slot.state = 2 then do
    let retired ← orRefuse slot.retiredAtBatch
      [.text "retired roster slot ", .decimal index, .text " has no retire batch"]
    refuse (slot.account = 0 ∨ retired < slot.joinedAtBatch)
      [.text "retired roster slot ", .decimal index, .text " is malformed"]
    pure { scan with used := scan.used ||| bit }
  else
    .error [.text "roster slot ", .decimal index, .text " has invalid state ",
      .decimal slot.state.toNat]

section Transition

variable (keccak256 : Bytes → B256)

def validateRosterShape (slots : List MemberSlotWitnessV4) (expectedRoot : B256)
    (activeMask usedMask : U8) (label : String) : Except Message Unit := do
  refuse (slots.length ≠ maxMembers) [.text label, .text " needs seven slots"]
  let scan ← slots.zipIdx.foldlM (validateSlotShape label) ⟨0, 0, ∅⟩
  refuse (scan.active ≠ activeMask ∨ scan.used ≠ usedMask)
    [.text label, .text " masks do not match roster"]
  refuse (memberRosterRootV4 keccak256 slots ≠ some expectedRoot)
    [.text label, .text " root does not match roster"]

/-- The policy's validator returns the active accounts. -/
def verifyRoster (slots : List MemberSlotWitnessV4) (expectedRoot : B256)
    (activeMask usedMask : U8) : Except Message (BTreeSet Address) := do
  refuse (slots.length ≠ rosterSlots)
    [.text "pre-roster requires exactly ", .decimal rosterSlots, .text " slots"]
  let scan ← slots.zipIdx.foldlM verifySlot ⟨0, 0, ∅⟩
  let computedRoot := (memberRosterRootV4 keccak256 slots).getD 0
  refuse (computedRoot ≠ expectedRoot)
    [.text "pre-roster root mismatch: expected ", .digest expectedRoot, .text ", computed ",
      .digest computedRoot]
  refuse (scan.active ≠ activeMask ∨ scan.used ≠ usedMask)
    "pre-roster masks do not match the batch journal masks"
  pure scan.accounts

/-- Enter one delta under its slot. -/
def enterDelta (entered : BTreeMap U8 MembershipDeltaWitnessV4 × Option U8)
    (delta : MembershipDeltaWitnessV4) :
    Except Message (BTreeMap U8 MembershipDeltaWitnessV4 × Option U8) := do
  refuse (maxMembers ≤ delta.slot.toNat ∨ entered.2.any (fun previous => delta.slot ≤ previous) ∨
      entered.1.contains delta.slot)
    "membership deltas must be sorted by unique valid slot"
  pure (entered.1.insert delta.slot delta, some delta.slot)

/-- Compare one slot before and after with the delta that names it. -/
def checkSlotMove (batchIndex : U64) (slot : Nat) (previous next : MemberSlotWitnessV4) :
    Option MembershipDeltaWitnessV4 → Except Message Unit
  | none =>
    refuse (previous ≠ next)
      [.text "slot ", .decimal slot, .text " changed without a membership delta"]
  | some delta =>
    if delta.action = memberActivate then
      refuse (previous.state ≠ memberUnused ∨ next.state ≠ memberActive ∨
          next.account ≠ delta.member ∨ next.joinedAtBatch ≠ batchIndex ∨
          next.retiredAtBatch.isSome ∨ delta.member = 0 ∨ delta.joinRequestIndex = 0 ∨
          delta.acceptanceExpiry = 0)
        [.text "slot ", .decimal slot, .text " has malformed activation"]
    else if delta.action = memberRetire then
      refuse (previous.state ≠ memberActive ∨ next.state ≠ memberRetired ∨
          next.account ≠ previous.account ∨ delta.member ≠ previous.account ∨
          next.joinedAtBatch ≠ previous.joinedAtBatch ∨
          next.retiredAtBatch ≠ some batchIndex ∨ delta.joinRequestIndex ≠ 0 ∨
          delta.acceptanceExpiry ≠ 0)
        [.text "slot ", .decimal slot, .text " has malformed retirement"]
    else .error [.text "slot ", .decimal slot, .text " has invalid membership action"]

def validateMembershipTransitionV4 (batchIndex : U64) (before after : List MemberSlotWitnessV4)
    (deltas : List MembershipDeltaWitnessV4) (preRoot postRoot : B256)
    (preActiveMask preUsedMask postActiveMask postUsedMask : U8) : Except Message B256 := do
  refuse (batchIndex = 0) "membership transition batch index must be positive"
  validateRosterShape keccak256 before preRoot preActiveMask preUsedMask "pre-roster"
  validateRosterShape keccak256 after postRoot postActiveMask postUsedMask "post-roster"
  refuse (maxMembers < deltas.length) "too many membership deltas"
  let entered ← deltas.foldlM enterDelta (∅, none)
  -- both rosters have seven slots here, so the default is never read
  forEach (List.range maxMembers) fun slot =>
    checkSlotMove batchIndex slot (before.getD slot default) (after.getD slot default)
      entered.1[BitVec.ofNat 8 slot]?
  pure (hashMembershipDeltasV4 keccak256 deltas)

end Transition

/-! ### What the validators establish -/

/-- The fields of a slot fit its state. -/
inductive MemberSlotWitnessV4.Formed (slot : MemberSlotWitnessV4) : Prop
  | unused (state : slot.state = memberUnused) (free : slot.account = 0)
      (unjoined : slot.joinedAtBatch = 0) (unretired : slot.retiredAtBatch = none)
  | active (state : slot.state = memberActive) (occupied : slot.account ≠ 0)
      (unretired : slot.retiredAtBatch = none)
  | retired (state : slot.state = memberRetired) (occupied : slot.account ≠ 0) (batch : U64)
      (stamped : slot.retiredAtBatch = some batch) (later : slot.joinedAtBatch ≤ batch)

/-- The slot is active. -/
def MemberSlotWitnessV4.isActive (slot : MemberSlotWitnessV4) : Bool := slot.state == memberActive

/-- The slot is active or retired. -/
def MemberSlotWitnessV4.isUsed (slot : MemberSlotWitnessV4) : Bool := slot.state != memberUnused

/-- One more slot in a mask. -/
def markSlot (counts : MemberSlotWitnessV4 → Bool) (mask : U8) (item : MemberSlotWitnessV4 × Nat) :
    U8 :=
  if counts item.1 then mask ||| ((1 : U8) <<< item.2) else mask

/-- The mask of the slots that count. -/
def slotMask (counts : MemberSlotWitnessV4 → Bool) (slots : List MemberSlotWitnessV4) : U8 :=
  slots.zipIdx.foldl (markSlot counts) 0

theorem slotMask_concat (counts : MemberSlotWitnessV4 → Bool) (front : List MemberSlotWitnessV4)
    (last : MemberSlotWitnessV4) :
    slotMask counts (front ++ [last]) =
      markSlot counts (slotMask counts front) (last, front.length) := by
  rw [slotMask, List.zipIdx_append, List.foldl_append, Nat.zero_add]
  rfl

/-- The bits of a mask are the slots that count. -/
theorem getLsbD_slotMask (counts : MemberSlotWitnessV4 → Bool) (slots : List MemberSlotWitnessV4)
    (index : Nat) :
    (slotMask counts slots).getLsbD index = (decide (index < 8) && slots[index]?.any counts) := by
  induction slots using List.reverseRecOn with
  | nil => simp [slotMask]
  | append_singleton front last inductionHypothesis =>
    have bit : ((1 : U8) <<< front.length).getLsbD index =
        (decide (index < 8) && decide (index = front.length)) := by
      rw [BitVec.getLsbD_shiftLeft, show (1 : U8) = 1#8 from rfl, BitVec.getLsbD_one]
      by_cases below : index < front.length
      · simp [below, below.ne]
      · have shifted : index - front.length = 0 ↔ index = front.length := by omega
        simp [below, shifted]
    rw [slotMask_concat, markSlot, List.getElem?_append]
    split
    · rename_i counted
      rw [BitVec.getLsbD_or, inductionHypothesis, bit, ← Bool.and_or_distrib_left]
      congr 1
      split
      · rename_i inside
        simp [inside.ne]
      · rename_i outside
        rw [List.getElem?_eq_none (Nat.le_of_not_lt outside), Option.any_none, Bool.false_or]
        by_cases same : index = front.length
        · simp [same, counted]
        · have beyond : 1 ≤ index - front.length := by omega
          simp [same, List.getElem?_eq_none (show [last].length ≤ _ from beyond)]
    · rename_i skipped
      rw [inductionHypothesis]
      congr 1
      split
      · rfl
      · rename_i outside
        rw [List.getElem?_eq_none (Nat.le_of_not_lt outside), Option.any_none]
        by_cases same : index = front.length
        · simp [same, skipped]
        · have beyond : 1 ≤ index - front.length := by omega
          simp [List.getElem?_eq_none (show [last].length ≤ _ from beyond)]

/-- One bit of a mask. -/
theorem and_bit_eq_zero (mask : U8) {index : Nat} (bound : index < 8) :
    mask &&& ((1 : U8) <<< index) = 0 ↔ mask.getLsbD index = false := by
  rw [show (1 : U8) <<< index = BitVec.twoPow 8 index from rfl, BitVec.and_twoPow]
  cases mask.getLsbD index with
  | false => simp
  | true =>
    have nonzero : BitVec.twoPow 8 index ≠ 0#8 := by
      intro zero
      have value := congrArg BitVec.toNat zero
      rw [BitVec.toNat_twoPow, Nat.mod_eq_of_lt (Nat.pow_lt_pow_right (by decide) bound)] at value
      exact absurd value (Nat.two_pow_pos index).ne'
    simpa using nonzero

/-- What a validator that collects the accounts of some slots has after one more. -/
def RosterScan.enter (collects : MemberSlotWitnessV4 → Bool) (scan : RosterScan)
    (item : MemberSlotWitnessV4 × Nat) : RosterScan where
  active := markSlot MemberSlotWitnessV4.isActive scan.active item
  used := markSlot MemberSlotWitnessV4.isUsed scan.used item
  accounts := if collects item.1 then scan.accounts.insert item.1.account else scan.accounts

/-- What one step of a validator establishes. -/
structure ScansSlot (collects : MemberSlotWitnessV4 → Bool) (scan : RosterScan)
    (item : MemberSlotWitnessV4 × Nat) (next : RosterScan) : Prop where
  placed : item.1.slot.toNat = item.2
  formed : item.1.Formed
  fresh : collects item.1 = true → scan.accounts.contains item.1.account = false
  entered : next = scan.enter collects item

theorem MemberSlotWitnessV4.isUsed_eq_true {slot : MemberSlotWitnessV4} :
    slot.isUsed = true ↔ slot.state ≠ memberUnused :=
  bne_iff_ne

theorem MemberSlotWitnessV4.isUsed_eq_false {slot : MemberSlotWitnessV4} :
    slot.isUsed = false ↔ slot.state = memberUnused :=
  bne_eq_false_iff_eq

theorem MemberSlotWitnessV4.isActive_eq_true {slot : MemberSlotWitnessV4} :
    slot.isActive = true ↔ slot.state = memberActive :=
  beq_iff_eq

theorem MemberSlotWitnessV4.isActive_eq_false {slot : MemberSlotWitnessV4} :
    slot.isActive = false ↔ slot.state ≠ memberActive :=
  beq_eq_false_iff_ne

section Scans

variable {collects : MemberSlotWitnessV4 → Bool} {scan next : RosterScan}
  {item : MemberSlotWitnessV4 × Nat}

theorem RosterScan.enter_unused (skipped : collects item.1 = false)
    (state : item.1.state = memberUnused) : scan.enter collects item = scan := by
  simp [RosterScan.enter, markSlot, MemberSlotWitnessV4.isActive, MemberSlotWitnessV4.isUsed,
    state, skipped, show memberUnused ≠ memberActive by decide]

theorem RosterScan.enter_active (kept : collects item.1 = true)
    (state : item.1.state = memberActive) :
    scan.enter collects item = ⟨scan.active ||| ((1 : U8) <<< item.2),
      scan.used ||| ((1 : U8) <<< item.2),
      scan.accounts.insert item.1.account⟩ := by
  simp [RosterScan.enter, markSlot, MemberSlotWitnessV4.isActive, MemberSlotWitnessV4.isUsed,
    state, kept, show memberActive ≠ memberUnused by decide]

theorem RosterScan.enter_retired (state : item.1.state = memberRetired) :
    scan.enter collects item = ⟨scan.active, scan.used ||| ((1 : U8) <<< item.2),
      if collects item.1 then scan.accounts.insert item.1.account else scan.accounts⟩ := by
  simp [RosterScan.enter, markSlot, MemberSlotWitnessV4.isActive, MemberSlotWitnessV4.isUsed,
    state, show memberRetired ≠ memberUnused by decide, show memberRetired ≠ memberActive by decide]

/-- Both validators check an unused slot in the same way. -/
theorem scansSlot_unused {failure : Message} (placed : item.1.slot.toNat = item.2)
    (state : item.1.state = memberUnused) (skipped : collects item.1 = false) :
    (do
      refuse (item.1.account ≠ 0 ∨ item.1.joinedAtBatch ≠ 0 ∨ item.1.retiredAtBatch.isSome) failure
      pure scan) = .ok next ↔ ScansSlot collects scan item next := by
  rw [refuse_bind_eq_ok, pure_eq_ok, not_or, not_or, not_not, not_not,
    Option.not_isSome_iff_eq_none]
  constructor
  · rintro ⟨⟨free, unjoined, unretired⟩, rfl⟩
    exact ⟨placed, .unused state free unjoined unretired,
      fun counted => absurd (skipped.symm.trans counted) Bool.false_ne_true,
      (RosterScan.enter_unused skipped state).symm⟩
  · rintro ⟨-, formed, -, rfl⟩
    refine ⟨?_, (RosterScan.enter_unused skipped state).symm⟩
    cases formed with
    | unused _ free unjoined unretired => exact ⟨free, unjoined, unretired⟩
    | active other _ _ => exact absurd (state.symm.trans other) (by decide)
    | retired other _ _ _ _ => exact absurd (state.symm.trans other) (by decide)

/-- Both validators check an active slot in the same way. -/
theorem scansSlot_active {failure duplicate : Message} (placed : item.1.slot.toNat = item.2)
    (state : item.1.state = memberActive) (kept : collects item.1 = true) :
    (do
      refuse (item.1.account = 0 ∨ item.1.retiredAtBatch.isSome) failure
      refuse (scan.accounts.contains item.1.account) duplicate
      pure (RosterScan.mk (scan.active ||| ((1 : U8) <<< item.2))
        (scan.used ||| ((1 : U8) <<< item.2)) (scan.accounts.insert item.1.account))) =
        .ok next ↔ ScansSlot collects scan item next := by
  rw [refuse_bind_eq_ok, refuse_bind_eq_ok, pure_eq_ok, not_or, Option.not_isSome_iff_eq_none,
    Bool.not_eq_true]
  constructor
  · rintro ⟨⟨occupied, unretired⟩, fresh, rfl⟩
    exact ⟨placed, .active state occupied unretired, fun _ => fresh,
      (RosterScan.enter_active kept state).symm⟩
  · rintro ⟨-, formed, fresh, rfl⟩
    refine ⟨?_, fresh kept, (RosterScan.enter_active kept state).symm⟩
    cases formed with
    | unused other _ _ _ => exact absurd (state.symm.trans other) (by decide)
    | active _ occupied unretired => exact ⟨occupied, unretired⟩
    | retired other _ _ _ _ => exact absurd (state.symm.trans other) (by decide)

/-- A slot that scans and is neither unused nor active is retired. -/
theorem ScansSlot.retired (scans : ScansSlot collects scan item next)
    (used : item.1.state ≠ memberUnused) (inactive : item.1.state ≠ memberActive) :
    item.1.state = memberRetired ∧ item.1.account ≠ 0 ∧ ∃ batch,
      item.1.retiredAtBatch = some batch ∧ item.1.joinedAtBatch ≤ batch := by
  cases scans.formed with
  | unused state _ _ _ => exact absurd state used
  | active state _ _ => exact absurd state inactive
  | retired state occupied batch stamped later => exact ⟨state, occupied, batch, stamped, later⟩

theorem validateSlotShape_eq_ok {label : String} :
    validateSlotShape label scan item = .ok next ↔
      ScansSlot MemberSlotWitnessV4.isUsed scan item next := by
  unfold validateSlotShape
  dsimp only
  split_ifs with misplaced unusedState activeState retiredState
  · exact ⟨nofun, fun scans => absurd scans.placed misplaced⟩
  · exact scansSlot_unused (not_not.mp misplaced) unusedState
      (MemberSlotWitnessV4.isUsed_eq_false.mpr unusedState)
  · exact scansSlot_active (not_not.mp misplaced) activeState
      (MemberSlotWitnessV4.isUsed_eq_true.mpr unusedState)
  · have used := MemberSlotWitnessV4.isUsed_eq_true.mpr unusedState
    have entered := @RosterScan.enter_retired MemberSlotWitnessV4.isUsed scan item retiredState
    rw [if_pos used] at entered
    rw [refuse_bind_eq_ok, refuse_bind_eq_ok, pure_eq_ok, not_or, not_or,
      Option.isNone_iff_eq_none, ← entered]
    constructor
    · rintro ⟨⟨occupied, present, ordered⟩, fresh, rfl⟩
      obtain ⟨batch, stamped⟩ := Option.ne_none_iff_exists'.mp present
      rw [stamped, Option.any_some, decide_eq_true_iff, BitVec.not_lt] at ordered
      exact ⟨not_not.mp misplaced, .retired retiredState occupied batch stamped ordered,
        fun _ => Bool.not_eq_true _ ▸ fresh, rfl⟩
    · intro scans
      obtain ⟨-, occupied, batch, stamped, later⟩ := scans.retired unusedState activeState
      rw [stamped]
      exact ⟨⟨occupied, Option.some_ne_none batch, by simp [BitVec.not_lt.mpr later]⟩,
        Bool.not_eq_true _ ▸ scans.fresh used, scans.entered.symm⟩
  · exact ⟨nofun, fun scans =>
      absurd (scans.retired unusedState activeState).1 retiredState⟩

theorem verifySlot_eq_ok :
    verifySlot scan item = .ok next ↔ ScansSlot MemberSlotWitnessV4.isActive scan item next := by
  unfold verifySlot
  dsimp only
  split_ifs with misplaced unusedState activeState retiredState
  · exact ⟨nofun, fun scans => absurd scans.placed misplaced⟩
  · have inactive := MemberSlotWitnessV4.isActive_eq_false.mpr (by rw [unusedState]; decide)
    exact scansSlot_unused (not_not.mp misplaced) unusedState inactive
  · exact scansSlot_active (not_not.mp misplaced) activeState
      (MemberSlotWitnessV4.isActive_eq_true.mpr activeState)
  · have inactive := MemberSlotWitnessV4.isActive_eq_false.mpr activeState
    have entered := @RosterScan.enter_retired MemberSlotWitnessV4.isActive scan item retiredState
    rw [inactive, if_neg Bool.false_ne_true] at entered
    rw [bind_eq_ok, ← entered]
    constructor
    · rintro ⟨batch, stamped, accepted⟩
      obtain ⟨wellFormed, done⟩ := refuse_bind_eq_ok.mp accepted
      rw [not_or, BitVec.not_lt] at wellFormed
      exact ⟨not_not.mp misplaced,
        .retired retiredState wellFormed.1 batch (orRefuse_eq_ok.mp stamped) wellFormed.2,
        fun counted => absurd (inactive.symm.trans counted) Bool.false_ne_true,
        (pure_eq_ok.mp done).symm⟩
    · intro scans
      obtain ⟨-, occupied, batch, stamped, later⟩ := scans.retired unusedState activeState
      exact ⟨batch, orRefuse_eq_ok.mpr stamped, refuse_bind_eq_ok.mpr
        ⟨not_or.mpr ⟨occupied, BitVec.not_lt.mpr later⟩, pure_eq_ok.mpr scans.entered.symm⟩⟩
  · exact ⟨nofun, fun scans =>
      absurd (scans.retired unusedState activeState).1 retiredState⟩

end Scans

/-- No two of the slots that count have one account. -/
def DistinctAccounts (counts : MemberSlotWitnessV4 → Bool) (slots : List MemberSlotWitnessV4) :
    Prop :=
  slots.Pairwise fun first second =>
    counts first = true → counts second = true → first.account ≠ second.account

/-- What a validator's loop establishes of the slots at their positions. -/
theorem foldlM_scan_eq_ok {collects : MemberSlotWitnessV4 → Bool}
    {step : RosterScan → MemberSlotWitnessV4 × Nat → Except Message RosterScan}
    (spec : ∀ {scan item next}, step scan item = .ok next ↔ ScansSlot collects scan item next)
    {items : List (MemberSlotWitnessV4 × Nat)} {scan final : RosterScan} :
    items.foldlM step scan = .ok final ↔
      (∀ item ∈ items, item.1.slot.toNat = item.2 ∧ item.1.Formed) ∧
        DistinctAccounts collects (items.map Prod.fst) ∧
        (∀ item ∈ items, collects item.1 = true →
          scan.accounts.contains item.1.account = false) ∧
        final = items.foldl (RosterScan.enter collects) scan := by
  induction items generalizing scan with
  | nil =>
    rw [foldlM_nil_eq_ok, List.foldl_nil, eq_comm]
    simp [DistinctAccounts]
  | cons item rest inductionHypothesis =>
    have collected : ∀ account : Address,
        (scan.enter collects item).accounts.contains account = false ↔
          (collects item.1 = true → item.1.account ≠ account) ∧
            scan.accounts.contains account = false := by
      intro account
      rw [RosterScan.enter]
      dsimp only
      split
      · rename_i kept
        rw [Maps.contains_insert, Bool.or_eq_false_iff, beq_eq_false_iff_ne]
        exact and_congr_left fun _ =>
          ⟨fun different _ => different, fun different => different kept⟩
      · rename_i skipped
        exact ⟨fun absent => ⟨fun kept => absurd kept skipped, absent⟩, And.right⟩
    rw [foldlM_cons_eq_ok, List.foldl_cons, List.map_cons, DistinctAccounts, List.pairwise_cons,
      List.forall_mem_cons, List.forall_mem_cons]
    constructor
    · rintro ⟨next, stepped, remaining⟩
      obtain ⟨placed, formed, fresh, rfl⟩ := spec.mp stepped
      obtain ⟨seated, distinct, absent, reached⟩ := inductionHypothesis.mp remaining
      refine ⟨⟨⟨placed, formed⟩, seated⟩, ⟨fun other member counted otherCounted => ?_, distinct⟩,
        ⟨fresh, fun other member counted => ?_⟩, reached⟩
      · obtain ⟨pair, pairMember, rfl⟩ := List.mem_map.mp member
        exact ((collected _).mp (absent pair pairMember otherCounted)).1 counted
      · exact ((collected _).mp (absent other member counted)).2
    · rintro ⟨⟨⟨placed, formed⟩, seated⟩, ⟨distinctFirst, distinct⟩, ⟨fresh, absent⟩, reached⟩
      refine ⟨scan.enter collects item, spec.mpr ⟨placed, formed, fresh, rfl⟩,
        inductionHypothesis.mpr ⟨seated, distinct, fun other member counted => ?_, reached⟩⟩
      exact (collected _).mpr ⟨fun kept => distinctFirst other.1 (List.mem_map_of_mem member) kept
        counted, absent other member counted⟩

/-- A roster with slots has a root. -/
theorem memberRosterRootV4_isSome (keccak256 : Bytes → B256) {slots : List MemberSlotWitnessV4}
    (nonempty : slots ≠ []) : ∃ root, memberRosterRootV4 keccak256 slots = some root := by
  obtain ⟨tree, root, -⟩ := SortedPairs.exists_tree keccak256 sortedPair
    (mt List.map_eq_nil_iff.mp nonempty)
  rw [memberRosterRootV4, if_neg (by simpa using nonempty)]
  exact ⟨_, root⟩

/-- Seven slots in order, each formed, with the masks they are counted by. -/
structure Seated (slots : List MemberSlotWitnessV4) (activeMask usedMask : U8) : Prop where
  length : slots.length = maxMembers
  placed : ∀ (index : Nat) (slot : MemberSlotWitnessV4), slots[index]? = some slot →
    slot.slot.toNat = index
  formed : ∀ slot ∈ slots, slot.Formed
  active : slotMask MemberSlotWitnessV4.isActive slots = activeMask
  used : slotMask MemberSlotWitnessV4.isUsed slots = usedMask

theorem active_foldl_enter (collects : MemberSlotWitnessV4 → Bool)
    (slots : List MemberSlotWitnessV4) :
    (slots.zipIdx.foldl (RosterScan.enter collects) ⟨0, 0, ∅⟩).active =
      slotMask MemberSlotWitnessV4.isActive slots :=
  (List.foldl_hom RosterScan.active fun _ _ => rfl).symm

theorem used_foldl_enter (collects : MemberSlotWitnessV4 → Bool)
    (slots : List MemberSlotWitnessV4) :
    (slots.zipIdx.foldl (RosterScan.enter collects) ⟨0, 0, ∅⟩).used =
      slotMask MemberSlotWitnessV4.isUsed slots :=
  (List.foldl_hom RosterScan.used fun _ _ => rfl).symm

/-- What a validator's loop over a whole roster establishes. -/
theorem foldlM_scan_zipIdx_eq_ok {collects : MemberSlotWitnessV4 → Bool}
    {step : RosterScan → MemberSlotWitnessV4 × Nat → Except Message RosterScan}
    (spec : ∀ {scan item next}, step scan item = .ok next ↔ ScansSlot collects scan item next)
    {slots : List MemberSlotWitnessV4} {final : RosterScan} (length : slots.length = maxMembers) :
    slots.zipIdx.foldlM step ⟨0, 0, ∅⟩ = .ok final ↔
      Seated slots final.active final.used ∧ DistinctAccounts collects slots ∧
        final.accounts = (slots.zipIdx.foldl (RosterScan.enter collects) ⟨0, 0, ∅⟩).accounts := by
  rw [foldlM_scan_eq_ok spec, List.zipIdx_map_fst]
  constructor
  · rintro ⟨seated, distinct, -, rfl⟩
    refine ⟨⟨length, fun index slot lookup => ?_, fun slot member => ?_, ?_, ?_⟩, distinct, rfl⟩
    · exact (seated (slot, index) (List.mem_zipIdx_iff_getElem?.mpr lookup)).1
    · obtain ⟨index, listed⟩ := exists_mem_zipIdx member
      exact (seated (slot, index) listed).2
    · exact (active_foldl_enter collects slots).symm
    · exact (used_foldl_enter collects slots).symm
  · rintro ⟨seated, distinct, accounts⟩
    refine ⟨fun item member => ?_, distinct, fun item _ _ => ?_, ?_⟩
    · have lookup := List.mem_zipIdx_iff_getElem?.mp member
      exact ⟨seated.placed item.2 item.1 lookup, seated.formed item.1 (List.mem_of_getElem? lookup)⟩
    · simp
    · exact RosterScan.ext (seated.active.symm.trans (active_foldl_enter collects slots).symm)
        (seated.used.symm.trans (used_foldl_enter collects slots).symm) accounts

section Shapes

variable {keccak256 : Bytes → B256} {slots : List MemberSlotWitnessV4} {expectedRoot : B256}
  {activeMask usedMask : U8}

theorem validateRosterShape_eq_ok {label : String} :
    validateRosterShape keccak256 slots expectedRoot activeMask usedMask label = .ok () ↔
      Seated slots activeMask usedMask ∧ DistinctAccounts MemberSlotWitnessV4.isUsed slots ∧
        memberRosterRootV4 keccak256 slots = some expectedRoot := by
  unfold validateRosterShape
  rw [refuse_bind_eq_ok, not_not]
  constructor
  · rintro ⟨length, accepted⟩
    obtain ⟨scan, scanned, rest⟩ := bind_eq_ok.mp accepted
    obtain ⟨seated, distinct, -⟩ :=
      (foldlM_scan_zipIdx_eq_ok validateSlotShape_eq_ok length).mp scanned
    obtain ⟨masks, rootCheck⟩ := refuse_bind_eq_ok.mp rest
    rw [not_or, not_not, not_not] at masks
    rw [masks.1, masks.2] at seated
    exact ⟨seated, distinct, not_not.mp (refuse_eq_ok.mp rootCheck)⟩
  · rintro ⟨seated, distinct, root⟩
    refine ⟨seated.length, bind_eq_ok.mpr ⟨⟨activeMask, usedMask, _⟩,
      (foldlM_scan_zipIdx_eq_ok validateSlotShape_eq_ok seated.length).mpr
        ⟨seated, distinct, rfl⟩, ?_⟩⟩
    exact refuse_bind_eq_ok.mpr ⟨by simp, refuse_eq_ok.mpr (not_not.mpr root)⟩

theorem verifyRoster_eq_ok {accounts : BTreeSet Address}
    (accepted : verifyRoster keccak256 slots expectedRoot activeMask usedMask = .ok accounts) :
    Seated slots activeMask usedMask ∧ DistinctAccounts MemberSlotWitnessV4.isActive slots ∧
      memberRosterRootV4 keccak256 slots = some expectedRoot := by
  unfold verifyRoster at accepted
  obtain ⟨length, accepted⟩ := refuse_bind_eq_ok.mp accepted
  have seven : slots.length = maxMembers := not_not.mp length
  obtain ⟨scan, scanned, rest⟩ := bind_eq_ok.mp accepted
  obtain ⟨seated, distinct, -⟩ := (foldlM_scan_zipIdx_eq_ok verifySlot_eq_ok seven).mp scanned
  obtain ⟨rootCheck, rest⟩ := refuse_bind_eq_ok.mp rest
  obtain ⟨masks, -⟩ := refuse_bind_eq_ok.mp rest
  rw [not_or, not_not, not_not] at masks
  rw [masks.1, masks.2] at seated
  obtain ⟨root, computed⟩ := memberRosterRootV4_isSome keccak256
    (List.ne_nil_of_length_pos (by rw [seven]; decide))
  rw [computed, Option.getD_some, not_not] at rootCheck
  exact ⟨seated, distinct, by rw [computed, rootCheck]⟩

end Shapes

end Zkdeal

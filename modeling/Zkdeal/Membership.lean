/-
This file proves the lifecycle of the seven slots over any chain of accepted
membership transitions.

A slot is for one member's whole stay, so what a transition may do to it is said
once: leave it, seat a member in it, or retire the member in it. Being later than
another roster of the chain is then a preorder on rosters, carried slot by slot, and
the lifetime facts are read off it at any two moments of the run.
-/

import Zkdeal.Settlement.Roster

namespace Zkdeal

open Words Guard

/-! ### One transition -/

/-- What a transition does to one slot. -/
inductive SlotMoves (batchIndex : U64) (previous next : MemberSlotWitnessV4) : Prop
  | stays (same : next = previous)
  | activates (free : previous.state = memberUnused) (seated : next.state = memberActive)
      (joined : next.joinedAtBatch = batchIndex)
  | retires (seated : previous.state = memberActive) (left : next.state = memberRetired)
      (account : next.account = previous.account)
      (joined : next.joinedAtBatch = previous.joinedAtBatch)
      (stamped : next.retiredAtBatch = some batchIndex)

theorem slotMoves_of_checkSlotMove {batchIndex : U64} {slot : Nat}
    {previous next : MemberSlotWitnessV4} {delta : Option MembershipDeltaWitnessV4}
    (accepted : checkSlotMove batchIndex slot previous next delta = .ok ()) :
    SlotMoves batchIndex previous next := by
  cases delta with
  | none => exact .stays (not_not.mp (refuse_eq_ok.mp accepted)).symm
  | some delta =>
    dsimp only [checkSlotMove] at accepted
    split_ifs at accepted with activates retires
    · have checks := refuse_eq_ok.mp accepted
      simp only [not_or, not_not] at checks
      exact .activates checks.1 checks.2.1 checks.2.2.2.1
    · have checks := refuse_eq_ok.mp accepted
      simp only [not_or, not_not] at checks
      exact .retires checks.1 checks.2.1 checks.2.2.1 checks.2.2.2.2.1 checks.2.2.2.2.2.1

/-- One call of the membership validator. -/
structure MembershipStep where
  batchIndex : U64
  before : List MemberSlotWitnessV4
  after : List MemberSlotWitnessV4
  deltas : List MembershipDeltaWitnessV4
  preRoot : B256
  postRoot : B256
  preActiveMask : U8
  preUsedMask : U8
  postActiveMask : U8
  postUsedMask : U8

/-- The validator accepts the call. -/
def MembershipStep.Accepted (keccak256 : Bytes → B256) (step : MembershipStep) : Prop :=
  ∃ hash, validateMembershipTransitionV4 keccak256 step.batchIndex step.before step.after
    step.deltas step.preRoot step.postRoot step.preActiveMask step.preUsedMask
    step.postActiveMask step.postUsedMask = .ok hash

/-- A well-shaped roster with its masks. -/
structure Shaped (slots : List MemberSlotWitnessV4) (activeMask usedMask : U8) : Prop
    extends Seated slots activeMask usedMask where
  distinct : DistinctAccounts MemberSlotWitnessV4.isUsed slots

/-- What an accepted call establishes. -/
structure MembershipStep.Valid (step : MembershipStep) : Prop where
  opens : Shaped step.before step.preActiveMask step.preUsedMask
  closes : Shaped step.after step.postActiveMask step.postUsedMask
  moves : ∀ (index : Nat) (previous next : MemberSlotWitnessV4),
    step.before[index]? = some previous → step.after[index]? = some next →
    SlotMoves step.batchIndex previous next

theorem shaped_of_validateRosterShape {keccak256 : Bytes → B256}
    {slots : List MemberSlotWitnessV4} {root : B256} {activeMask usedMask : U8} {label : String}
    (accepted : validateRosterShape keccak256 slots root activeMask usedMask label = .ok ()) :
    Shaped slots activeMask usedMask := by
  obtain ⟨seated, distinct, -⟩ := validateRosterShape_eq_ok.mp accepted
  exact ⟨seated, distinct⟩

theorem MembershipStep.Accepted.valid {keccak256 : Bytes → B256} {step : MembershipStep}
    (accepted : step.Accepted keccak256) : step.Valid := by
  obtain ⟨hash, accepted⟩ := accepted
  obtain ⟨-, accepted⟩ := refuse_bind_eq_ok.mp accepted
  obtain ⟨⟨⟩, opens, accepted⟩ := bind_eq_ok.mp accepted
  obtain ⟨⟨⟩, closes, accepted⟩ := bind_eq_ok.mp accepted
  obtain ⟨-, accepted⟩ := refuse_bind_eq_ok.mp accepted
  obtain ⟨entered, -, accepted⟩ := bind_eq_ok.mp accepted
  obtain ⟨⟨⟩, compared, -⟩ := bind_eq_ok.mp accepted
  have opens := shaped_of_validateRosterShape opens
  refine ⟨opens, shaped_of_validateRosterShape closes,
    fun index previous next atBefore atAfter => ?_⟩
  have inside : index < maxMembers :=
    opens.length ▸ (List.getElem?_eq_some_iff.mp atBefore).1
  have moved := slotMoves_of_checkSlotMove
    (forEach_eq_ok.mp compared index (List.mem_range.mpr inside))
  rwa [List.getD_eq_getElem?_getD, List.getD_eq_getElem?_getD, atBefore, atAfter] at moved

/-! ### Later rosters -/

/-- What time does to a slot. -/
structure MemberSlotWitnessV4.Later (previous next : MemberSlotWitnessV4) : Prop where
  ordered : previous.state ≤ next.state
  occupied : previous.state ≠ memberUnused → next.state ≠ memberUnused ∧
    next.account = previous.account ∧ next.joinedAtBatch = previous.joinedAtBatch
  frozen : previous.state = memberRetired → next = previous

theorem MemberSlotWitnessV4.Later.refl (slot : MemberSlotWitnessV4) : slot.Later slot :=
  ⟨BitVec.le_refl _, fun used => ⟨used, rfl, rfl⟩, fun _ => rfl⟩

theorem MemberSlotWitnessV4.Later.trans {first second third : MemberSlotWitnessV4}
    (earlier : first.Later second) (later : second.Later third) : first.Later third := by
  refine ⟨BitVec.le_trans earlier.ordered later.ordered, fun used => ?_, fun retired => ?_⟩
  · obtain ⟨stillUsed, account, joined⟩ := earlier.occupied used
    obtain ⟨finallyUsed, finalAccount, finalJoined⟩ := later.occupied stillUsed
    exact ⟨finallyUsed, finalAccount.trans account, finalJoined.trans joined⟩
  · have same := earlier.frozen retired
    rw [← same] at retired
    exact (later.frozen retired).trans same

theorem SlotMoves.later {batchIndex : U64} {previous next : MemberSlotWitnessV4}
    (moves : SlotMoves batchIndex previous next) : previous.Later next := by
  cases moves with
  | stays same => exact same ▸ .refl next
  | activates free seated joined =>
    refine ⟨by rw [free, seated]; decide, fun used => absurd free used, fun retired => ?_⟩
    exact absurd (free.symm.trans retired) (by decide)
  | retires seated left account joined stamped =>
    refine ⟨by rw [seated, left]; decide, fun _ => ⟨by rw [left]; decide, account, joined⟩,
      fun retired => ?_⟩
    exact absurd (seated.symm.trans retired) (by decide)

/-- A roster with the masks it was accepted under. -/
structure RosterView where
  slots : List MemberSlotWitnessV4
  activeMask : U8
  usedMask : U8

def MembershipStep.opening (step : MembershipStep) : RosterView :=
  ⟨step.before, step.preActiveMask, step.preUsedMask⟩

def MembershipStep.closing (step : MembershipStep) : RosterView :=
  ⟨step.after, step.postActiveMask, step.postUsedMask⟩

/-- Every roster of a run, in order. -/
def timeline (run : List MembershipStep) : List RosterView :=
  run.flatMap fun step => [step.opening, step.closing]

/-- Two rosters with every slot of the second later than that of the first. -/
structure RosterView.Later (earlier later : RosterView) : Prop where
  length : earlier.slots.length = later.slots.length
  slots : ∀ (index : Nat) (previous next : MemberSlotWitnessV4),
    earlier.slots[index]? = some previous → later.slots[index]? = some next → previous.Later next

theorem RosterView.Later.trans {first second third : RosterView} (earlier : first.Later second)
    (later : second.Later third) : first.Later third := by
  refine ⟨earlier.length.trans later.length, fun index previous next atFirst atThird => ?_⟩
  have inside := (List.getElem?_eq_some_iff.mp atFirst).1
  rw [earlier.length] at inside
  have atSecond := List.getElem?_eq_getElem inside
  exact (earlier.slots index previous _ atFirst atSecond).trans
    (later.slots index _ next atSecond atThird)

instance : Trans RosterView.Later RosterView.Later RosterView.Later := ⟨.trans⟩

theorem MembershipStep.Valid.later {step : MembershipStep} (valid : step.Valid) :
    step.opening.Later step.closing :=
  ⟨valid.opens.length.trans valid.closes.length.symm, fun index previous next atOpening atClosing =>
    (valid.moves index previous next atOpening atClosing).later⟩

theorem later_of_continues {earlier later : MembershipStep}
    (continues : later.before = earlier.after) : earlier.closing.Later later.opening := by
  refine ⟨congrArg List.length continues.symm, fun index previous next atClosing atOpening => ?_⟩
  have same : some previous = some next := by
    rw [← atClosing, ← atOpening]
    exact congrArg (·[index]?) continues.symm
  exact Option.some.inj same ▸ .refl previous

/-- Along a run every roster is later than those in front of it. -/
theorem timeline_pairwise {run : List MembershipStep} (valid : ∀ step ∈ run, step.Valid)
    (chained : run.IsChain fun earlier later => later.before = earlier.after) :
    (timeline run).Pairwise RosterView.Later := by
  refine List.isChain_iff_pairwise.mp ?_
  induction run with
  | nil => exact .nil
  | cons step rest inductionHypothesis =>
    rw [List.isChain_cons] at chained
    rw [List.forall_mem_cons] at valid
    show (step.opening :: step.closing :: timeline rest).IsChain RosterView.Later
    rw [List.isChain_cons_cons, List.isChain_cons]
    refine ⟨valid.1.later, fun next first => ?_, inductionHypothesis valid.2 chained.2⟩
    cases rest with
    | nil => cases first
    | cons following others =>
      cases first
      exact later_of_continues (chained.1 following rfl)

/-! ### Masks and occupants -/

/-- A mask inside another one. -/
theorem slotMask_and_not_eq_zero {inner outer : MemberSlotWitnessV4 → Bool}
    {first second : List MemberSlotWitnessV4}
    (kept : ∀ (index : Nat) (slot : MemberSlotWitnessV4), first[index]? = some slot →
      inner slot = true → second[index]?.any outer = true) :
    slotMask inner first &&& ~~~slotMask outer second = 0 := by
  refine BitVec.eq_of_getLsbD_eq fun index bound => ?_
  rw [BitVec.getLsbD_and, BitVec.getLsbD_not, getLsbD_slotMask, getLsbD_slotMask]
  cases lookup : first[index]? with
  | none => simp
  | some slot =>
    by_cases counted : inner slot = true
    · simp [bound, kept index slot lookup counted]
    · simp [counted]

theorem RosterView.Later.used_subset {earlier later : RosterView} (follows : earlier.Later later)
    (opens : Shaped earlier.slots earlier.activeMask earlier.usedMask)
    (closes : Shaped later.slots later.activeMask later.usedMask) :
    earlier.usedMask &&& ~~~later.usedMask = 0 := by
  rw [← opens.used, ← closes.used]
  refine slotMask_and_not_eq_zero fun index slot lookup used => ?_
  have inside := (List.getElem?_eq_some_iff.mp lookup).1
  rw [follows.length] at inside
  have found := List.getElem?_eq_getElem inside
  obtain ⟨stillUsed, -⟩ := (follows.slots index slot _ lookup found).occupied
    (MemberSlotWitnessV4.isUsed_eq_true.mp used)
  rw [found, Option.any_some]
  exact MemberSlotWitnessV4.isUsed_eq_true.mpr stillUsed

theorem Seated.active_subset {slots : List MemberSlotWitnessV4} {activeMask usedMask : U8}
    (seated : Seated slots activeMask usedMask) : activeMask &&& ~~~usedMask = 0 := by
  rw [← seated.active, ← seated.used]
  refine slotMask_and_not_eq_zero fun index slot lookup active => ?_
  rw [lookup, Option.any_some, MemberSlotWitnessV4.isUsed_eq_true,
    MemberSlotWitnessV4.isActive_eq_true.mp active]
  decide

/-- An account sits in one slot of a well-shaped roster. -/
theorem Shaped.index_eq {slots : List MemberSlotWitnessV4} {activeMask usedMask : U8}
    (shaped : Shaped slots activeMask usedMask) {first second : Nat}
    {slot other : MemberSlotWitnessV4} (atFirst : slots[first]? = some slot)
    (atSecond : slots[second]? = some other) (used : slot.state ≠ memberUnused)
    (otherUsed : other.state ≠ memberUnused) (same : slot.account = other.account) :
    first = second := by
  obtain ⟨firstInside, rfl⟩ := List.getElem?_eq_some_iff.mp atFirst
  obtain ⟨secondInside, rfl⟩ := List.getElem?_eq_some_iff.mp atSecond
  have distinct := List.pairwise_iff_getElem.mp shaped.distinct
  have firstUsed := MemberSlotWitnessV4.isUsed_eq_true.mpr used
  have secondUsed := MemberSlotWitnessV4.isUsed_eq_true.mpr otherUsed
  rcases Nat.lt_trichotomy first second with before | equal | behind
  · exact absurd same (distinct first second firstInside secondInside before firstUsed secondUsed)
  · exact equal
  · exact absurd same.symm
      (distinct second first secondInside firstInside behind secondUsed firstUsed)

/-- No account sits in two slots of two rosters. -/
def OneSlotEach (first second : RosterView) : Prop :=
  ∀ (index other : Nat) (slot otherSlot : MemberSlotWitnessV4), first.slots[index]? = some slot →
    second.slots[other]? = some otherSlot → slot.state ≠ memberUnused →
    otherSlot.state ≠ memberUnused → slot.account = otherSlot.account → index = other

instance : Std.Symm OneSlotEach where
  symm _ _ each index other slot otherSlot atSecond atFirst used otherUsed same :=
    (each other index otherSlot slot atFirst atSecond otherUsed used same.symm).symm

theorem RosterView.Later.oneSlotEach {earlier later : RosterView} (follows : earlier.Later later)
    (shaped : Shaped later.slots later.activeMask later.usedMask) : OneSlotEach earlier later := by
  intro index other slot otherSlot atEarlier atLater used otherUsed same
  have inside := (List.getElem?_eq_some_iff.mp atEarlier).1
  rw [follows.length] at inside
  have found := List.getElem?_eq_getElem inside
  obtain ⟨stillUsed, account, -⟩ := (follows.slots index slot _ atEarlier found).occupied used
  exact shaped.index_eq found atLater stillUsed otherUsed (account.trans same)

theorem shaped_of_mem_timeline {run : List MembershipStep} (valid : ∀ step ∈ run, step.Valid)
    {view : RosterView} (member : view ∈ timeline run) :
    Shaped view.slots view.activeMask view.usedMask := by
  obtain ⟨step, listed, among⟩ := List.mem_flatMap.mp member
  rcases List.mem_pair.mp among with rfl | rfl
  · exact (valid step listed).opens
  · exact (valid step listed).closes

/-- A slot after the last transition of a run is later than after any of its transitions. -/
theorem later_of_getLast {run : List MembershipStep} (valid : ∀ step ∈ run, step.Valid)
    (chained : run.IsChain fun earlier later => later.before = earlier.after)
    {step last : MembershipStep} (listed : step ∈ run) (ends : run.getLast? = some last)
    {index : Nat} {next final : MemberSlotWitnessV4} (atStep : step.after[index]? = some next)
    (atLast : last.after[index]? = some final) : next.Later final := by
  obtain ⟨earlier, rest, rfl⟩ := List.append_of_mem listed
  have ordered := timeline_pairwise valid chained
  rw [timeline, List.flatMap_append, List.pairwise_append, List.flatMap_cons] at ordered
  have behind := (List.pairwise_cons.mp (List.pairwise_cons.mp ordered.2.1).2).1
  rw [List.getLast?_append_cons, List.getLast?_cons] at ends
  cases tail : rest.getLast? with
  | none =>
    rw [tail] at ends
    cases ends
    exact Option.some.inj (atStep.symm.trans atLast) ▸ .refl next
  | some other =>
    rw [tail] at ends
    cases ends
    have later := behind other.closing (List.mem_flatMap.mpr ⟨other, List.mem_of_getLast? tail,
      List.mem_cons_of_mem _ List.mem_cons_self⟩)
    exact later.slots index next final atStep atLast

/-! ### The lifecycle -/

/-- Over any chain of accepted transitions: a transition leaves a slot, seats a member in it or
retires the member in it; a slot never goes back, keeps its account and joining batch once used
and is frozen once retired; the used mask loses no bit and contains the active mask; no account
sits in two slots; and at the end the stamps of every slot are the batches that moved it. -/
theorem membership_lifecycle {keccak256 : Bytes → B256} {run : List MembershipStep}
    (accepted : ∀ step ∈ run, step.Accepted keccak256)
    (chained : run.IsChain fun earlier later => later.before = earlier.after) :
    (∀ step ∈ run, ∀ (index : Nat) (previous next : MemberSlotWitnessV4),
      step.before[index]? = some previous → step.after[index]? = some next →
      next = previous ∨ (previous.state = memberUnused ∧ next.state = memberActive) ∨
        (previous.state = memberActive ∧ next.state = memberRetired)) ∧
    (timeline run).Pairwise (fun earlier later =>
      (∀ (index : Nat) (previous next : MemberSlotWitnessV4),
        earlier.slots[index]? = some previous → later.slots[index]? = some next →
        previous.state ≤ next.state ∧
          (previous.state ≠ memberUnused → next.account = previous.account ∧
            next.joinedAtBatch = previous.joinedAtBatch) ∧
          (previous.state = memberRetired → next = previous)) ∧
        earlier.usedMask &&& ~~~later.usedMask = 0) ∧
    (∀ view ∈ timeline run, view.slots.length = maxMembers ∧
      (∀ slot ∈ view.slots, slot.state = memberUnused ∨ slot.state = memberActive ∨
        slot.state = memberRetired) ∧ view.activeMask &&& ~~~view.usedMask = 0) ∧
    (∀ first ∈ timeline run, ∀ second ∈ timeline run, OneSlotEach first second) ∧
    (∀ step ∈ run, ∀ last, run.getLast? = some last →
      ∀ (index : Nat) (previous next final : MemberSlotWitnessV4),
        step.before[index]? = some previous → step.after[index]? = some next →
        last.after[index]? = some final →
        (previous.state = memberUnused → next.state = memberActive →
          final.joinedAtBatch = step.batchIndex) ∧
        (previous.state = memberActive → next.state = memberRetired →
          final.retiredAtBatch = some step.batchIndex)) := by
  have valid : ∀ step ∈ run, step.Valid := fun step listed => (accepted step listed).valid
  have ordered := timeline_pairwise valid chained
  refine ⟨fun step listed index previous next atBefore atAfter => ?_, ?_,
    fun view member => ?_, ?_, ?_⟩
  · cases (valid step listed).moves index previous next atBefore atAfter with
    | stays same => exact .inl same
    | activates free seated joined => exact .inr (.inl ⟨free, seated⟩)
    | retires seated left account joined stamped => exact .inr (.inr ⟨seated, left⟩)
  · refine ordered.imp_of_mem fun {earlier later} earlierMember laterMember follows =>
      ⟨fun index previous next atEarlier atLater => ?_, follows.used_subset
        (shaped_of_mem_timeline valid earlierMember) (shaped_of_mem_timeline valid laterMember)⟩
    have slot := follows.slots index previous next atEarlier atLater
    exact ⟨slot.ordered, fun used => (slot.occupied used).2, slot.frozen⟩
  · have shaped := shaped_of_mem_timeline valid member
    refine ⟨shaped.length, fun slot listed => ?_, shaped.active_subset⟩
    cases shaped.formed slot listed with
    | unused state => exact .inl state
    | active state => exact .inr (.inl state)
    | retired state => exact .inr (.inr state)
  · refine List.Pairwise.forall_of_forall (fun view member => ?_)
      (ordered.imp_of_mem fun _ laterMember follows =>
        follows.oneSlotEach (shaped_of_mem_timeline valid laterMember))
    exact fun index other slot otherSlot => (shaped_of_mem_timeline valid member).index_eq
  · intro step listed last ends index previous next final atBefore atAfter atLast
    have later := later_of_getLast valid chained listed ends atAfter atLast
    cases (valid step listed).moves index previous next atBefore atAfter with
    | stays same =>
      rw [same]
      exact ⟨fun free seated => absurd (free.symm.trans seated) (by decide),
        fun seated left => absurd (seated.symm.trans left) (by decide)⟩
    | activates free seated joined =>
      refine ⟨fun _ _ => ?_, fun active => absurd (free.symm.trans active) (by decide)⟩
      rw [(later.occupied (by rw [seated]; decide)).2.2, joined]
    | retires seated left account joined stamped =>
      refine ⟨fun free => absurd (seated.symm.trans free) (by decide), fun _ _ => ?_⟩
      rw [later.frozen left, stamped]

/-- A slot no member has sat in. -/
def freeSlot (slot : U8) : MemberSlotWitnessV4 := ⟨slot, memberUnused, 0, 0, none⟩

/-- A roster with two slots in use. -/
def sampleMembers (first second : MemberSlotWitnessV4) : List MemberSlotWitnessV4 :=
  [first, second, freeSlot 2, freeSlot 3, freeSlot 4, freeSlot 5, freeSlot 6]

/-- A member who has been there from the opening. -/
def sampleFirstMember : MemberSlotWitnessV4 := ⟨0, memberActive, 11, 0, none⟩

/-- A transition between two rosters under the sample digest. -/
def sampleMembership (batchIndex : U64) (before after : List MemberSlotWitnessV4)
    (deltas : List MembershipDeltaWitnessV4) : MembershipStep where
  batchIndex := batchIndex
  before := before
  after := after
  deltas := deltas
  preRoot := (memberRosterRootV4 sampleDigest before).getD 0
  postRoot := (memberRosterRootV4 sampleDigest after).getD 0
  preActiveMask := slotMask MemberSlotWitnessV4.isActive before
  preUsedMask := slotMask MemberSlotWitnessV4.isUsed before
  postActiveMask := slotMask MemberSlotWitnessV4.isActive after
  postUsedMask := slotMask MemberSlotWitnessV4.isUsed after

/-- A second member joins in batch five. -/
def sampleJoin : MembershipStep :=
  sampleMembership 5 (sampleMembers sampleFirstMember (freeSlot 1))
    (sampleMembers sampleFirstMember ⟨1, memberActive, 12, 5, none⟩)
    [⟨memberActivate, 1, 12, 3, 100⟩]

/-- The first member leaves in batch six. -/
def sampleLeave : MembershipStep :=
  sampleMembership 6 (sampleMembers sampleFirstMember ⟨1, memberActive, 12, 5, none⟩)
    (sampleMembers ⟨0, memberRetired, 11, 0, some 6⟩ ⟨1, memberActive, 12, 5, none⟩)
    [⟨memberRetire, 0, 11, 0, 0⟩]

theorem membership_lifecycle_sample :
    sampleJoin.Accepted sampleDigest ∧ sampleLeave.Accepted sampleDigest ∧
      OneSlotEach sampleJoin.opening sampleLeave.closing := by
  have joins : sampleJoin.Accepted sampleDigest := exists_eq_ok_of_isSome (by decide +kernel)
  have leaves : sampleLeave.Accepted sampleDigest := exists_eq_ok_of_isSome (by decide +kernel)
  refine ⟨joins, leaves, ?_⟩
  have both : ∀ step ∈ [sampleJoin, sampleLeave], step.Accepted sampleDigest :=
    List.forall_mem_cons.mpr ⟨joins, List.forall_mem_singleton.mpr leaves⟩
  obtain ⟨-, -, -, each, -⟩ := membership_lifecycle both (List.isChain_pair.mpr rfl)
  exact each _ List.mem_cons_self _ (by simp [timeline])

end Zkdeal

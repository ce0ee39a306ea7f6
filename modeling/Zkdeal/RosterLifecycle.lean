/-
This file proves what becomes of the approvers of a unanimous room: a batch moves
its roster by exactly the queued changes, and along a chain of batches every
joined epoch stays between one and the epoch of the roster it is in.

A roster is for saying who sits at an index and since which epoch, so it is read as
a map from indices to seats. The validator keeps a tree of the same content and
compares it with the next preimage only after the last change; the trees in
between are never checked, and what holds of them is carried by the changes.
-/

import Zkdeal.Room.Roster
import Zkdeal.PositionalTrees
import Zkdeal.Library.Spans

namespace Zkdeal

open Words Guard Spans

/-! ### Seats -/

/-- Who sits at an index, and since which epoch. -/
abbrev Seats := U64 → Option (Address × U64)

/-- The seat of a roster entry. -/
def RosterMemberV5.seat (entry : RosterMemberV5) : Address × U64 :=
  (entry.member, entry.joinedEpoch)

/-- The seats of a roster preimage. -/
def seats (members : List RosterMemberV5) : Seats := fun index =>
  (members.find? fun entry => entry.index == index).map RosterMemberV5.seat

/-- The seats of the validator's working map. -/
def seatsOf (roster : BTreeMap U64 RosterMemberV5) : Seats := fun index =>
  roster[index]?.map RosterMemberV5.seat

/-- What a queued change does to the seats when the roster enters an epoch. -/
inductive Reseats (epoch : U64) (change : RosterChangeV5) (before : Seats) : Seats → Prop
  | add (action : change.action = 0) (nonzero : change.member ≠ 0)
      (joins : change.joinedEpoch = epoch) (free : before change.index = none)
      (absent : ∀ index seat, before index = some seat → seat.1 ≠ change.member) :
      Reseats epoch change before
        (Function.update before change.index (some (change.member, change.joinedEpoch)))
  | remove (action : change.action = 1)
      (seated : before change.index = some (change.member, change.joinedEpoch)) :
      Reseats epoch change before (Function.update before change.index none)

/-- What a list of queued changes does, in order. -/
inductive ReseatsAll (epoch : U64) : List RosterChangeV5 → Seats → Seats → Prop
  | nil (before : Seats) : ReseatsAll epoch [] before before
  | cons {change : RosterChangeV5} {rest : List RosterChangeV5} {before middle after : Seats}
      (head : Reseats epoch change before middle) (tail : ReseatsAll epoch rest middle after) :
      ReseatsAll epoch (change :: rest) before after

/-- No seat was taken after an epoch. -/
def JoinedBy (epoch : U64) (occupied : Seats) : Prop :=
  ∀ index seat, occupied index = some seat → seat.2 ≤ epoch

theorem Reseats.joinedBy {epoch : U64} {change : RosterChangeV5} {before after : Seats}
    (moved : Reseats epoch change before after) (joined : JoinedBy epoch before) :
    JoinedBy epoch after := by
  intro index seat occupied
  cases moved with
  | add action nonzero joins free absent =>
    rw [Function.update_apply] at occupied
    split at occupied
    · rw [← Option.some.inj occupied, joins]
      exact BitVec.le_refl epoch
    · exact joined index seat occupied
  | remove action seated =>
    rw [Function.update_apply] at occupied
    split at occupied
    · cases occupied
    · exact joined index seat occupied

theorem ReseatsAll.joinedBy {epoch : U64} {changes : List RosterChangeV5} {before after : Seats}
    (moved : ReseatsAll epoch changes before after) (joined : JoinedBy epoch before) :
    JoinedBy epoch after := by
  induction moved with
  | nil => exact joined
  | cons head _ inductionHypothesis => exact inductionHypothesis (head.joinedBy joined)

/-! ### Preimages -/

/-- A roster preimage: sorted by index, within the capacity, with one account a seat. -/
structure Enrolled (members : List RosterMemberV5) (capacity : U64) : Prop where
  sorted : members.Pairwise fun earlier later => earlier.index < later.index
  inside : ∀ entry ∈ members, entry.index < capacity
  nonzero : ∀ entry ∈ members, entry.member ≠ 0
  joined : ∀ entry ∈ members, 1 ≤ entry.joinedEpoch
  distinct : (members.map RosterMemberV5.member).Nodup

/-- Every entry of a preimage is found at its own index. -/
theorem Enrolled.seats_eq {members : List RosterMemberV5} {capacity : U64}
    (enrolled : Enrolled members capacity) {entry : RosterMemberV5} (member : entry ∈ members) :
    seats members entry.index = some entry.seat := by
  rw [seats, find?_key_eq_some (nodup_of_increasing enrolled.sorted) member, Option.map_some]

/-- What entering the members of a list has built so far. -/
structure Entered (consumed : List RosterMemberV5)
    (entered : BTreeMap U64 RosterMemberV5 × BTreeSet Address) : Prop where
  found : ∀ index, entered.1[index]? = consumed.find? fun entry => entry.index == index
  size : entered.1.size = consumed.length
  accounts : ∀ account, entered.2.contains account = true ↔
    account ∈ consumed.map RosterMemberV5.member
  distinct : (consumed.map RosterMemberV5.member).Nodup

theorem enterMember_entered {consumed : List RosterMemberV5} {entry : RosterMemberV5}
    {before after : BTreeMap U64 RosterMemberV5 × BTreeSet Address}
    (holds : Entered consumed before) (stepped : enterMember before entry = .ok after) :
    Entered (consumed ++ [entry]) after := by
  unfold enterMember at stepped
  obtain ⟨fresh, kept⟩ := refuse_bind_eq_ok.mp stepped
  obtain ⟨newAccount, newIndex⟩ := not_or.mp fresh
  rw [← pure_eq_ok.mp kept]
  have vacant : before.1[entry.index]? = none :=
    Std.ExtTreeMap.getElem?_eq_none_of_contains_eq_false (Bool.eq_false_iff.mpr newIndex)
  refine ⟨?_, ?_, ?_, ?_⟩
  · intro index
    have searched := getElem?_insert_eq_find? RosterMemberV5.index id
      (fun wanted => by rw [Option.map_id]; exact holds.found wanted) vacant index
    rwa [Option.map_id] at searched
  · rw [Std.ExtTreeMap.size_insert, if_neg newIndex, holds.size, List.length_append,
      List.length_singleton]
  · intro account
    rw [Std.ExtTreeSet.contains_insert, Bool.or_eq_true, holds.accounts account, List.map_append,
      List.mem_append, List.map_singleton, List.mem_singleton, beq_iff_eq, Std.compare_eq_iff_eq,
      or_comm, eq_comm]
  · rw [List.map_append, List.map_singleton]
    refine List.Nodup.append holds.distinct (List.nodup_singleton _) ?_
    rw [List.disjoint_singleton]
    exact fun known => newAccount ((holds.accounts _).mpr known)

/-- A preimage that opens the journal's root, and the map it is turned into. -/
theorem activeRosterMapV5_spec {keccak256 : Bytes → B256} {members : List RosterMemberV5}
    {capacity : U64} {root : B256} {roster : BTreeMap U64 RosterMemberV5}
    (opened : activeRosterMapV5 keccak256 members capacity root = .ok roster) :
    Enrolled members capacity ∧ seatsOf roster = seats members ∧ roster.size = members.length := by
  unfold activeRosterMapV5 at opened
  obtain ⟨computed, rooted, rest⟩ := bind_eq_ok.mp opened
  obtain ⟨-, rest⟩ := refuse_bind_eq_ok.mp rest
  obtain ⟨entered, ran, kept⟩ := bind_eq_ok.mp rest
  obtain ⟨leaves, tree⟩ := rosterRootV5_rooted (orRefuse_eq_ok.mp rooted)
  have placed := tree.placed
  have occupied : ∀ entry ∈ members, entry.member ≠ 0 ∧ entry.joinedEpoch ≠ 0 := by
    intro entry member
    have taken := (placed.accepted entry member).2
    rw [vacantMember, Bool.or_eq_false_iff, beq_eq_false_iff_ne, beq_eq_false_iff_ne] at taken
    exact taken
  have built : Entered members entered :=
    foldlM_invariant Entered ran
      ⟨fun _ => Std.ExtTreeMap.getElem?_empty, Std.ExtTreeMap.size_empty,
        fun account => by simp [Std.ExtTreeSet.contains_empty], List.nodup_nil⟩
      fun _ _ _ _ => enterMember_entered
  rw [← pure_eq_ok.mp kept]
  refine ⟨⟨placed.sorted, ?_, ?_, ?_, built.distinct⟩, ?_, built.size⟩
  · exact fun entry member => BitVec.lt_def.mpr (placed.accepted entry member).1
  · exact fun entry member => (occupied entry member).1
  · intro entry member
    exact BitVec.le_def.mpr (Nat.one_le_iff_ne_zero.mpr fun zero =>
      (occupied entry member).2 (toNat_eq_zero.mp zero))
  · funext index
    rw [seatsOf, built.found index, seats]

/-! ### Queued changes -/

theorem mem_values {Key Value : Type} {order : Key → Key → Ordering} [Std.TransCmp order]
    [Std.LawfulEqCmp order] {tree : Std.ExtTreeMap Key Value order} {value : Value} :
    value ∈ tree.values ↔ ∃ key : Key, tree[key]? = some value := by
  have listed : tree.values = tree.toList.map Prod.snd := by
    obtain ⟨⟨⟨inner⟩⟩⟩ := tree
    show inner.inner.values =
      (Std.DTreeMap.Internal.Impl.Const.toList inner.inner).map Prod.snd
    rw [Std.DTreeMap.Internal.Impl.values_eq_map_snd,
      Std.DTreeMap.Internal.Impl.Const.toList_eq_toListModel_map, List.map_map]
    rfl
  simp only [listed, List.mem_map, Prod.exists, exists_eq_right,
    Std.ExtTreeMap.mem_toList_iff_getElem?_eq_some]

theorem seatsOf_insert (roster : BTreeMap U64 RosterMemberV5) (entry : RosterMemberV5) :
    seatsOf (roster.insert entry.index entry) =
      Function.update (seatsOf roster) entry.index (some entry.seat) := by
  funext index
  rw [seatsOf, Std.ExtTreeMap.getElem?_insert, Function.update_apply]
  by_cases same : entry.index = index
  · rw [if_pos (Std.compare_eq_iff_eq.mpr same), if_pos same.symm, Option.map_some]
  · rw [if_neg (mt Std.compare_eq_iff_eq.mp same), if_neg (Ne.symm same), seatsOf]

theorem seatsOf_erase (roster : BTreeMap U64 RosterMemberV5) (removed : U64) :
    seatsOf (roster.erase removed) = Function.update (seatsOf roster) removed none := by
  funext index
  rw [seatsOf, Std.ExtTreeMap.getElem?_erase, Function.update_apply]
  by_cases same : removed = index
  · rw [if_pos (Std.compare_eq_iff_eq.mpr same), if_pos same.symm, Option.map_none]
  · rw [if_neg (mt Std.compare_eq_iff_eq.mp same), if_neg (Ne.symm same), seatsOf]

theorem addMember_reseats {journal : BatchJournalV5} {change : RosterChangeV5}
    {before after : BTreeMap U64 RosterMemberV5} (action : change.action = 0)
    (stepped : addMember journal before change = .ok after) :
    Reseats journal.postRosterEpoch change (seatsOf before) (seatsOf after) := by
  unfold addMember at stepped
  obtain ⟨valid, kept⟩ := refuse_bind_eq_ok.mp stepped
  simp only [not_or, not_not] at valid
  obtain ⟨nonzero, joins, -, stranger, vacant⟩ := valid
  have moved := seatsOf_insert before ⟨change.index, change.member, change.joinedEpoch⟩
  rw [← pure_eq_ok.mp kept, moved]
  refine .add action nonzero joins ?_ ?_
  · rw [seatsOf, Std.ExtTreeMap.getElem?_eq_none_of_contains_eq_false
      (Bool.eq_false_iff.mpr vacant), Option.map_none]
  · intro index seat occupied same
    obtain ⟨entry, found, rfl⟩ := Option.map_eq_some_iff.mp occupied
    exact stranger ⟨entry, mem_values.mpr ⟨index, found⟩, same⟩

/-- A removal together with the withdrawal that pays it. -/
structure Pays (keccak256 : Bytes → B256) (input : BatchInputV5) (change : RosterChangeV5)
    (withdrawal : WithdrawalV5) : Prop where
  listed : withdrawal ∈ input.withdrawals
  index : withdrawal.index = change.index
  recipient : withdrawal.recipient = change.member
  leaf : withdrawalLeafV5 keccak256 input.journal.deploymentDomain input.journal.roomId
    input.journal.outboxEpoch withdrawal = change.withdrawalCommitment

theorem removeMember_reseats {keccak256 : Bytes → B256} {input : BatchInputV5}
    {change : RosterChangeV5} {before after : BTreeMap U64 RosterMemberV5}
    (action : change.action = 1)
    (stepped : removeMember keccak256 input before change = .ok after) :
    Reseats input.journal.postRosterEpoch change (seatsOf before) (seatsOf after) ∧
      ∃ withdrawal, Pays keccak256 input change withdrawal := by
  unfold removeMember at stepped
  dsimp only at stepped
  obtain ⟨removed, found, rest⟩ := bind_eq_ok.mp stepped
  obtain ⟨exactMember, rest⟩ := refuse_bind_eq_ok.mp rest
  obtain ⟨withdrawal, allocated, rest⟩ := bind_eq_ok.mp rest
  obtain ⟨committed, kept⟩ := refuse_bind_eq_ok.mp rest
  simp only [not_or, not_not] at exactMember committed
  obtain ⟨member, joined, -⟩ := exactMember
  obtain ⟨recipient, -, leaf⟩ := committed
  have chosen := orRefuse_eq_ok.mp allocated
  rw [← pure_eq_ok.mp kept, seatsOf_erase]
  refine ⟨.remove action ?_, withdrawal, List.mem_of_find?_eq_some chosen, ?_, recipient, leaf⟩
  · rw [seatsOf, orRefuse_eq_ok.mp found, Option.map_some, RosterMemberV5.seat, member, joined]
  · simpa using List.find?_some chosen

/-- What a queued change establishes: its request id and what it does to the seats. -/
theorem applyRosterChange_spec {keccak256 : Bytes → B256} {input : BatchInputV5}
    {item : RosterChangeV5 × Nat} {before after : BTreeMap U64 RosterMemberV5}
    (stepped : applyRosterChange keccak256 input before item = .ok after) :
    item.1.requestId.toNat = input.journal.rosterChangeCursorBefore.toNat + (item.2 + 1) ∧
      Reseats input.journal.postRosterEpoch item.1 (seatsOf before) (seatsOf after) ∧
      (item.1.action = 1 → ∃ withdrawal, Pays keccak256 input item.1 withdrawal) := by
  unfold applyRosterChange at stepped
  dsimp only at stepped
  obtain ⟨requestId, advanced, rest⟩ := bind_eq_ok.mp stepped
  obtain ⟨identified, rest⟩ := refuse_bind_eq_ok.mp rest
  simp only [not_or, not_not] at identified
  have numbered : item.1.requestId.toNat =
      input.journal.rosterChangeCursorBefore.toNat + (item.2 + 1) := by
    rw [identified.1]
    exact (checkedAdvance_eq_some.mp (orRefuse_eq_ok.mp advanced)).symm
  refine ⟨numbered, ?_⟩
  split at rest
  · rename_i add
    exact ⟨addMember_reseats add rest, fun remove => absurd (add.symm.trans remove) (by decide)⟩
  · split at rest
    · rename_i remove
      obtain ⟨moved, paid⟩ := removeMember_reseats remove rest
      exact ⟨moved, fun _ => paid⟩
    · cases rest

theorem applyRosterChanges_reseats {keccak256 : Bytes → B256} {input : BatchInputV5}
    {items : List (RosterChangeV5 × Nat)} {before after : BTreeMap U64 RosterMemberV5}
    (ran : items.foldlM (applyRosterChange keccak256 input) before = .ok after) :
    ReseatsAll input.journal.postRosterEpoch (items.map Prod.fst) (seatsOf before)
      (seatsOf after) := by
  induction items generalizing before with
  | nil =>
    rw [foldlM_nil_eq_ok.mp ran]
    exact .nil _
  | cons item rest inductionHypothesis =>
    obtain ⟨middle, stepped, remaining⟩ := foldlM_cons_eq_ok.mp ran
    exact .cons (applyRosterChange_spec stepped).2.1 (inductionHypothesis remaining)

/-! ### One batch -/

/-- What a unanimous batch does to its roster. -/
structure UnanimousTransition (input : BatchInputV5) : Prop where
  preEnrolled : Enrolled input.preRoster input.rosterCapacity
  postEnrolled : Enrolled input.postRoster input.rosterCapacity
  preCount : input.preRoster.length = input.journal.preActiveCount.toNat
  postCount : input.postRoster.length = input.journal.postActiveCount.toNat
  reseated : ReseatsAll input.journal.postRosterEpoch input.rosterChanges (seats input.preRoster)
    (seats input.postRoster)
  epoch : input.journal.postRosterEpoch.toNat =
    input.journal.preRosterEpoch.toNat + if input.rosterChanges = [] then 0 else 1
  cursor : input.journal.rosterChangeCursorAfter.toNat =
    input.journal.rosterChangeCursorBefore.toNat + input.rosterChanges.length
  requests : input.rosterChanges.map (fun change => change.requestId.toNat) =
    List.range' (input.journal.rosterChangeCursorBefore.toNat + 1) input.rosterChanges.length

theorem validateRosterTransitionV5_unanimous {keccak256 : Bytes → B256} {input : BatchInputV5}
    {callers : BTreeSet Address} (unanimous : input.journal.authorizationMode = 0)
    (accepted : validateRosterTransitionV5 keccak256 input = .ok callers) :
    UnanimousTransition input ∧
      ∀ change ∈ input.rosterChanges, change.action = 1 →
        ∃ withdrawal, Pays keccak256 input change withdrawal := by
  unfold validateRosterTransitionV5 at accepted
  dsimp only at accepted
  rw [if_neg (by rw [unanimous]; decide)] at accepted
  obtain ⟨-, rest⟩ := refuse_bind_eq_ok.mp accepted
  obtain ⟨start, preOpened, rest⟩ := bind_eq_ok.mp rest
  obtain ⟨post, postOpened, rest⟩ := bind_eq_ok.mp rest
  obtain ⟨counts, rest⟩ := refuse_bind_eq_ok.mp rest
  obtain ⟨changeCount, counted, rest⟩ := bind_eq_ok.mp rest
  obtain ⟨ranged, rest⟩ := refuse_bind_eq_ok.mp rest
  obtain ⟨expectedPostEpoch, raised, rest⟩ := bind_eq_ok.mp rest
  obtain ⟨sameEpoch, rest⟩ := refuse_bind_eq_ok.mp rest
  obtain ⟨expected, ran, rest⟩ := bind_eq_ok.mp rest
  obtain ⟨reached, -⟩ := refuse_bind_eq_ok.mp rest
  simp only [not_or, not_not] at counts ranged sameEpoch reached
  obtain ⟨preEnrolled, preSeats, preSize⟩ := activeRosterMapV5_spec preOpened
  obtain ⟨postEnrolled, postSeats, postSize⟩ := activeRosterMapV5_spec postOpened
  have cursor := checkedSub_eq_some.mp (orRefuse_eq_ok.mp counted)
  have epoch := checkedAdd_eq_some.mp (orRefuse_eq_ok.mp raised)
  have moved := applyRosterChanges_reseats ran
  rw [List.zipIdx_map_fst, reached, preSeats, postSeats] at moved
  have numbered : ∀ item ∈ input.rosterChanges.zipIdx, item.1.requestId.toNat =
      input.journal.rosterChangeCursorBefore.toNat + (item.2 + 1) :=
    foldlM_forall ran fun _ _ _ stepped => (applyRosterChange_spec stepped).1
  have paid : ∀ item ∈ input.rosterChanges.zipIdx, item.1.action = 1 →
      ∃ withdrawal, Pays keccak256 input item.1 withdrawal :=
    foldlM_forall ran fun _ _ _ stepped => (applyRosterChange_spec stepped).2.2
  refine ⟨⟨preEnrolled, postEnrolled, ?_, ?_, moved, ?_, ?_, ?_⟩, ?_⟩
  · rw [← preSize, counts.1]
  · rw [← postSize, counts.2]
  · rw [sameEpoch, ← epoch]
    cases input.rosterChanges <;> rfl
  · rw [cursor, ranged.1]
  · refine map_eq_range' fun item member => ?_
    rw [numbered item member]
    omega
  · intro change member remove
    obtain ⟨position, visited⟩ := exists_mem_zipIdx member
    exact paid (change, position) visited remove

/-! ### Runs -/

/-- A batch whose roster has been accepted. -/
structure AcceptedRoster (keccak256 : Bytes → B256) where
  input : BatchInputV5
  callers : BTreeSet Address
  accepted : validateRosterTransitionV5 keccak256 input = .ok callers

namespace AcceptedRoster

variable {keccak256 : Bytes → B256}

/-- A batch that begins with the roster, the epoch and the cursor of the one before it. -/
def Follows (earlier later : AcceptedRoster keccak256) : Prop :=
  later.input.preRoster = earlier.input.postRoster ∧
    later.input.journal.preRosterEpoch = earlier.input.journal.postRosterEpoch ∧
    later.input.journal.rosterChangeCursorBefore = earlier.input.journal.rosterChangeCursorAfter

/-- The request ids a batch applies, in order. -/
def requestIds (batch : AcceptedRoster keccak256) : List Nat :=
  batch.input.rosterChanges.map fun change => change.requestId.toNat

/-- The joined epochs of a roster lie between one and the epoch it is in. -/
def InEpoch (members : List RosterMemberV5) (epoch : U64) : Prop :=
  ∀ entry ∈ members, 1 ≤ entry.joinedEpoch ∧ entry.joinedEpoch ≤ epoch

/-- What a batch means for a run, whoever authorizes it. -/
structure Advances (batch : AcceptedRoster keccak256) : Prop where
  joined : ∀ entry ∈ batch.input.preRoster, 1 ≤ entry.joinedEpoch
  inEpoch : InEpoch batch.input.preRoster batch.input.journal.preRosterEpoch →
    InEpoch batch.input.postRoster batch.input.journal.postRosterEpoch
  ordered : batch.input.journal.rosterChangeCursorBefore.toNat ≤
    batch.input.journal.rosterChangeCursorAfter.toNat
  requests : batch.requestIds = List.range'
    (batch.input.journal.rosterChangeCursorBefore.toNat + 1)
    (batch.input.journal.rosterChangeCursorAfter.toNat -
      batch.input.journal.rosterChangeCursorBefore.toNat)

theorem advances_of_unanimous {batch : AcceptedRoster keccak256}
    (moved : UnanimousTransition batch.input) : batch.Advances where
  joined := moved.preEnrolled.joined
  ordered := by
    rw [moved.cursor]
    exact Nat.le_add_right _ _
  requests := by
    rw [moved.cursor, Nat.add_sub_cancel_left]
    exact moved.requests
  inEpoch := by
    intro before entry member
    refine ⟨moved.postEnrolled.joined entry member, ?_⟩
    have risen : batch.input.journal.preRosterEpoch ≤ batch.input.journal.postRosterEpoch := by
      rw [BitVec.le_def, moved.epoch]
      exact Nat.le_add_right _ _
    have early : JoinedBy batch.input.journal.postRosterEpoch (seats batch.input.preRoster) := by
      intro index seat occupied
      obtain ⟨earlier, found, rfl⟩ := Option.map_eq_some_iff.mp occupied
      exact BitVec.le_trans (before earlier (List.mem_of_find?_eq_some found)).2 risen
    exact moved.reseated.joinedBy early entry.index entry.seat (moved.postEnrolled.seats_eq member)

/-- A batch without approvers has empty rosters and applies nothing. -/
theorem advances_of_validityOnly {batch : AcceptedRoster keccak256}
    (validityOnly : batch.input.journal.authorizationMode = 1) : batch.Advances := by
  have accepted := batch.accepted
  unfold validateRosterTransitionV5 at accepted
  dsimp only at accepted
  rw [if_pos validityOnly] at accepted
  unfold refuseApprovers at accepted
  dsimp only at accepted
  obtain ⟨bare, -⟩ := refuse_bind_eq_ok.mp accepted
  simp only [not_or, not_not] at bare
  obtain ⟨-, -, -, -, -, cursor, preRoster, postRoster, changes, -⟩ := bare
  refine ⟨?_, ?_, ?_, ?_⟩
  · rw [preRoster]
    exact fun entry member => absurd member List.not_mem_nil
  · intro _ entry member
    rw [postRoster] at member
    cases member
  · rw [cursor]
  · rw [requestIds, changes, cursor, Nat.sub_self, List.range'_zero, List.map_nil]

theorem advances (batch : AcceptedRoster keccak256) : batch.Advances := by
  by_cases validityOnly : batch.input.journal.authorizationMode = 1
  · exact advances_of_validityOnly validityOnly
  · have accepted := batch.accepted
    unfold validateRosterTransitionV5 at accepted
    dsimp only at accepted
    rw [if_neg validityOnly] at accepted
    obtain ⟨unanimous, -⟩ := refuse_bind_eq_ok.mp accepted
    exact advances_of_unanimous
      (validateRosterTransitionV5_unanimous (not_not.mp unanimous) batch.accepted).1

/-- Along a chain every roster stays within its epoch. -/
theorem inEpoch_run {first : AcceptedRoster keccak256} {rest : List (AcceptedRoster keccak256)}
    (chained : (first :: rest).IsChain Follows)
    (begins : InEpoch first.input.preRoster first.input.journal.preRosterEpoch) :
    ∀ batch ∈ first :: rest,
      InEpoch batch.input.preRoster batch.input.journal.preRosterEpoch ∧
        InEpoch batch.input.postRoster batch.input.journal.postRosterEpoch := by
  induction rest generalizing first with
  | nil =>
    intro batch member
    rw [List.mem_singleton.mp member]
    exact ⟨begins, first.advances.inEpoch begins⟩
  | cons second rest inductionHypothesis =>
    obtain ⟨⟨roster, epoch, -⟩, remaining⟩ := List.isChain_cons_cons.mp chained
    have ends := first.advances.inEpoch begins
    intro batch member
    rcases List.mem_cons.mp member with rfl | later
    · exact ⟨begins, ends⟩
    · refine inductionHypothesis remaining ?_ batch later
      rw [roster, epoch]
      exact ends

/-- Along a chain the request ids are consecutive. -/
theorem requestIds_run {first last : AcceptedRoster keccak256}
    {rest : List (AcceptedRoster keccak256)} (chained : (first :: rest).IsChain Follows)
    (ends : (first :: rest).getLast? = some last) :
    (first :: rest).flatMap requestIds =
      List.range' (first.input.journal.rosterChangeCursorBefore.toNat + 1)
        (last.input.journal.rosterChangeCursorAfter.toNat -
          first.input.journal.rosterChangeCursorBefore.toNat) := by
  have covered := flatMap_taken
    (fun batch => batch.input.journal.rosterChangeCursorBefore.toNat + 1)
    (fun batch => batch.input.journal.rosterChangeCursorAfter.toNat + 1) requestIds
    (fun batch _ => Nat.succ_le_succ batch.advances.ordered)
    (fun batch _ => by rw [batch.advances.requests, Nat.add_sub_add_right])
    (chained.imp fun _ _ follows => by rw [follows.2.2]) ends
  rw [covered, Nat.add_sub_add_right]

end AcceptedRoster

/-- The lifecycle of approvers: a unanimous batch moves its roster by its queued changes, and
a chain of batches keeps every joined epoch in range and applies every request once. -/
theorem roster_lifecycle (keccak256 : Bytes → B256) :
    (∀ batch : AcceptedRoster keccak256, batch.input.journal.authorizationMode = 0 →
      UnanimousTransition batch.input) ∧
    ∀ (first last : AcceptedRoster keccak256) (rest : List (AcceptedRoster keccak256)),
      (first :: rest).IsChain AcceptedRoster.Follows →
      (first :: rest).getLast? = some last →
      (∀ entry ∈ first.input.preRoster,
        entry.joinedEpoch ≤ first.input.journal.preRosterEpoch) →
      (∀ batch ∈ first :: rest,
        AcceptedRoster.InEpoch batch.input.preRoster batch.input.journal.preRosterEpoch ∧
          AcceptedRoster.InEpoch batch.input.postRoster batch.input.journal.postRosterEpoch) ∧
      (first :: rest).flatMap AcceptedRoster.requestIds =
        List.range' (first.input.journal.rosterChangeCursorBefore.toNat + 1)
          (last.input.journal.rosterChangeCursorAfter.toNat -
            first.input.journal.rosterChangeCursorBefore.toNat) := by
  refine ⟨?_, ?_⟩
  · intro batch unanimous
    exact (validateRosterTransitionV5_unanimous unanimous batch.accepted).1
  · intro first last rest chained ends begins
    refine ⟨AcceptedRoster.inEpoch_run chained ?_, AcceptedRoster.requestIds_run chained ends⟩
    exact fun entry member => ⟨first.advances.joined entry member, begins entry member⟩

/-- A batch of a unanimous room with queued changes and native withdrawals. -/
def sampleUnanimousBatch (preEpoch cursor : U64) (pre post : List RosterMemberV5)
    (changes : List RosterChangeV5) (withdrawals : List WithdrawalV5) : BatchInputV5 :=
  let paid := (withdrawals.map WithdrawalV5.amount).sum
  let preLiabilities : List AssetLiabilityV5 := [⟨0, 0, 100, 0, 0⟩]
  let postLiabilities : List AssetLiabilityV5 := [⟨0, 0, 100 - paid, paid, 0⟩]
  { (default : BatchInputV5) with
    rosterCapacity := 4
    preRoster := pre
    postRoster := post
    rosterChanges := changes
    withdrawals := withdrawals
    withdrawalCapacity := 4
    preLiabilities := preLiabilities
    postLiabilities := postLiabilities
    journal := { (default : BatchJournalV5) with
      deploymentDomain := 9
      roomId := 8
      outboxEpoch := 7
      preRosterRoot := (rosterRootV5 sampleDigest pre 4).getD 0
      postRosterRoot := (rosterRootV5 sampleDigest post 4).getD 0
      preRosterEpoch := preEpoch
      postRosterEpoch := preEpoch + if changes.isEmpty then 0 else 1
      preActiveCount := lengthWord pre
      postActiveCount := lengthWord post
      rosterChangeCursorBefore := cursor
      rosterChangeCursorAfter := cursor + lengthWord changes
      rosterChangesHash := rosterChangesHashV5 sampleDigest changes
      inboxRecordsHash := inboxRecordsHashV5 sampleDigest []
      preLiabilitiesHash := liabilitiesHashV5 sampleDigest preLiabilities
      postLiabilitiesHash := liabilitiesHashV5 sampleDigest postLiabilities
      withdrawalRoot := (withdrawalRootV5 sampleDigest 9 8 7 withdrawals 4).getD 0 } }

/-- A queued change that lets an account join. -/
def sampleAddition (requestId index epoch : U64) (member : Address) : RosterChangeV5 :=
  { action := 0, requestId := requestId, index := index, joinedEpoch := epoch, deadline := 0,
    member := member, withdrawalCommitment := 0 }

/-- A queued change that pays an account out. -/
def sampleRemoval (requestId joinedEpoch : U64) (payout : WithdrawalV5) : RosterChangeV5 :=
  { action := 1, requestId := requestId, index := payout.index, joinedEpoch := joinedEpoch,
    deadline := 0, member := payout.recipient,
    withdrawalCommitment := withdrawalLeafV5 sampleDigest 9 8 7 payout }

def sampleFounder : RosterMemberV5 := { index := 0, member := 0xa1, joinedEpoch := 1 }

def sampleJoiner : RosterMemberV5 := { index := 1, member := 0xa2, joinedEpoch := 2 }

/-- A second approver joins. -/
def sampleJoining : AcceptedRoster sampleDigest where
  input := sampleUnanimousBatch 1 5 [sampleFounder] [sampleFounder, sampleJoiner]
    [sampleAddition 6 1 2 0xa2] []
  callers := Std.ExtTreeSet.ofList [0xa1] compare
  accepted := by decide +kernel

/-- The first approver leaves. -/
def sampleLeaving : AcceptedRoster sampleDigest where
  input :=
    let payout : WithdrawalV5 :=
      { index := 0, rosterEpoch := 3, recipient := 0xa1, asset := 0, amount := 5 }
    sampleUnanimousBatch 2 6 [sampleFounder, sampleJoiner] [sampleJoiner]
      [sampleRemoval 7 1 payout] [payout]
  callers := Std.ExtTreeSet.ofList [0xa1, 0xa2] compare
  accepted := by decide +kernel

theorem roster_lifecycle_sample :
    UnanimousTransition sampleLeaving.input ∧
      AcceptedRoster.InEpoch sampleLeaving.input.postRoster 3 ∧
      [sampleJoining, sampleLeaving].flatMap AcceptedRoster.requestIds = [6, 7] := by
  obtain ⟨single, run⟩ := roster_lifecycle sampleDigest
  obtain ⟨inEpoch, requests⟩ := run sampleJoining sampleLeaving [sampleLeaving]
    (by simp only [List.isChain_cons_cons, List.isChain_singleton, and_true]; exact ⟨rfl, rfl, rfl⟩)
    rfl (by decide +kernel)
  refine ⟨single sampleLeaving rfl, ?_, requests⟩
  exact (inEpoch sampleLeaving (List.mem_cons_of_mem _ List.mem_cons_self)).2

end Zkdeal

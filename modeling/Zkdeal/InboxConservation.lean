/-
This file is about the value an inbox segment brings into a seven-member room.

Every entry is refunded, skipped or consumed, and only a consumed one credits its
deposits, all of them to the account it names. The segment as a whole is therefore
one run over the credits of its consumed entries, and what it raises is the sum of
them. The join requests it consumes are those of the activations, one each.

The number of entries is compared with the distance of the two cursors after that has
been cut to the width of a machine word. A distance that does not fit is covered by
too few entries.
-/

import Zkdeal.ExitAuthentication
import Zkdeal.InboxCredits
import Zkdeal.Membership
import Zkdeal.Settlement.Inbox

namespace Zkdeal

open Words Guard Maps

/-! ### What becomes of an entry -/

section Entries

variable {activated : BTreeMap U64 MembershipDeltaWitnessV4}
  {preRoster postRoster : List MemberSlotWitnessV4} {entry : InboxEntryWitnessV4}
  {resolution : InboxResolution}

/-- A top-up that has not been refunded is consumed when its account sits in its slot. -/
theorem resolveDeposit_cases (resolved : resolveDeposit preRoster entry = .ok resolution) :
    entry.beneficiarySlot.toNat < maxMembers ∧
      (entry.status = inboxRefunded ∧ resolution = .refunded ∨
        entry.status ≠ inboxRefunded ∧
          (((preRoster.getD entry.beneficiarySlot.toNat default).state ≠ memberActive ∨
              (preRoster.getD entry.beneficiarySlot.toNat default).account ≠ entry.account) ∧
              resolution = .skipped ∨
            ((preRoster.getD entry.beneficiarySlot.toNat default).state = memberActive ∧
              (preRoster.getD entry.beneficiarySlot.toNat default).account = entry.account) ∧
              resolution = .consumed entry.account)) := by
  obtain ⟨formed, resolved⟩ := refuse_bind_eq_ok.mp resolved
  refine ⟨Nat.lt_of_not_le fun beyond => formed (.inr beyond), ?_⟩
  dsimp only at resolved
  split_ifs at resolved with refunded elsewhere
  · exact .inl ⟨refunded, (pure_eq_ok.mp resolved).symm⟩
  · exact .inr ⟨refunded, .inl ⟨elsewhere, (pure_eq_ok.mp resolved).symm⟩⟩
  · rw [not_or, not_not, not_not] at elsewhere
    refine .inr ⟨refunded, .inr ⟨elsewhere, ?_⟩⟩
    rw [← pure_eq_ok.mp resolved, elsewhere.2]

/-- A join request is consumed by an activation of its account, and by no other. -/
theorem resolveJoin_cases (resolved : resolveJoin activated postRoster entry = .ok resolution) :
    entry.status = inboxRefunded ∧ resolution = .refunded ∨
      entry.status ≠ inboxRefunded ∧
        (resolution = .skipped ∨ ∃ delta, activated[entry.index]? = some delta ∧
          delta.member = entry.account ∧ resolution = .consumed entry.account) := by
  obtain ⟨-, resolved⟩ := refuse_bind_eq_ok.mp resolved
  split at resolved
  case h_1 => cases resolved
  case h_2 refunded _ =>
    exact .inl ⟨of_decide_eq_true refunded, (pure_eq_ok.mp resolved).symm⟩
  case h_3 pending _ =>
    exact .inr ⟨of_decide_eq_false pending, .inl (pure_eq_ok.mp resolved).symm⟩
  case h_4 delta pending named =>
    obtain ⟨same, resolved⟩ := refuse_bind_eq_ok.mp resolved
    obtain ⟨seated, resolved⟩ := refuse_bind_eq_ok.mp resolved
    rw [not_or, not_not, not_not] at seated
    refine .inr ⟨of_decide_eq_false pending, .inr ⟨delta, named, not_not.mp same, ?_⟩⟩
    rw [← pure_eq_ok.mp resolved, seated.2]

/-- An entry that is resolved is a top-up or a join request. -/
theorem resolveEntry_kind
    (resolved : resolveEntry activated preRoster postRoster entry = .ok resolution) :
    entry.kind = inboxDeposit ∧ resolveDeposit preRoster entry = .ok resolution ∨
      entry.kind = inboxJoin ∧ resolveJoin activated postRoster entry = .ok resolution := by
  unfold resolveEntry at resolved
  split_ifs at resolved with deposit join
  · exact .inl ⟨deposit, resolved⟩
  · exact .inr ⟨join, resolved⟩

/-- An entry that was refunded stays so; any other is skipped, or consumed for its account. -/
theorem resolveEntry_cases
    (resolved : resolveEntry activated preRoster postRoster entry = .ok resolution) :
    entry.status = inboxRefunded ∧ resolution = .refunded ∨
      entry.status ≠ inboxRefunded ∧
        (resolution = .skipped ∨ resolution = .consumed entry.account) := by
  rcases resolveEntry_kind resolved with ⟨-, resolved⟩ | ⟨-, resolved⟩
  · rcases (resolveDeposit_cases resolved).2 with kept | ⟨pending, ⟨-, skipped⟩ | ⟨-, consumed⟩⟩
    · exact .inl kept
    · exact .inr ⟨pending, .inl skipped⟩
    · exact .inr ⟨pending, .inr consumed⟩
  · rcases resolveJoin_cases resolved with kept | ⟨pending, skipped | ⟨-, -, -, consumed⟩⟩
    · exact .inl kept
    · exact .inr ⟨pending, .inl skipped⟩
    · exact .inr ⟨pending, .inr consumed⟩

variable (activated preRoster postRoster)

/-- The entry is resolved as consumed. -/
def consumes (entry : InboxEntryWitnessV4) : Bool :=
  match resolveEntry activated preRoster postRoster entry with
  | .ok (.consumed _) => true
  | _ => false

/-- The entry with the status it is resolved to. -/
def asResolved (entry : InboxEntryWitnessV4) : InboxEntryWitnessV4 :=
  { entry with
    status :=
      if consumes activated preRoster postRoster entry then inboxConsumed
      else if entry.status = inboxRefunded then inboxRefunded else inboxSkipped }

/-- The entries that are resolved as consumed. -/
def consumedEntries (entries : List InboxEntryWitnessV4) : List InboxEntryWitnessV4 :=
  entries.filter (consumes activated preRoster postRoster)

/-- The join requests among them. -/
def consumedRequests (entries : List InboxEntryWitnessV4) : List InboxEntryWitnessV4 :=
  (consumedEntries activated preRoster postRoster entries).filter fun entry =>
    entry.kind == inboxJoin

/-- The deposits of an entry, credited to its account. -/
def entryCredits (entry : InboxEntryWitnessV4) : List InboxCredit :=
  entry.deposits.map fun deposit => ⟨deposit.assetId, entry.account, deposit.amount⟩

/-- The deposits of the consumed entries of a segment. -/
def inboxCredits (entries : List InboxEntryWitnessV4) : List InboxCredit :=
  (consumedEntries activated preRoster postRoster entries).flatMap entryCredits

variable {activated preRoster postRoster}

theorem consumes_eq_true : consumes activated preRoster postRoster entry = true ↔
    ∃ recipient,
      resolveEntry activated preRoster postRoster entry = .ok (.consumed recipient) := by
  unfold consumes
  split
  case h_1 recipient resolved => exact iff_of_true rfl ⟨recipient, resolved⟩
  case h_2 other => exact iff_of_false Bool.false_ne_true fun ⟨recipient, same⟩ => other _ same

theorem consumes_of_resolved
    (resolved : resolveEntry activated preRoster postRoster entry = .ok resolution) :
    consumes activated preRoster postRoster entry = true ↔
      ∃ recipient, resolution = .consumed recipient := by
  rw [consumes_eq_true, resolved]
  simp only [Except.ok.injEq]

/-- What happens to a top-up of an accepted roster. -/
theorem consumes_deposit_iff (deposit : entry.kind = inboxDeposit)
    (status : entry.status = inboxPending ∨ entry.status = inboxRefunded)
    (seats : preRoster.length = maxMembers)
    (resolved : resolveEntry activated preRoster postRoster entry = .ok resolution) :
    consumes activated preRoster postRoster entry = true ↔
      entry.status = inboxPending ∧ ∃ member,
        preRoster[entry.beneficiarySlot.toNat]? = some member ∧
          member.state = memberActive ∧ member.account = entry.account := by
  rw [consumes_of_resolved resolved]
  rcases resolveEntry_kind resolved with ⟨-, resolved⟩ | ⟨join, -⟩
  · obtain ⟨inside, outcome⟩ := resolveDeposit_cases resolved
    rw [← seats] at inside
    have found := List.getElem?_eq_getElem inside
    rw [List.getD_eq_getElem _ _ inside] at outcome
    rw [found]
    rcases outcome with ⟨refunded, rfl⟩ | ⟨kept, ⟨elsewhere, rfl⟩ | ⟨⟨active, own⟩, rfl⟩⟩
    · refine iff_of_false (by simp) ?_
      rintro ⟨pending, -⟩
      exact absurd (pending.symm.trans refunded) (by decide)
    · refine iff_of_false (by simp) ?_
      rintro ⟨-, member, same, active, own⟩
      cases Option.some.inj same
      exact elsewhere.elim (fun free => free active) fun other => other own
    · exact iff_of_true ⟨_, rfl⟩ ⟨status.resolve_right kept, _, rfl, active, own⟩
  · exact absurd (deposit.symm.trans join) (by decide)

end Entries

/-! ### The segment -/

section Segment

variable {primitives : Primitives} {program : ExitProgramV4}
  {activated : BTreeMap U64 MembershipDeltaWitnessV4}
  {preRoster postRoster : List MemberSlotWitnessV4} {cursorBefore : U64}

/-- What an entry that passed says about itself. -/
structure EntryAccepted (activated : BTreeMap U64 MembershipDeltaWitnessV4)
    (preRoster postRoster : List MemberSlotWitnessV4) (cursorBefore : U64)
    (item : InboxEntryWitnessV4 × Nat) : Prop where
  index : cursorBefore.toNat + (item.2 + 1) = item.1.index.toNat
  status : item.1.status = inboxPending ∨ item.1.status = inboxRefunded
  resolved : ∃ resolution,
    resolveEntry activated preRoster postRoster item.1 = .ok resolution

theorem checkEntry_eq_ok {item : InboxEntryWitnessV4 × Nat}
    (checked : checkEntry program cursorBefore item = .ok ()) :
    cursorBefore.toNat + (item.2 + 1) = item.1.index.toNat ∧
      (item.1.status = inboxPending ∨ item.1.status = inboxRefunded) := by
  obtain ⟨expected, advanced, checked⟩ := bind_eq_ok.mp checked
  obtain ⟨same, checked⟩ := refuse_bind_eq_ok.mp checked
  obtain ⟨-, checked⟩ := refuse_bind_eq_ok.mp checked
  obtain ⟨status, -⟩ := refuse_bind_eq_ok.mp checked
  constructor
  · rw [not_not.mp same]
    exact checkedAdvance_eq_some.mp (orRefuse_eq_ok.mp advanced)
  · rw [not_and_or, not_not, not_not] at status
    exact status

/-- Credits, consumed join requests and statuses of the entries so far. -/
structure SegmentApplied (primitives : Primitives) (program : ExitProgramV4)
    (activated : BTreeMap U64 MembershipDeltaWitnessV4)
    (preRoster postRoster : List MemberSlotWitnessV4) (entries : List InboxEntryWitnessV4)
    (before after : InboxProgress) : Prop where
  credited : (inboxCredits activated preRoster postRoster entries).foldlM
    (applyCredit primitives.keccak256 program) before.state = .ok after.state
  joined : after.consumedJoins =
    (consumedRequests activated preRoster postRoster entries).foldl
      (fun joined entry => joined.insert entry.index) before.consumedJoins
  recorded : after.resolvedEntries =
    before.resolvedEntries ++ entries.map (asResolved activated preRoster postRoster)

theorem segmentApplied_of_idle {entries : List InboxEntryWitnessV4} {before after : InboxProgress}
    (idle : consumedEntries activated preRoster postRoster entries = [])
    (state : after.state = before.state) (joined : after.consumedJoins = before.consumedJoins)
    (recorded : after.resolvedEntries =
      before.resolvedEntries ++ entries.map (asResolved activated preRoster postRoster)) :
    SegmentApplied primitives program activated preRoster postRoster entries before after := by
  refine ⟨?_, ?_, recorded⟩
  · rw [inboxCredits, idle, state]
    rfl
  · rw [consumedRequests, idle, joined]
    rfl

/-- One entry: either nothing but its resolution is recorded, or its deposits are credited. -/
theorem applyEntry_spec {item : InboxEntryWitnessV4 × Nat} {before after : InboxProgress}
    (ran : applyEntry primitives program activated preRoster postRoster cursorBefore before item =
      .ok after) :
    EntryAccepted activated preRoster postRoster cursorBefore item ∧
      SegmentApplied primitives program activated preRoster postRoster [item.1] before after := by
  obtain ⟨⟨⟩, checked, ran⟩ := bind_eq_ok.mp ran
  obtain ⟨resolution, resolved, ran⟩ := bind_eq_ok.mp ran
  obtain ⟨index, status⟩ := checkEntry_eq_ok checked
  refine ⟨⟨index, status, resolution, resolved⟩, ?_⟩
  have consumed := consumes_of_resolved resolved
  rcases resolveEntry_cases resolved with ⟨kept, rfl⟩ | ⟨pending, rfl | rfl⟩
  · have idle : ¬ consumes activated preRoster postRoster item.1 = true := by simp [consumed]
    cases pure_eq_ok.mp ran
    refine segmentApplied_of_idle (List.filter_cons_of_neg idle) rfl rfl ?_
    rw [List.map_singleton, asResolved, if_neg idle, if_pos kept, ← kept]
  · have idle : ¬ consumes activated preRoster postRoster item.1 = true := by simp [consumed]
    cases pure_eq_ok.mp ran
    refine segmentApplied_of_idle (List.filter_cons_of_neg idle) rfl rfl ?_
    rw [List.map_singleton, asResolved, if_neg idle, if_neg pending]
  · have holds := consumed.mpr ⟨_, rfl⟩
    have listed : consumedEntries activated preRoster postRoster [item.1] = [item.1] :=
      List.filter_cons_of_pos holds
    obtain ⟨credited, run, ran⟩ := bind_eq_ok.mp ran
    cases pure_eq_ok.mp ran
    refine ⟨?_, ?_, ?_⟩
    · rw [inboxCredits, listed, List.flatMap_singleton, entryCredits, List.foldlM_map]
      exact run
    · rw [consumedRequests, listed, List.filter_singleton]
      by_cases join : item.1.kind = inboxJoin
      · rw [if_pos join, join, beq_self_eq_true]
        rfl
      · rw [if_neg join, beq_eq_false_iff_ne.mpr join]
        rfl
    · rw [List.map_singleton, asResolved, if_pos holds]

theorem SegmentApplied.concat {consumed entries : List InboxEntryWitnessV4}
    {before middle after : InboxProgress}
    (front : SegmentApplied primitives program activated preRoster postRoster consumed before
      middle)
    (back : SegmentApplied primitives program activated preRoster postRoster entries middle
      after) :
    SegmentApplied primitives program activated preRoster postRoster (consumed ++ entries) before
      after := by
  refine ⟨?_, ?_, ?_⟩
  · rw [inboxCredits, consumedEntries, List.filter_append, List.flatMap_append,
      List.foldlM_append]
    exact bind_eq_ok.mpr ⟨_, front.credited, back.credited⟩
  · rw [consumedRequests, consumedEntries, List.filter_append, List.filter_append,
      List.foldl_append, back.joined, front.joined]
    rfl
  · rw [back.recorded, front.recorded, List.map_append, List.append_assoc]

/-- The whole loop. -/
theorem applyEntries_spec {entries : List InboxEntryWitnessV4} {start finish : InboxProgress}
    (ran : entries.zipIdx.foldlM
      (applyEntry primitives program activated preRoster postRoster cursorBefore) start =
        .ok finish) :
    (∀ item ∈ entries.zipIdx, EntryAccepted activated preRoster postRoster cursorBefore item) ∧
      SegmentApplied primitives program activated preRoster postRoster entries start finish := by
  refine ⟨foldlM_forall ran fun item before after stepped => (applyEntry_spec stepped).1, ?_⟩
  have applied := foldlM_invariant (fun items progress => SegmentApplied primitives program
    activated preRoster postRoster (items.map Prod.fst) start progress) ran
    (segmentApplied_of_idle rfl rfl rfl (List.append_nil _).symm)
    fun consumed item before after front stepped => by
      rw [List.map_append]
      exact front.concat (applyEntry_spec stepped).2
  rwa [List.zipIdx_map_fst] at applied

/-- The entries are numbered from the cursor on. -/
theorem indices_of_accepted {entries : List InboxEntryWitnessV4}
    (accepted : ∀ item ∈ entries.zipIdx,
      EntryAccepted activated preRoster postRoster cursorBefore item) :
    entries.map (fun entry => entry.index.toNat) =
      List.range' (cursorBefore.toNat + 1) entries.length := by
  refine List.ext_getElem (by rw [List.length_map, List.length_range']) ?_
  intro position inside _
  rw [List.length_map] at inside
  have numbered := (accepted (entries[position], position)
    (List.mem_zipIdx_iff_getElem?.mpr (List.getElem?_eq_getElem inside))).index
  rw [List.getElem_map, List.getElem_range', ← numbered]
  omega

end Segment

/-! ### Activations -/

section Activations

variable {deltas : List MembershipDeltaWitnessV4}
  {preRoster postRoster : List MemberSlotWitnessV4} {entries : List InboxEntryWitnessV4}

theorem activationsByRequest_eq_some {index : U64} {delta : MembershipDeltaWitnessV4}
    (found : (activationsByRequest deltas)[index]? = some delta) :
    delta ∈ activations deltas ∧ delta.joinRequestIndex = index := by
  have entered : ∀ (other : U64) (found : MembershipDeltaWitnessV4),
      (activationsByRequest deltas)[other]? = some found →
        found ∈ activations deltas ∧ found.joinRequestIndex = other := by
    refine forall_getElem?_foldl_insert (fun other found lookup => ?_)
      fun delta member => ⟨member, rfl⟩
    rw [Std.ExtTreeMap.getElem?_empty] at lookup
    cases lookup
  exact entered index delta found

/-- Every consumed join request is named by an activation of its account. -/
theorem consumedRequests_subset :
    (consumedRequests (activationsByRequest deltas) preRoster postRoster entries).map
        (fun entry => (entry.index, entry.account)) ⊆
      (activations deltas).map fun delta => (delta.joinRequestIndex, delta.member) := by
  intro pair listed
  obtain ⟨entry, member, rfl⟩ := List.mem_map.mp listed
  obtain ⟨consumed, join⟩ := List.mem_filter.mp member
  obtain ⟨recipient, resolved⟩ := consumes_eq_true.mp (List.mem_filter.mp consumed).2
  rw [beq_iff_eq] at join
  rcases resolveEntry_kind resolved with ⟨deposit, -⟩ | ⟨-, resolved⟩
  · exact absurd (deposit.symm.trans join) (by decide)
  · rcases resolveJoin_cases resolved with ⟨-, other⟩ | ⟨-, other | ⟨delta, found, same, -⟩⟩
    · cases other
    · cases other
    · obtain ⟨activation, named⟩ := activationsByRequest_eq_some found
      refine List.mem_map.mpr ⟨delta, activation, ?_⟩
      rw [named, same]

theorem nodup_consumedRequests {activated : BTreeMap U64 MembershipDeltaWitnessV4} {first : Nat}
    (indices : entries.map (fun entry => entry.index.toNat) =
      List.range' first entries.length) :
    ((consumedRequests activated preRoster postRoster entries).map
      InboxEntryWitnessV4.index).Nodup := by
  have numbered : (entries.map InboxEntryWitnessV4.index).Nodup := by
    refine List.Nodup.of_map BitVec.toNat ?_
    rw [List.map_map]
    exact indices ▸ List.nodup_range'
  exact numbered.sublist ((List.filter_sublist.trans List.filter_sublist).map _)

/-- As many join requests are consumed as there are activations, so that each activation has
its own. -/
theorem activations_perm {first : Nat}
    (indices : entries.map (fun entry => entry.index.toNat) =
      List.range' first entries.length)
    (counted : (consumedRequests (activationsByRequest deltas) preRoster postRoster
      entries).length = (activations deltas).length) :
    ((activations deltas).map fun delta => (delta.joinRequestIndex, delta.member)).Perm
      ((consumedRequests (activationsByRequest deltas) preRoster postRoster entries).map
        fun entry => (entry.index, entry.account)) := by
  have distinct : ((consumedRequests (activationsByRequest deltas) preRoster postRoster
      entries).map fun entry => (entry.index, entry.account)).Nodup := by
    refine List.Nodup.of_map Prod.fst ?_
    rw [List.map_map]
    exact nodup_consumedRequests indices
  refine ((distinct.subperm consumedRequests_subset).perm_of_length_le ?_).symm
  rw [List.length_map, List.length_map, counted]

end Activations

/-! ### Conservation -/

/-- The entries of a segment have the numbers after one cursor up to the other one. -/
def CoversCursors (entries : List InboxEntryWitnessV4) (cursorBefore cursorAfter : U64) : Prop :=
  entries.map (fun entry => entry.index.toNat) =
    List.range' (cursorBefore.toNat + 1) (cursorAfter.toNat - cursorBefore.toNat)

/-- What an applied segment keeps. Its hash is that of the entries with the statuses they are
resolved to. Its credits are the deposits of its consumed entries, and what they raise is their
sum, in each slot of the state and in each asset, the native one of a parsed program among them;
an entry that is not consumed changes no state; a top-up is consumed when its depositor sits in
its slot; and every activation has its own join request. -/
structure InboxConserves (primitives : Primitives) (program : ExitProgramV4)
    (entries : List InboxEntryWitnessV4) (deltas : List MembershipDeltaWitnessV4)
    (preRoster postRoster : List MemberSlotWitnessV4) (cursorBefore : U64)
    (before after : StateMap) (hash : B256) : Prop where
  hashed : hash = hashInboxEntriesV4 primitives.keccak256
    (entries.map (asResolved (activationsByRequest deltas) preRoster postRoster))
  credited : (inboxCredits (activationsByRequest deltas) preRoster postRoster entries).foldlM
    (applyCredit primitives.keccak256 program) before = .ok after
  raised : RaisedBy primitives.keccak256 program
    (inboxCredits (activationsByRequest deltas) preRoster postRoster entries) before after
  assets : AssetsRaised primitives.keccak256 program
    (inboxCredits (activationsByRequest deltas) preRoster postRoster entries) before after
  native : ∀ json canonicalJson policy,
    ExitProgramV4.parse json primitives.keccak256 canonicalJson policy = .ok program →
    NativeRaised program (inboxCredits (activationsByRequest deltas) preRoster postRoster entries)
      before after
  untouched : ∀ progress item next, applyEntry primitives program (activationsByRequest deltas)
    preRoster postRoster cursorBefore progress item = .ok next →
    consumes (activationsByRequest deltas) preRoster postRoster item.1 = false →
    next.state = progress.state
  deposits : ∀ entry ∈ entries, entry.kind = inboxDeposit →
    (consumes (activationsByRequest deltas) preRoster postRoster entry = true ↔
      entry.status = inboxPending ∧ ∃ member,
        preRoster[entry.beneficiarySlot.toNat]? = some member ∧
          member.state = memberActive ∧ member.account = entry.account)
  joins : ((activations deltas).map fun delta => (delta.joinRequestIndex, delta.member)).Perm
    ((consumedRequests (activationsByRequest deltas) preRoster postRoster entries).map
      fun entry => (entry.index, entry.account))
  distinct : ((activations deltas).map MembershipDeltaWitnessV4.joinRequestIndex).Nodup

theorem applyEntry_untouched {primitives : Primitives} {program : ExitProgramV4}
    {activated : BTreeMap U64 MembershipDeltaWitnessV4}
    {preRoster postRoster : List MemberSlotWitnessV4} {cursorBefore : U64}
    {item : InboxEntryWitnessV4 × Nat} {before after : InboxProgress}
    (ran : applyEntry primitives program activated preRoster postRoster cursorBefore before item =
      .ok after)
    (idle : consumes activated preRoster postRoster item.1 = false) :
    after.state = before.state := by
  have credited := (applyEntry_spec ran).2.credited
  have none : consumedEntries activated preRoster postRoster [item.1] = [] :=
    List.filter_cons_of_neg (by rw [idle]; exact Bool.false_ne_true)
  rw [inboxCredits, none] at credited
  exact (foldlM_nil_eq_ok.mp credited).symm

/-- An applied segment keeps all of this, whatever its cursors. -/
theorem applyInboxV4_spec {primitives : Primitives} {program : ExitProgramV4}
    {before after : StateMap} {entries : List InboxEntryWitnessV4}
    {deltas : List MembershipDeltaWitnessV4} {preRoster postRoster : List MemberSlotWitnessV4}
    {cursorBefore cursorAfter : U64} {hash : B256} (seats : preRoster.length = maxMembers)
    (applied : applyInboxV4 primitives program before entries deltas preRoster postRoster
      cursorBefore cursorAfter = .ok (after, hash)) :
    ¬ cursorAfter < cursorBefore ∧
      entries.length = (cursorAfter - cursorBefore).toNat % 2 ^ primitives.usizeBits ∧
      entries.map (fun entry => entry.index.toNat) =
        List.range' (cursorBefore.toNat + 1) entries.length ∧
      InboxConserves primitives program entries deltas preRoster postRoster cursorBefore before
        after hash := by
  obtain ⟨forward, applied⟩ := refuse_bind_eq_ok.mp applied
  obtain ⟨covered, applied⟩ := refuse_bind_eq_ok.mp applied
  obtain ⟨unique, applied⟩ := refuse_bind_eq_ok.mp applied
  obtain ⟨progress, ran, applied⟩ := bind_eq_ok.mp applied
  obtain ⟨matched, applied⟩ := refuse_bind_eq_ok.mp applied
  cases pure_eq_ok.mp applied
  obtain ⟨accepted, segment⟩ := applyEntries_spec ran
  have indices := indices_of_accepted accepted
  have raised := applyCredits_raisedBy segment.credited
  have different : ((consumedRequests (activationsByRequest deltas) preRoster postRoster
      entries).map InboxEntryWitnessV4.index).Nodup := nodup_consumedRequests indices
  have size : progress.consumedJoins.size =
      (consumedRequests (activationsByRequest deltas) preRoster postRoster entries).length := by
    rw [segment.joined, size_foldl_insert different fun _ _ => Std.ExtTreeSet.contains_empty,
      Std.ExtTreeSet.size_empty, Nat.zero_add]
  have joins := activations_perm indices
    (size.symm.trans ((not_not.mp matched).trans (not_not.mp unique)))
  refine ⟨forward, not_not.mp covered, indices, congrArg _ segment.recorded, segment.credited,
    raised, raised.assetsRaised,
    fun _ _ _ parsed => raised.assetsRaised.native (oneNative_of_parse parsed),
    fun _ _ _ stepped idle => applyEntry_untouched stepped idle, fun entry member deposit => ?_,
    joins, ?_⟩
  · obtain ⟨position, listed⟩ := exists_mem_zipIdx member
    have passed := accepted _ listed
    obtain ⟨resolution, resolved⟩ := passed.resolved
    exact consumes_deposit_iff deposit passed.status seats resolved
  · have named := joins.map Prod.fst
    rw [List.map_map, List.map_map] at named
    exact named.nodup_iff.mpr different

/-- Numbers after a cursor end at the other one when they are as many as its distance. -/
theorem coversCursors_iff {entries : List InboxEntryWitnessV4} {cursorBefore cursorAfter : U64}
    (indices : entries.map (fun entry => entry.index.toNat) =
      List.range' (cursorBefore.toNat + 1) entries.length) :
    CoversCursors entries cursorBefore cursorAfter ↔
      entries.length = cursorAfter.toNat - cursorBefore.toNat := by
  rw [CoversCursors, indices]
  constructor
  · intro same
    have lengths := congrArg List.length same
    rwa [List.length_range', List.length_range'] at lengths
  · exact fun same => by rw [same]

/-- A segment that was applied under an accepted membership transition conserves what its
entries brought, and its entries reach from the one cursor to the other one exactly when the
distance of the cursors fits into a machine word. -/
theorem inbox_conservation_iff {primitives : Primitives} {program : ExitProgramV4}
    {before after : StateMap} {entries : List InboxEntryWitnessV4} {step : MembershipStep}
    {cursorBefore cursorAfter : U64} {hash : B256}
    (validated : step.Accepted primitives.keccak256)
    (applied : applyInboxV4 primitives program before entries step.deltas step.before step.after
      cursorBefore cursorAfter = .ok (after, hash)) :
    (CoversCursors entries cursorBefore cursorAfter ∧
        InboxConserves primitives program entries step.deltas step.before step.after cursorBefore
          before after hash ↔
      cursorAfter.toNat - cursorBefore.toNat < 2 ^ primitives.usizeBits) ∧
    InboxConserves primitives program entries step.deltas step.before step.after cursorBefore
      before after hash := by
  obtain ⟨forward, covered, indices, conserves⟩ :=
    applyInboxV4_spec validated.valid.opens.length applied
  refine ⟨?_, conserves⟩
  have ordered : cursorBefore ≤ cursorAfter := BitVec.not_lt.mp forward
  rw [and_iff_left conserves, coversCursors_iff indices, covered, BitVec.toNat_sub_of_le ordered]
  exact Nat.mod_eq_iff_lt (Nat.two_pow_pos _).ne'

/-- A room with the native asset only. -/
def sampleNativeProgram : ExitProgramV4 := ⟨[⟨0, .native⟩], []⟩

/-- The join request of the second member, and a top-up of the first one. -/
def sampleSegment : List InboxEntryWitnessV4 :=
  [⟨3, inboxJoin, 12, joinSlotSentinel, inboxPending, [⟨0, 25⟩]⟩,
    ⟨4, inboxDeposit, 11, 0, inboxPending, [⟨0, 7⟩]⟩]

/-- The opening state of the segment, in which only the first member holds anything. -/
def sampleInboxState : StateMap :=
  ⟨Std.ExtTreeMap.ofList [(11, { (default : AccountRecord) with balance := 40 })] compare, ∅, none,
    none, none, ∅, ∅, default⟩

theorem inbox_conservation_iff_sample :
    ∃ after hash, applyInboxV4 samplePrimitives sampleNativeProgram sampleInboxState sampleSegment
        sampleJoin.deltas sampleJoin.before sampleJoin.after 2 4 = .ok (after, hash) ∧
      CoversCursors sampleSegment 2 4 ∧
      hash = hashInboxEntriesV4 sampleDigest
        (sampleSegment.map fun entry => { entry with status := inboxConsumed }) ∧
      (after.nativeBalance 11).toNat = 47 ∧ (after.nativeBalance 12).toNat = 25 := by
  have joins : sampleJoin.Accepted samplePrimitives.keccak256 :=
    exists_eq_ok_of_isSome (by decide +kernel)
  obtain ⟨⟨after, hash⟩, applied⟩ : ∃ applied, applyInboxV4 samplePrimitives sampleNativeProgram
      sampleInboxState sampleSegment sampleJoin.deltas sampleJoin.before sampleJoin.after 2 4 =
        .ok applied := exists_eq_ok_of_isSome (by decide +kernel)
  have fits : (4 : U64).toNat - (2 : U64).toNat < 2 ^ samplePrimitives.usizeBits :=
    Nat.lt_trans (by decide : (4 : U64).toNat - (2 : U64).toNat < 32) Nat.lt_two_pow_self
  have parsed : ExitProgramV4.parse (sampleJson [(sampleNativeDocument, sampleNativeJson)] [])
      sampleDigest sampleNativeDocument (sampleOpenPolicy (sampleDigest sampleNativeDocument)) =
        .ok sampleNativeProgram := by decide +kernel
  obtain ⟨covers, conserves⟩ := inbox_conservation_iff joins applied
  have raised := (conserves.native _ _ _ parsed 0 (by decide +kernel)).1
  refine ⟨after, hash, applied, (covers.mpr fits).1, conserves.hashed.trans ?_, ?_, ?_⟩
  · decide +kernel
  · rw [raised]
    decide +kernel
  · rw [raised]
    decide +kernel

/-- A transition in which no member comes or goes. -/
def sampleQuiet : MembershipStep := sampleMembership 7 sampleLeave.after sampleLeave.after []

/-- Cursors that are a whole machine word apart are accepted without any entry. -/
theorem inbox_conservation_uncovered :
    sampleQuiet.Accepted samplePrimitives.keccak256 ∧
      (∃ applied, applyInboxV4 samplePrimitives sampleNativeProgram sampleInboxState []
        sampleQuiet.deltas sampleQuiet.before sampleQuiet.after 0 4294967296 = .ok applied) ∧
      ¬ CoversCursors [] 0 4294967296 := by
  refine ⟨exists_eq_ok_of_isSome (by decide +kernel), exists_eq_ok_of_isSome (by decide +kernel),
    fun covers => ?_⟩
  have lengths := congrArg List.length covers
  rw [List.map_nil, List.length_nil, List.length_range'] at lengths
  exact absurd lengths (by decide +kernel)

end Zkdeal

/-
This file is about how many publications of the on-chain heartbeat are in flight.

The loop makes its calls one after the other, but it does not wait for their end: a
timeout only gives up on the wait, and the call it gave up on is still on its way when
the next attempt starts. So two publications overlap exactly when a call that timed out
has not settled by the time the loop calls again. A call that is waited for to its end
never overlaps with another.
-/

import Zkdeal.HeartbeatRuns

namespace Zkdeal

open Guard

/-- The call an event settles. -/
def HeartbeatEvent.settled : HeartbeatEvent → Option Nat
  | .published call _ => some call
  | .publicationThrew call _ => some call
  | _ => none

namespace HeartbeatLoop

variable {settings : HeartbeatSettings} {loop after : HeartbeatLoop} {event : HeartbeatEvent}

/-- The loop once the call an event settles has settled, before anything else happens. -/
def settling (loop : HeartbeatLoop) (event : HeartbeatEvent) : HeartbeatLoop :=
  match event.settled with
  | some call => loop.settle call
  | none => loop

theorem mem_settling {call : Nat} (member : call ∈ loop.outstanding)
    (other : event.settled ≠ some call) : call ∈ (loop.settling event).outstanding := by
  unfold settling
  split
  · rename_i settled same
    have different : call ≠ settled := fun equal => other (same.trans (congrArg some equal.symm))
    exact (List.mem_erase_of_ne different).mpr member
  · exact member

theorem settling_sublist : (loop.settling event).outstanding.Sublist loop.outstanding := by
  unfold settling
  split
  · exact List.erase_sublist
  · exact List.Sublist.refl _

theorem settling_calls : (loop.settling event).calls = loop.calls := by
  unfold settling
  split <;> rfl

/-! ### Calls of a step -/

/-- Nothing is called between two states. -/
def Quietly (loop after : HeartbeatLoop) : Prop :=
  after.calls = loop.calls ∧ after.outstanding = loop.outstanding

/-- The next call is made between two states. -/
def Calls (loop after : HeartbeatLoop) : Prop :=
  after.calls = loop.calls + 1 ∧ after.outstanding = loop.outstanding ++ [loop.calls] ∧
    ∃ number logicalBeat, after.phase = .publishing number logicalBeat loop.calls

theorem attempt_calls (settings : HeartbeatSettings) (loop : HeartbeatLoop) (number : Nat)
    (logicalBeat : Int) : loop.attempt settings number logicalBeat = loop.finish ∨
      loop.Calls (loop.attempt settings number logicalBeat) := by
  unfold attempt
  split
  · exact .inr ⟨rfl, rfl, number, logicalBeat, rfl⟩
  · exact .inl rfl

/-- A failed attempt is followed by a probe or by the end of the beat, never by a call at
once. -/
theorem afterFailure_eq (settings : HeartbeatSettings) (loop : HeartbeatLoop) (number : Nat)
    (logicalBeat : Int) : loop.afterFailure settings number logicalBeat =
      if number = 0 && !loop.stopped then
        { loop.act .probed with phase := .reprobing logicalBeat }
      else loop.finish := by
  unfold afterFailure
  split
  · rfl
  · rename_i last
    refine if_neg fun goes => last ?_
    rw [Bool.and_eq_true, decide_eq_true_iff] at goes ⊢
    exact ⟨by omega, goes.2⟩

theorem afterFailure_quietly (settings : HeartbeatSettings) (loop : HeartbeatLoop) (number : Nat)
    (logicalBeat : Int) : loop.Quietly (loop.afterFailure settings number logicalBeat) := by
  rw [afterFailure_eq]
  split
  · exact ⟨rfl, rfl⟩
  · exact ⟨rfl, rfl⟩

theorem afterFailure_phase (settings : HeartbeatSettings) (loop : HeartbeatLoop) (number : Nat)
    (logicalBeat : Int) (other : Nat) (beat : Int) (call : Nat) :
    (loop.afterFailure settings number logicalBeat).phase ≠ .publishing other beat call := by
  rw [afterFailure_eq]
  split
  · exact nofun
  · exact nofun

/-- A step makes at most one call, after the one it settles has settled; without a call, no
beat begins to wait for one. -/
theorem step_calls (stepped : loop.step settings event = some after) :
    (loop.settling event).Calls after ∨ (loop.settling event).Quietly after ∧
      ∀ number logicalBeat call, after.phase = .publishing number logicalBeat call →
        loop.phase = after.phase := by
  have attempts (start : HeartbeatLoop) (number : Nat) (logicalBeat : Int)
      (same : (loop.settling event).Quietly start) :
      (loop.settling event).Calls (start.attempt settings number logicalBeat) ∨
        (loop.settling event).Quietly (start.attempt settings number logicalBeat) ∧
        ∀ other beat call, (start.attempt settings number logicalBeat).phase =
          .publishing other beat call → loop.phase =
            (start.attempt settings number logicalBeat).phase := by
    rcases attempt_calls settings start number logicalBeat with ended | ⟨calls, outstanding, phase⟩
    · rw [ended]
      exact .inr ⟨same, nofun⟩
    · exact .inl ⟨by rw [calls, same.1], by rw [outstanding, same.1, same.2], same.1 ▸ phase⟩
  have failures (start : HeartbeatLoop) (number : Nat) (logicalBeat : Int)
      (same : (loop.settling event).Quietly start) :
      (loop.settling event).Quietly (start.afterFailure settings number logicalBeat) ∧
        ∀ other beat call, (start.afterFailure settings number logicalBeat).phase =
          .publishing other beat call → loop.phase =
            (start.afterFailure settings number logicalBeat).phase := by
    have quietly := afterFailure_quietly settings start number logicalBeat
    exact ⟨⟨quietly.1.trans same.1, quietly.2.trans same.2⟩, fun other beat call publishing =>
      absurd publishing (afterFailure_phase settings start number logicalBeat other beat call)⟩
  cases step_cases stepped with
  | ticked active =>
    unfold beat
    split
    · exact .inr ⟨⟨rfl, rfl⟩, fun _ _ _ _ => rfl⟩
    · exact .inr ⟨⟨rfl, rfl⟩, nofun⟩
  | stopped => exact .inr ⟨⟨rfl, rfl⟩, fun _ _ _ _ => rfl⟩
  | healthy phase => exact attempts (loop.act _) 0 _ ⟨rfl, rfl⟩
  | sick phase => exact .inr ⟨⟨rfl, rfl⟩, nofun⟩
  | retryHealthy phase => exact .inr ⟨⟨rfl, rfl⟩, nofun⟩
  | retrySick phase => exact attempts (loop.act _) 1 _ ⟨rfl, rfl⟩
  | probeThrew => exact .inr ⟨⟨rfl, rfl⟩, nofun⟩
  | publishedLate => exact .inr ⟨⟨rfl, rfl⟩, fun _ _ _ _ => rfl⟩
  | threwLate => exact .inr ⟨⟨rfl, rfl⟩, fun _ _ _ _ => rfl⟩
  | published phase => exact .inr ⟨⟨rfl, rfl⟩, nofun⟩
  | threw phase => exact .inr (failures ((loop.settle _).act _) _ _ ⟨rfl, rfl⟩)
  | timedOut phase => exact .inr (failures (loop.act _) _ _ ⟨rfl, rfl⟩)
  | succeeded => exact .inr ⟨⟨rfl, rfl⟩, nofun⟩
  | failed phase => exact .inr (failures (loop.act _) _ _ ⟨rfl, rfl⟩)
  | outcomeThrew phase => exact .inr (failures (loop.act _) _ _ ⟨rfl, rfl⟩)
  | delayElapsed phase => exact attempts loop 1 _ ⟨rfl, rfl⟩

/-! ### Loops that keep track of their calls -/

/-- The beat in progress is marked as running, calls in flight have been made, and the call a
beat waits for is in flight and the last one that was made. -/
structure Tracked (loop : HeartbeatLoop) : Prop where
  running : loop.phase ≠ .idle → loop.running = true
  made : ∀ call ∈ loop.outstanding, call < loop.calls
  awaited : ∀ number logicalBeat call, loop.phase = .publishing number logicalBeat call →
    call ∈ loop.outstanding ∧ call + 1 = loop.calls

/-- While a beat waits for a call, it can only go on by the end of the call or by its
timeout, and then it waits for no other call. -/
theorem step_publishing (tracked : loop.Tracked) {number call : Nat} {logicalBeat : Int}
    (phase : loop.phase = .publishing number logicalBeat call)
    (stepped : loop.step settings event = some after) :
    after.phase = loop.phase ∧ event.settled ≠ some call ∨
      (event.settled = some call ∨ event = .publicationTimedOut) ∧
        ∀ other beat next, after.phase ≠ .publishing other beat next := by
  have busy : loop.phase ≠ .idle := by
    intro idle
    cases phase.symm.trans idle
  have own : loop.awaits call = some (number, logicalBeat) := by
    rw [awaits, phase]
    exact if_pos rfl
  have foreign {other : Nat} (different : other ≠ call) : loop.awaits other = none := by
    rw [awaits, phase]
    exact if_neg (Ne.symm different)
  cases event with
  | tick =>
    simp only [step] at stepped
    split at stepped
    · cases stepped
    · have busy : (loop.stopped || loop.running) = true := by
        rw [tracked.running busy, Bool.or_true]
      rw [beat, if_pos busy] at stepped
      exact .inl ⟨by rw [Option.some.inj stepped], (Option.some_ne_none call).symm⟩
  | stop => exact .inl ⟨by rw [← Option.some.inj stepped], (Option.some_ne_none call).symm⟩
  | probeAnswered healthy now =>
    simp only [step, probeAnswered, phase] at stepped
    cases stepped
  | probeThrew =>
    simp only [step, HeartbeatLoop.probeThrew, phase] at stepped
    cases stepped
  | published other publication =>
    simp only [step, HeartbeatLoop.published] at stepped
    split at stepped
    · by_cases same : other = call
      · rw [same, own] at stepped
        refine .inr ⟨.inl (congrArg some same), fun other beat next waiting => ?_⟩
        rw [← Option.some.inj stepped] at waiting
        cases waiting
      · rw [foreign same] at stepped
        refine .inl ⟨?_, fun equal => same (Option.some.inj equal)⟩
        rw [← Option.some.inj stepped]
        rfl
    · cases stepped
  | publicationThrew other message =>
    simp only [step, publicationThrew] at stepped
    split at stepped
    · by_cases same : other = call
      · rw [same, own] at stepped
        refine .inr ⟨.inl (congrArg some same), ?_⟩
        rw [← Option.some.inj stepped]
        exact afterFailure_phase settings _ number logicalBeat
      · rw [foreign same] at stepped
        refine .inl ⟨?_, fun equal => same (Option.some.inj equal)⟩
        rw [← Option.some.inj stepped]
        rfl
    · cases stepped
  | publicationTimedOut =>
    simp only [step, publicationTimedOut, phase] at stepped
    refine .inr ⟨.inr rfl, ?_⟩
    rw [← Option.some.inj stepped]
    exact afterFailure_phase settings _ number logicalBeat
  | outcome result =>
    simp only [step, HeartbeatLoop.outcome, phase] at stepped
    cases stepped
  | outcomeThrew message =>
    simp only [step, HeartbeatLoop.outcomeThrew, phase] at stepped
    cases stepped
  | delayElapsed =>
    simp only [step, HeartbeatLoop.delayElapsed, phase] at stepped
    cases stepped

/-- Only a beat that is marked as running goes on. -/
theorem step_running (tracked : loop.Tracked)
    (stepped : loop.step settings event = some after) :
    after.phase ≠ .idle → after.running = true := by
  have attempts (start : HeartbeatLoop) (number : Nat) (logicalBeat : Int)
      (running : start.running = true) :
      (start.attempt settings number logicalBeat).phase ≠ .idle →
        (start.attempt settings number logicalBeat).running = true := by
    unfold attempt
    split
    · exact fun _ => running
    · exact fun busy => absurd rfl busy
  have failures (start : HeartbeatLoop) (number : Nat) (logicalBeat : Int)
      (running : start.running = true) :
      (start.afterFailure settings number logicalBeat).phase ≠ .idle →
        (start.afterFailure settings number logicalBeat).running = true := by
    rw [afterFailure_eq]
    split
    · exact fun _ => running
    · exact fun busy => absurd rfl busy
  have busy {phase : BeatPhase} (same : loop.phase = phase) (other : phase ≠ .idle) :
      loop.running = true := tracked.running (same ▸ other)
  cases step_cases stepped with
  | ticked active =>
    unfold beat
    split
    · exact tracked.running
    · exact fun _ => rfl
  | stopped => exact tracked.running
  | healthy phase => exact attempts (loop.act _) 0 _ (busy phase nofun)
  | sick phase => exact fun busy => absurd rfl busy
  | retryHealthy phase => exact fun _ => busy phase nofun
  | retrySick phase => exact attempts (loop.act _) 1 _ (busy phase nofun)
  | probeThrew => exact fun busy => absurd rfl busy
  | publishedLate => exact tracked.running
  | threwLate => exact tracked.running
  | published phase => exact fun _ => busy phase nofun
  | threw phase => exact failures ((loop.settle _).act _) _ _ (busy phase nofun)
  | timedOut phase => exact failures (loop.act _) _ _ (busy phase nofun)
  | succeeded => exact fun busy => absurd rfl busy
  | failed phase => exact failures (loop.act _) _ _ (busy phase nofun)
  | outcomeThrew phase => exact failures (loop.act _) _ _ (busy phase nofun)
  | delayElapsed phase => exact attempts loop 1 _ (busy phase nofun)

theorem step_tracked (tracked : loop.Tracked)
    (stepped : loop.step settings event = some after) : after.Tracked := by
  refine ⟨step_running tracked stepped, fun call member => ?_,
    fun number logicalBeat call phase => ?_⟩
  · rcases step_calls stepped with ⟨calls, outstanding, -⟩ | ⟨⟨calls, outstanding⟩, -⟩
    · rw [outstanding] at member
      rw [calls, settling_calls]
      rcases List.mem_append.mp member with old | new
      · exact Nat.lt_succ_of_lt (tracked.made call (settling_sublist.subset old))
      · rw [List.mem_singleton.mp new, settling_calls]
        exact Nat.lt_succ_self _
    · rw [outstanding] at member
      rw [calls, settling_calls]
      exact tracked.made call (settling_sublist.subset member)
  · rcases step_calls stepped with ⟨calls, outstanding, started⟩ | ⟨⟨calls, outstanding⟩, before⟩
    · obtain ⟨other, beat, publishing⟩ := started
      rw [phase] at publishing
      cases publishing
      rw [outstanding, calls]
      exact ⟨List.mem_append_right _ List.mem_cons_self, rfl⟩
    · have earlier := (before number logicalBeat call phase).trans phase
      obtain ⟨member, last⟩ := tracked.awaited number logicalBeat call earlier
      rcases step_publishing tracked earlier stepped with ⟨-, unsettled⟩ | ⟨-, elsewhere⟩
      · rw [outstanding, calls, settling_calls]
        exact ⟨mem_settling member unsettled, last⟩
      · exact absurd phase (elsewhere number logicalBeat call)

theorem start_tracked : start.Tracked :=
  ⟨fun _ => rfl, fun _ member => absurd member List.not_mem_nil, nofun⟩

theorem run_tracked {events : List HeartbeatEvent} (ran : run settings events = some loop) :
    loop.Tracked :=
  foldlM_some_invariant (fun _ state => state.Tracked) ran start_tracked
    fun _ _ _ _ tracked stepped => step_tracked tracked stepped

theorem run_concat {events : List HeartbeatEvent} :
    run settings (events ++ [event]) = some after ↔
      ∃ loop, run settings events = some loop ∧ loop.step settings event = some after := by
  rw [run_append]
  simp only [List.foldlM_cons, List.foldlM_nil, bind_pure]
  exact Option.bind_eq_some_iff

/-! ### Overlaps -/

/-- At most one call is in flight at any moment of the run. -/
def Serialized (settings : HeartbeatSettings) (events : List HeartbeatEvent) : Prop :=
  ∀ before after, events = before ++ after → ∀ loop, run settings before = some loop →
    loop.outstanding.length ≤ 1

/-- A call that timed out settles before the loop makes another one. -/
def LateCallsSettle (settings : HeartbeatSettings) (events : List HeartbeatEvent) : Prop :=
  ∀ before between after, events = before ++ .publicationTimedOut :: (between ++ after) →
    ∀ loop number logicalBeat call later, run settings before = some loop →
      loop.phase = .publishing number logicalBeat call →
      run settings (before ++ .publicationTimedOut :: between) = some later →
      loop.calls < later.calls → ∃ event ∈ between, event.settled = some call

/-- A call in flight that its event does not settle leaves no room for another one. -/
theorem step_unsettled {call : Nat} (member : call ∈ loop.outstanding)
    (unsettled : event.settled ≠ some call) (stepped : loop.step settings event = some after)
    (single : after.outstanding.length ≤ 1) :
    after.calls = loop.calls ∧ call ∈ after.outstanding := by
  have kept := mem_settling member unsettled
  rcases step_calls stepped with ⟨-, outstanding, -⟩ | ⟨⟨calls, outstanding⟩, -⟩
  · have filled := List.length_pos_of_mem kept
    rw [outstanding, List.length_append, List.length_singleton] at single
    omega
  · rw [calls, outstanding, settling_calls]
    exact ⟨rfl, kept⟩

theorem Serialized.lateCallsSettle {events : List HeartbeatEvent}
    (serialized : Serialized settings events) : LateCallsSettle settings events := by
  intro before between after parts loop number logicalBeat call later reached phase ran further
  by_contra settled
  have unsettled : ∀ event ∈ between, event.settled ≠ some call :=
    fun event listed same => settled ⟨event, listed, same⟩
  have member := ((run_tracked reached).awaited number logicalBeat call phase).1
  suffices kept : later.calls = loop.calls ∧ call ∈ later.outstanding by omega
  clear further settled
  induction between using List.reverseRecOn generalizing after later with
  | nil =>
    obtain ⟨start, begun, stepped⟩ := run_concat.mp ran
    cases Option.some.inj (reached.symm.trans begun)
    have timeout : HeartbeatEvent.publicationTimedOut.settled ≠ some call :=
      fun same => Option.some_ne_none call same.symm
    refine step_unsettled member timeout stepped (serialized _ after ?_ later ran)
    rw [parts, List.append_assoc]
    rfl
  | append_singleton between event inductionHypothesis =>
    rw [← List.cons_append, ← List.append_assoc] at ran
    obtain ⟨middle, begun, stepped⟩ := run_concat.mp ran
    obtain ⟨calls, still⟩ := inductionHypothesis (event :: after)
      (by rw [parts, List.append_assoc]; rfl) middle begun
      fun other listed => unsettled other (List.mem_append_left _ listed)
    have next := step_unsettled still (unsettled event (List.mem_append_right _
      List.mem_cons_self)) stepped (serialized _ after ?_ later ran)
    · exact ⟨next.1.trans calls, next.2⟩
    · rw [parts]
      simp only [List.append_assoc, List.cons_append]

/-- A call that timed out during a run and has not settled since. -/
def Overdue (settings : HeartbeatSettings) (events : List HeartbeatEvent) (call : Nat) : Prop :=
  ∃ before between loop number logicalBeat,
    events = before ++ .publicationTimedOut :: between ∧ run settings before = some loop ∧
      loop.phase = .publishing number logicalBeat call ∧
      ∀ event ∈ between, event.settled ≠ some call

theorem LateCallsSettle.of_append {first second : List HeartbeatEvent}
    (settle : LateCallsSettle settings (first ++ second)) : LateCallsSettle settings first := by
  intro before between after parts
  refine settle before between (after ++ second) ?_
  rw [parts, List.append_assoc, List.cons_append, List.append_assoc]

theorem Overdue.concat {events : List HeartbeatEvent} {call : Nat}
    (overdue : Overdue settings events call) (unsettled : event.settled ≠ some call) :
    Overdue settings (events ++ [event]) call := by
  obtain ⟨before, between, start, number, logicalBeat, parts, begun, phase, late⟩ := overdue
  refine ⟨before, between ++ [event], start, number, logicalBeat, ?_, begun, phase, ?_⟩
  · rw [parts, List.append_assoc, List.cons_append]
  · intro other listed
    rcases List.mem_append.mp listed with old | new
    · exact late other old
    · rw [List.mem_singleton.mp new]
      exact unsettled

/-- When late calls settle in time, an overdue call is the last one that was made. -/
theorem Overdue.last {events : List HeartbeatEvent} {call : Nat}
    (overdue : Overdue settings events call) (inTime : LateCallsSettle settings events)
    (ran : run settings events = some loop) : loop.calls ≤ call + 1 := by
  obtain ⟨before, between, start, number, logicalBeat, parts, begun, phase, late⟩ := overdue
  have last := ((run_tracked begun).awaited number logicalBeat call phase).2
  by_contra further
  rw [parts] at ran
  obtain ⟨settler, listed, same⟩ := inTime before between [] (by rw [parts, List.append_nil])
    start number logicalBeat call loop begun phase ran (by omega)
  exact late settler listed same

/-- The beat waits for the call, or the call is overdue. -/
def Accounted (settings : HeartbeatSettings) (events : List HeartbeatEvent) (loop : HeartbeatLoop)
    (call : Nat) : Prop :=
  (∃ number logicalBeat, loop.phase = .publishing number logicalBeat call) ∨
    Overdue settings events call

/-- A call that an event leaves in flight is waited for as before, or becomes or stays
overdue. -/
theorem Accounted.step {events : List HeartbeatEvent} {call : Nat}
    (accounted : Accounted settings events loop call) (reached : run settings events = some loop)
    (unsettled : event.settled ≠ some call) (stepped : loop.step settings event = some after) :
    Accounted settings (events ++ [event]) after call := by
  rcases accounted with ⟨number, logicalBeat, phase⟩ | overdue
  · rcases step_publishing (run_tracked reached) phase stepped with ⟨same, -⟩ | ⟨same | rfl, -⟩
    · exact .inl ⟨number, logicalBeat, same.trans phase⟩
    · exact absurd same unsettled
    · exact .inr ⟨events, [], loop, number, logicalBeat, rfl, reached, phase, nofun⟩
  · exact .inr (overdue.concat unsettled)

/-- The only call in flight is in flight no more once it settles. -/
theorem settling_of_single {call : Nat} (single : loop.outstanding.length ≤ 1)
    (member : call ∈ loop.outstanding) (same : event.settled = some call) :
    (loop.settling event).outstanding = [] := by
  obtain ⟨only, alone⟩ := List.length_eq_one_iff.mp
    (le_antisymm single (List.length_pos_of_mem member))
  have erased : (loop.settling event).outstanding = loop.outstanding.erase call := by
    rw [settling, same]
    rfl
  rw [alone] at member
  rw [erased, alone, List.mem_singleton.mp member, List.erase_cons_head]

/-- When late calls settle in time, a call in flight is accounted for, and alone. -/
theorem run_single {events : List HeartbeatEvent} (ran : run settings events = some loop)
    (inTime : LateCallsSettle settings events) :
    loop.outstanding.length ≤ 1 ∧ ∀ call ∈ loop.outstanding,
      Accounted settings events loop call := by
  induction events using List.reverseRecOn generalizing loop with
  | nil =>
    rw [← Option.some.inj ran]
    exact ⟨Nat.zero_le _, fun _ member => absurd member List.not_mem_nil⟩
  | append_singleton events event inductionHypothesis =>
    obtain ⟨before, reached, stepped⟩ := run_concat.mp ran
    obtain ⟨single, known⟩ := inductionHypothesis reached inTime.of_append
    have carried : ∀ call ∈ (before.settling event).outstanding,
        Accounted settings (events ++ [event]) loop call := by
      intro call member
      have earlier := settling_sublist.subset member
      refine (known call earlier).step reached (fun same => ?_) stepped
      rw [settling_of_single single earlier same] at member
      cases member
    rcases step_calls stepped with ⟨calls, outstanding, started⟩ | ⟨⟨-, outstanding⟩, -⟩
    · obtain ⟨number, logicalBeat, phase⟩ := started
      rw [settling_calls] at calls outstanding phase
      have alone : (before.settling event).outstanding = [] := by
        refine List.eq_nil_iff_forall_not_mem.mpr fun call member => ?_
        have older := (run_tracked reached).made call (settling_sublist.subset member)
        rcases carried call member with ⟨other, beat, publishing⟩ | overdue
        · cases phase.symm.trans publishing
          exact absurd older (lt_irrefl _)
        · have last := overdue.last inTime ran
          omega
      rw [outstanding, alone]
      refine ⟨le_rfl, fun call member => .inl ⟨number, logicalBeat, ?_⟩⟩
      rw [phase, List.mem_singleton.mp member]
    · rw [outstanding]
      exact ⟨settling_sublist.length_le.trans single, carried⟩

end HeartbeatLoop

open HeartbeatLoop in
/-- The publications of a run never overlap exactly when every call that timed out settles
before the loop calls again. -/
theorem heartbeat_serialized_iff (settings : HeartbeatSettings) (events : List HeartbeatEvent) :
    Serialized settings events ↔ LateCallsSettle settings events := by
  constructor
  · exact Serialized.lateCallsSettle
  · intro inTime before after parts loop ran
    rw [parts] at inTime
    exact (run_single ran inTime.of_append).1

open HeartbeatLoop in
/-- A publication that takes longer than its timeout is still in flight when the beat publishes
again. -/
theorem heartbeat_overlaps :
    (default : OnChainHeartbeatOptions).settings = .ok defaultSettings ∧
      ∃ final, run defaultSettings [.probeAnswered true 1900000000000, .publicationTimedOut,
        .probeAnswered true 1900000005000, .delayElapsed] = some final ∧
      final.outstanding = [0, 1] ∧
      ¬ Serialized defaultSettings [.probeAnswered true 1900000000000, .publicationTimedOut,
        .probeAnswered true 1900000005000, .delayElapsed] := by
  refine ⟨by decide, _, rfl, by decide, fun serialized => ?_⟩
  exact absurd (serialized _ [] (List.append_nil _).symm _ rfl) (by decide)

end Zkdeal

/-
This file is about the runs of the on-chain heartbeat: when the loop publishes while
its last health probe said that the prover is sick.

A beat publishes under the answer of its first probe. After a failed attempt it asks
again, but the answer only decides whether the loop waits before the second attempt:
a sick answer skips the delay and the publication follows at once. This is the only
way a heartbeat leaves a sick prover.
-/

import Zkdeal.Library.Guard
import Zkdeal.Agent.Heartbeat

namespace Zkdeal

open Guard

/-! ### Quiet histories -/

/-- The answer a probe leaves behind. -/
def HeartbeatAction.answer (last : Option Bool) : HeartbeatAction → Option Bool
  | .answered healthy => some healthy
  | _ => last

/-- The answer of the last probe that was answered. -/
def lastAnswer (history : List HeartbeatAction) : Option Bool :=
  history.foldl HeartbeatAction.answer none

/-- No publication is started when the last answered probe said that the prover is sick. -/
def Quiet (history : List HeartbeatAction) : Prop :=
  ∀ before context after, history = before ++ .publishHeartbeat context :: after →
    lastAnswer before ≠ some false

theorem lastAnswer_concat (history : List HeartbeatAction) (action : HeartbeatAction) :
    lastAnswer (history ++ [action]) = action.answer (lastAnswer history) := by
  rw [lastAnswer, List.foldl_append]
  rfl

theorem quiet_nil : Quiet [] := by
  intro before context after parts
  exact absurd parts.symm (List.append_ne_nil_of_right_ne_nil _ (List.cons_ne_nil _ _))

/-- A history is quiet as long as it was quiet before its last action, and that one, if it is a
publication, follows no sick answer. -/
theorem quiet_concat {history : List HeartbeatAction} {action : HeartbeatAction} :
    Quiet (history ++ [action]) ↔ Quiet history ∧
      ∀ context, action = .publishHeartbeat context → lastAnswer history ≠ some false := by
  constructor
  · refine fun quiet => ⟨fun before context after parts => ?_, fun context published => ?_⟩
    · refine quiet before context (after ++ [action]) ?_
      rw [parts, List.append_assoc, List.cons_append]
    · exact quiet history context [] (by rw [published])
  · rintro ⟨quiet, last⟩ before context after parts
    rcases List.eq_nil_or_concat after with none | ⟨rest, final, parted⟩
    · rw [none] at parts
      obtain ⟨same, published⟩ := List.append_inj' parts rfl
      rw [← same]
      exact last context (List.singleton_inj.mp published)
    · rw [parted, List.concat_eq_append, ← List.cons_append, ← List.append_assoc] at parts
      exact quiet before context rest (List.append_inj' parts rfl).1

theorem Quiet.of_append {history more : List HeartbeatAction} (quiet : Quiet (history ++ more)) :
    Quiet history := by
  intro before context after parts
  refine quiet before context (after ++ more) ?_
  rw [parts, List.append_assoc, List.cons_append]

/-! ### What a step does -/

/-- The beat is past its first probe. -/
def BeatPhase.Vouches : BeatPhase → Prop
  | .idle => False
  | .probing => False
  | _ => True

/-- A probe that is asked for after a failed attempt says that the prover is sick, and the loop
is not stopped. -/
def SickRetry (loop : HeartbeatLoop) (event : HeartbeatEvent) : Prop :=
  ∃ now logicalBeat, event = .probeAnswered false now ∧ loop.phase = .reprobing logicalBeat ∧
    loop.stopped = false

/-- What the events of a loop do, one case for every branch of the source. A call that settles
late, when nothing waits for it any more, changes nothing else. -/
inductive HeartbeatMove (settings : HeartbeatSettings) (loop : HeartbeatLoop) :
    HeartbeatEvent → HeartbeatLoop → Prop
  | ticked (active : loop.stopped = false) : HeartbeatMove settings loop .tick loop.beat
  | stopped : HeartbeatMove settings loop .stop { loop with stopped := true }
  | healthy {now : Int} (phase : loop.phase = .probing) :
      HeartbeatMove settings loop (.probeAnswered true now)
        ((loop.act (.answered true)).attempt settings 0 (now / settings.intervalMs))
  | sick {now : Int} (phase : loop.phase = .probing) :
      HeartbeatMove settings loop (.probeAnswered false now) (loop.act (.answered false)).finish
  | retryHealthy {now logicalBeat : Int} (phase : loop.phase = .reprobing logicalBeat) :
      HeartbeatMove settings loop (.probeAnswered true now)
        { loop.act (.answered true) with phase := .delaying logicalBeat }
  | retrySick {now logicalBeat : Int} (phase : loop.phase = .reprobing logicalBeat) :
      HeartbeatMove settings loop (.probeAnswered false now)
        ((loop.act (.answered false)).attempt settings 1 logicalBeat)
  | probeThrew : HeartbeatMove settings loop .probeThrew loop.finish
  | publishedLate {call : Nat} {publication : HeartbeatPublication} :
      HeartbeatMove settings loop (.published call publication) (loop.settle call)
  | threwLate {call : Nat} {message : Option String} :
      HeartbeatMove settings loop (.publicationThrew call message) (loop.settle call)
  | published {call number : Nat} {logicalBeat : Int} {publication : HeartbeatPublication}
      (phase : loop.phase = .publishing number logicalBeat call) :
      HeartbeatMove settings loop (.published call publication)
        { (loop.settle call).act (.waitForOutcome publication) with
          phase := .confirming number logicalBeat publication }
  | threw {call number : Nat} {logicalBeat : Int} {message : Option String}
      (phase : loop.phase = .publishing number logicalBeat call) :
      HeartbeatMove settings loop (.publicationThrew call message)
        (((loop.settle call).act (.logged (HeartbeatLoop.failureLine message))).afterFailure
          settings number logicalBeat)
  | timedOut {call number : Nat} {logicalBeat : Int}
      (phase : loop.phase = .publishing number logicalBeat call) :
      HeartbeatMove settings loop .publicationTimedOut
        ((loop.act (.logged (HeartbeatLoop.failureLine
          (some (HeartbeatLoop.timeoutMessage settings))))).afterFailure settings number
            logicalBeat)
  | succeeded {outcome : HeartbeatOutcome} :
      HeartbeatMove settings loop (.outcome outcome) loop.finish
  | failed {outcome : HeartbeatOutcome} {number : Nat} {logicalBeat : Int}
      {publication : HeartbeatPublication}
      (phase : loop.phase = .confirming number logicalBeat publication) :
      HeartbeatMove settings loop (.outcome outcome)
        ((loop.act (.logged (HeartbeatLoop.outcomeLine publication outcome))).afterFailure settings
          number logicalBeat)
  | outcomeThrew {message : Option String} {number : Nat} {logicalBeat : Int}
      {publication : HeartbeatPublication}
      (phase : loop.phase = .confirming number logicalBeat publication) :
      HeartbeatMove settings loop (.outcomeThrew message)
        ((loop.act (.logged (HeartbeatLoop.failureLine message))).afterFailure settings number
          logicalBeat)
  | delayElapsed {logicalBeat : Int} (phase : loop.phase = .delaying logicalBeat) :
      HeartbeatMove settings loop .delayElapsed (loop.attempt settings 1 logicalBeat)

namespace HeartbeatLoop

variable {settings : HeartbeatSettings} {loop after : HeartbeatLoop} {event : HeartbeatEvent}

/-- The beat waits for a call exactly in the phase that names it. -/
theorem awaits_eq_some {call number : Nat} {logicalBeat : Int}
    (awaited : loop.awaits call = some (number, logicalBeat)) :
    loop.phase = .publishing number logicalBeat call := by
  unfold awaits at awaited
  split at awaited
  · rename_i phase
    split at awaited
    · rename_i current
      obtain ⟨rfl, rfl⟩ := Prod.mk.inj (Option.some.inj awaited)
      rw [phase, current]
    · cases awaited
  · cases awaited

/-- Every step is one of the moves. -/
theorem step_cases (stepped : loop.step settings event = some after) :
    HeartbeatMove settings loop event after := by
  cases event with
  | tick =>
    simp only [step] at stepped
    split at stepped
    · cases stepped
    · rename_i active
      exact Option.some.inj stepped ▸ .ticked (Bool.not_eq_true _ ▸ active)
  | stop => exact Option.some.inj stepped ▸ .stopped
  | probeAnswered answer now =>
    simp only [step, probeAnswered] at stepped
    split at stepped
    · rename_i phase
      cases answer with
      | true => exact Option.some.inj stepped ▸ .healthy phase
      | false => exact Option.some.inj stepped ▸ .sick phase
    · rename_i phase
      cases answer with
      | true => exact Option.some.inj stepped ▸ .retryHealthy phase
      | false => exact Option.some.inj stepped ▸ .retrySick phase
    · cases stepped
  | probeThrew =>
    simp only [step, HeartbeatLoop.probeThrew] at stepped
    split at stepped
    · exact Option.some.inj stepped ▸ .probeThrew
    · exact Option.some.inj stepped ▸ .probeThrew
    · cases stepped
  | published call publication =>
    simp only [step, HeartbeatLoop.published] at stepped
    split at stepped
    · split at stepped
      · rename_i awaited
        exact Option.some.inj stepped ▸ .published (awaits_eq_some awaited)
      · exact Option.some.inj stepped ▸ .publishedLate
    · cases stepped
  | publicationThrew call message =>
    simp only [step, publicationThrew] at stepped
    split at stepped
    · split at stepped
      · rename_i awaited
        exact Option.some.inj stepped ▸ .threw (awaits_eq_some awaited)
      · exact Option.some.inj stepped ▸ .threwLate
    · cases stepped
  | publicationTimedOut =>
    simp only [step, publicationTimedOut] at stepped
    split at stepped
    · rename_i phase
      exact Option.some.inj stepped ▸ .timedOut phase
    · cases stepped
  | outcome result =>
    simp only [step, HeartbeatLoop.outcome] at stepped
    split at stepped
    · rename_i phase
      split at stepped
      · exact Option.some.inj stepped ▸ .succeeded
      · exact Option.some.inj stepped ▸ .failed phase
    · cases stepped
  | outcomeThrew message =>
    simp only [step, HeartbeatLoop.outcomeThrew] at stepped
    split at stepped
    · rename_i phase
      exact Option.some.inj stepped ▸ .outcomeThrew phase
    · cases stepped
  | delayElapsed =>
    simp only [step, HeartbeatLoop.delayElapsed] at stepped
    split at stepped
    · rename_i phase
      exact Option.some.inj stepped ▸ .delayElapsed phase
    · cases stepped

/-! ### Quiet steps -/

/-- The loop has been quiet, and if it may publish without asking again, it was told that the
prover is healthy. -/
structure Sound (loop : HeartbeatLoop) : Prop where
  quiet : Quiet loop.history
  healthy : loop.phase.Vouches → lastAnswer loop.history ≠ some false

/-- An action that is not a publication keeps a history quiet. -/
theorem quiet_act {action : HeartbeatAction} (quiet : Quiet loop.history)
    (other : ∀ context, action ≠ .publishHeartbeat context) : Quiet (loop.act action).history :=
  quiet_concat.mpr ⟨quiet, fun context same => absurd same (other context)⟩

theorem finish_sound (quiet : Quiet loop.history) : loop.finish.Sound :=
  ⟨quiet, fun vouches => vouches.elim⟩

/-- The head of the attempt loop is safe to reach with a healthy answer. -/
theorem attempt_sound {number : Nat} {logicalBeat : Int} (quiet : Quiet loop.history)
    (healthy : lastAnswer loop.history ≠ some false) :
    (loop.attempt settings number logicalBeat).Sound := by
  unfold attempt
  split
  · refine ⟨quiet_concat.mpr ⟨quiet, fun _ _ => healthy⟩, fun _ => ?_⟩
    exact (lastAnswer_concat _ _).symm ▸ healthy
  · exact finish_sound quiet

/-- A stopped loop makes no further attempt. -/
theorem attempt_of_stopped {number : Nat} {logicalBeat : Int} (stopped : loop.stopped = true) :
    loop.attempt settings number logicalBeat = loop.finish := by
  unfold attempt
  rw [stopped, Bool.not_true, Bool.and_false, if_neg Bool.false_ne_true]

/-- So is the end of a failed attempt, which is logged first. -/
theorem logged_sound {number : Nat} {logicalBeat : Int} {line : String}
    (quiet : Quiet loop.history) (healthy : lastAnswer loop.history ≠ some false) :
    ((loop.act (.logged line)).afterFailure settings number logicalBeat).Sound := by
  have still : lastAnswer (loop.act (.logged line)).history ≠ some false :=
    (lastAnswer_concat _ _).symm ▸ healthy
  unfold afterFailure
  split
  · exact ⟨quiet_act (quiet_act quiet nofun) nofun, fun _ => (lastAnswer_concat _ _).symm ▸ still⟩
  · exact attempt_sound (quiet_act quiet nofun) still

/-- A step keeps the loop sound unless it answers a retry's probe with sickness. -/
theorem step_sound (sound : loop.Sound) (well : ¬ SickRetry loop event)
    (stepped : loop.step settings event = some after) : after.Sound := by
  have vouched : ∀ {phase : BeatPhase}, loop.phase = phase → phase.Vouches →
      lastAnswer loop.history ≠ some false := fun same vouches => sound.healthy (same ▸ vouches)
  have answered : ∀ answer, Quiet (loop.act (.answered answer)).history ∧
      lastAnswer (loop.act (.answered answer)).history = some answer := fun answer =>
    ⟨quiet_act sound.quiet nofun, lastAnswer_concat _ _⟩
  cases step_cases stepped with
  | ticked active =>
    unfold beat
    split
    · exact sound
    · exact ⟨quiet_act sound.quiet nofun, fun vouches => vouches.elim⟩
  | stopped => exact ⟨sound.quiet, sound.healthy⟩
  | healthy phase => exact attempt_sound (answered true).1 (by rw [(answered true).2]; decide)
  | sick phase => exact finish_sound (answered false).1
  | retryHealthy phase => exact ⟨(answered true).1, fun _ => by rw [(answered true).2]; decide⟩
  | retrySick phase =>
    have halted : (loop.act (.answered false)).stopped = true := by
      rw [← Bool.not_eq_false]
      exact fun running => well ⟨_, _, rfl, phase, running⟩
    rw [attempt_of_stopped halted]
    exact finish_sound (answered false).1
  | probeThrew => exact finish_sound sound.quiet
  | publishedLate => exact ⟨sound.quiet, sound.healthy⟩
  | threwLate => exact ⟨sound.quiet, sound.healthy⟩
  | published phase =>
    exact ⟨quiet_act sound.quiet nofun,
      fun _ => (lastAnswer_concat _ _).symm ▸ vouched phase trivial⟩
  | threw phase => exact logged_sound sound.quiet (vouched phase trivial)
  | timedOut phase => exact logged_sound sound.quiet (vouched phase trivial)
  | succeeded => exact finish_sound sound.quiet
  | failed phase => exact logged_sound sound.quiet (vouched phase trivial)
  | outcomeThrew phase => exact logged_sound sound.quiet (vouched phase trivial)
  | delayElapsed phase => exact attempt_sound sound.quiet (vouched phase trivial)

theorem start_sound : start.Sound :=
  ⟨quiet_concat.mpr ⟨quiet_nil, nofun⟩, fun vouches => vouches.elim⟩

/-- A sick answer to a retry's probe is followed by a publication at once. -/
theorem sickRetry_publishes (sick : SickRetry loop event)
    (stepped : loop.step settings event = some after) : ¬ Quiet after.history := by
  obtain ⟨now, logicalBeat, rfl, phase, running⟩ := sick
  have attempted : (loop.act (.answered false)).attempt settings 1 logicalBeat = after := by
    simp only [step, probeAnswered, phase] at stepped
    exact Option.some.inj stepped
  have entered : (decide (1 < 2) && !(loop.act (.answered false)).stopped) = true := by
    have same : (loop.act (.answered false)).stopped = false := running
    rw [same]
    rfl
  rw [← attempted, attempt, if_pos entered]
  intro quiet
  exact (quiet_concat.mp quiet).2 _ rfl (lastAnswer_concat _ _)

/-- The loop only ever adds to its history. -/
theorem step_history (stepped : loop.step settings event = some after) :
    loop.history <+: after.history := by
  have acts : ∀ (loop : HeartbeatLoop) action, loop.history <+: (loop.act action).history :=
    fun loop action => List.prefix_append _ _
  have attempts : ∀ (loop : HeartbeatLoop) number logicalBeat,
      loop.history <+: (loop.attempt settings number logicalBeat).history := by
    intro loop number logicalBeat
    unfold attempt
    split
    · exact acts loop _
    · exact List.prefix_refl _
  have failures : ∀ (loop : HeartbeatLoop) line number logicalBeat, loop.history <+:
      ((loop.act (.logged line)).afterFailure settings number logicalBeat).history := by
    intro loop line number logicalBeat
    refine (acts loop (.logged line)).trans ?_
    unfold afterFailure
    split
    · exact acts _ _
    · exact attempts _ _ _
  cases step_cases stepped with
  | ticked active =>
    unfold beat
    split
    · exact List.prefix_refl _
    · exact acts loop _
  | stopped => exact List.prefix_refl _
  | healthy phase => exact (acts loop _).trans (attempts _ _ _)
  | sick phase => exact acts loop _
  | retryHealthy phase => exact acts loop _
  | retrySick phase => exact (acts loop _).trans (attempts _ _ _)
  | probeThrew => exact List.prefix_refl _
  | publishedLate => exact List.prefix_refl _
  | threwLate => exact List.prefix_refl _
  | published phase => exact acts (loop.settle _) _
  | threw phase => exact failures (loop.settle _) _ _ _
  | timedOut phase => exact failures loop _ _ _
  | succeeded => exact List.prefix_refl _
  | failed phase => exact failures loop _ _ _
  | outcomeThrew phase => exact failures loop _ _ _
  | delayElapsed phase => exact attempts loop _ _

/-! ### Quiet runs -/

theorem run_append (settings : HeartbeatSettings) (first second : List HeartbeatEvent) :
    run settings (first ++ second) =
      (run settings first).bind fun loop => second.foldlM (step settings) loop :=
  List.foldlM_append

theorem run_history {events : List HeartbeatEvent}
    (ran : events.foldlM (step settings) loop = some after) : loop.history <+: after.history := by
  refine foldlM_some_invariant (fun _ state => loop.history <+: state.history) ran
    (List.prefix_refl _) ?_
  exact fun _ _ before after holds stepped => holds.trans (step_history stepped)

end HeartbeatLoop

open HeartbeatLoop in
/-- A run of the heartbeat is quiet exactly when no probe asked for after a failed attempt says
that the prover is sick, except to a loop that is stopped. -/
theorem heartbeat_quiet_iff (settings : HeartbeatSettings) (events : List HeartbeatEvent)
    (final : HeartbeatLoop) (ran : run settings events = some final) :
    Quiet final.history ↔
      ∀ before event after, events = before ++ event :: after →
        ∀ loop, run settings before = some loop → ¬ SickRetry loop event := by
  constructor
  · intro quiet before event after parts loop reached sick
    rw [parts, run_append, reached, Option.bind_some, List.foldlM_cons] at ran
    obtain ⟨next, stepped, remaining⟩ := Option.bind_eq_some_iff.mp ran
    obtain ⟨more, grown⟩ := run_history remaining
    rw [← grown] at quiet
    exact sickRetry_publishes sick stepped quiet.of_append
  · intro well
    have sound := foldlM_some_invariant (fun consumed loop => run settings consumed = some loop ∧
      ((∀ before event after, consumed = before ++ event :: after →
        ∀ loop, run settings before = some loop → ¬ SickRetry loop event) → loop.Sound)) ran
      ⟨rfl, fun _ => start_sound⟩ ?_
    · exact (sound.2 well).quiet
    · rintro consumed event before after ⟨reached, holds⟩ stepped
      refine ⟨?_, fun well => ?_⟩
      · rw [run_append, reached, Option.bind_some, List.foldlM_cons, stepped]
        rfl
      · refine step_sound (holds fun earlier other later parts => ?_)
          (well consumed event [] rfl before reached) stepped
        refine well earlier other (later ++ [event]) ?_
        rw [parts, List.append_assoc, List.cons_append]

/-- The options every loop has that sets none. -/
def defaultSettings : HeartbeatSettings :=
  ⟨60000, 2, 45000, 1000, 5000, by decide, by decide, by decide, by decide, by decide⟩

/-- The events of a beat whose publication is confirmed. -/
def healthyBeat : List HeartbeatEvent :=
  [.probeAnswered true 1900000000000, .published 0 ⟨"1", "2", "3"⟩, .outcome ⟨.success, none⟩]

/-- A beat of a sick prover, and one that is published when the prover is well again. -/
def recoveringRun : List HeartbeatEvent :=
  .probeAnswered false 1899999940000 :: .tick :: healthyBeat

theorem heartbeat_quiet_iff_sample :
    ∃ final, HeartbeatLoop.run defaultSettings recoveringRun = some final ∧
      final.history = [.probed, .answered false, .probed, .answered true,
        .publishHeartbeat ⟨31666666, 2⟩, .waitForOutcome ⟨"1", "2", "3"⟩] ∧
      Quiet final.history := by
  refine ⟨_, rfl, by decide, (heartbeat_quiet_iff defaultSettings recoveringRun _ rfl).mpr ?_⟩
  rintro before event after parts loop reached ⟨now, logicalBeat, rfl, phase, -⟩
  cases before with
  | nil =>
    obtain rfl := Option.some.inj reached
    cases phase
  | cons first rest =>
    have member : HeartbeatEvent.probeAnswered false now ∈ HeartbeatEvent.tick :: healthyBeat :=
      (List.cons.inj parts).2 ▸ List.mem_append_right _ List.mem_cons_self
    simp [healthyBeat] at member

/-- A prover that falls sick between the two attempts of a beat still publishes the second. -/
theorem heartbeat_publishes_when_sick :
    (default : OnChainHeartbeatOptions).settings = .ok defaultSettings ∧
      ∃ final, HeartbeatLoop.run defaultSettings [.probeAnswered true 1900000000000,
        .publicationThrew 0 (some "connection refused"), .probeAnswered false 1900000001000] =
          some final ∧
        final.history = [.probed, .answered true, .publishHeartbeat ⟨31666666, 2⟩,
          .logged "Progress: the on-chain heartbeat failed: connection refused", .probed,
          .answered false, .publishHeartbeat ⟨31666666, 2⟩] ∧
        ¬ Quiet final.history := by
  refine ⟨by decide, _, rfl, by decide, fun quiet => ?_⟩
  exact quiet [.probed, .answered true, .publishHeartbeat ⟨31666666, 2⟩,
    .logged "Progress: the on-chain heartbeat failed: connection refused", .probed,
    .answered false] ⟨31666666, 2⟩ [] (by decide) (by decide)

end Zkdeal

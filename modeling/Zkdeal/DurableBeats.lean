/-
This file is about the operations that the on-chain heartbeat submits to the durable
coordinator: one for every logical beat, however often it is submitted.

Three things make it so. A beat calls for a publication at most twice, and both times
for the logical beat it read off the clock. A call submits at most once. And every
submission of a run is made under the same schema version: a negotiation is asked for
only when there is none to share, one that fails is no longer shared, and one that
succeeds is shared for good. So the submissions of a beat are the same request, and
submissions under one key are for one logical beat, unless the hash collides.
-/

import Zkdeal.Library.Binding
import Zkdeal.Agent.Coordinator
import Zkdeal.HeartbeatOverlap

namespace Zkdeal

open Guard Binding

/-! ### The client -/

namespace CoordinatorClient

variable {sender : DurableSender} {client after : CoordinatorClient}

/-- The beats and contexts of the publications. -/
def calls (client : CoordinatorClient) : List (Nat × HeartbeatPublishContext) :=
  client.publications.map fun publication => (publication.beat, publication.context)

/-- A negotiation that has not failed is the one that calls share. A submission belongs to a
publication past its negotiation, no two to the same, and is made under a version that was
negotiated. -/
structure Sound (client : CoordinatorClient) : Prop where
  shared : ∀ (promise : Nat) result, client.promises[promise]? = some result →
    (∀ message, result ≠ some (.error message)) → client.negotiated = some promise
  posted : ∀ post ∈ client.posts, ∃ publication,
    client.publications[post.call]? = some publication ∧
    publication.beat = post.beat ∧ publication.context = post.context ∧
    ∀ promise, publication.phase ≠ .negotiating promise
  agreed : ∀ post ∈ client.posts, ∃ promise : Nat,
    client.promises[promise]? = some (some (.ok post.schemaVersion))
  once : (client.posts.map HeartbeatPost.call).Nodup

/-- All submissions are made under one version. -/
theorem Sound.schemaVersion_eq (sound : client.Sound) {first second : HeartbeatPost}
    (firstIn : first ∈ client.posts) (secondIn : second ∈ client.posts) :
    first.schemaVersion = second.schemaVersion := by
  obtain ⟨promise, agreed⟩ := sound.agreed first firstIn
  obtain ⟨other, otherAgreed⟩ := sound.agreed second secondIn
  have same : promise = other := Option.some.inj
    ((sound.shared promise _ agreed nofun).symm.trans (sound.shared other _ otherAgreed nofun))
  rw [same, otherAgreed] at agreed
  exact (Except.ok.inj (Option.some.inj (Option.some.inj agreed))).symm

/-- What the client does while the loop waits: a negotiation ends, a publication submits, the wait
for an outcome goes on. -/
inductive Move (client : CoordinatorClient) : CoordinatorClient → Prop
  | negotiationEnded {promise : Nat} (pending : client.promises[promise]? = some none)
      (result : Except Thrown Nat) : Move client (client.negotiationEnded promise result)
  | submitted {call promise schemaVersion : Nat} {publication : PublicationCall}
      (found : client.publications[call]? = some publication)
      (phase : publication.phase = .negotiating promise)
      (agreed : client.promises[promise]? = some (some (.ok schemaVersion))) :
      Move client (client.submit call publication schemaVersion)
  | waited {wait next : OutcomeWait} (waiting : client.waiting = some wait)
      (past : ∀ promise, next.phase ≠ .negotiating promise) (gets : List OutgoingRequest) :
      Move client { client with waiting := some next, gets := gets }

theorem moveCall_calls {call : Nat} {publication : PublicationCall} {phase : PublicationPhase}
    (found : client.publications[call]? = some publication) :
    (client.moveCall call publication phase).calls = client.calls := by
  rw [calls, moveCall, List.map_set]
  refine List.ext_getElem? fun index => ?_
  rw [List.getElem?_set]
  split
  · rename_i same
    rw [← same, calls, List.getElem?_map, found, List.length_map,
      if_pos (List.getElem?_eq_some_iff.mp found).1]
    rfl
  · rfl

/-- Moves keep who called for what. -/
theorem Move.calls_eq (move : client.Move after) : after.calls = client.calls := by
  cases move with
  | negotiationEnded pending result => rfl
  | submitted found phase agreed => exact moveCall_calls found
  | waited waiting past gets => rfl

/-- A publication that moves on keeps the submissions where they are. -/
theorem Sound.moveCall {call : Nat} {publication : PublicationCall} {phase : PublicationPhase}
    (sound : client.Sound) (found : client.publications[call]? = some publication)
    (past : ∀ promise, phase ≠ .negotiating promise) :
    (client.moveCall call publication phase).Sound := by
  refine ⟨sound.shared, fun post listed => ?_, sound.agreed, sound.once⟩
  obtain ⟨current, held, beat, context, later⟩ := sound.posted post listed
  by_cases same : call = post.call
  · rw [← same, found] at held
    obtain rfl := Option.some.inj held
    refine ⟨{ publication with phase := phase }, ?_, beat, context, past⟩
    rw [← same, CoordinatorClient.moveCall,
      List.getElem?_set_self (List.getElem?_eq_some_iff.mp found).1]
  · refine ⟨current, ?_, beat, context, later⟩
    rw [CoordinatorClient.moveCall, List.getElem?_set_ne same]
    exact held

theorem Sound.submit {call promise schemaVersion : Nat} {publication : PublicationCall}
    (sound : client.Sound) (found : client.publications[call]? = some publication)
    (phase : publication.phase = .negotiating promise)
    (agreed : client.promises[promise]? = some (some (.ok schemaVersion))) :
    (client.submit call publication schemaVersion).Sound := by
  have moved : (client.moveCall call publication (.submitting schemaVersion)).Sound :=
    sound.moveCall found nofun
  refine ⟨moved.shared, fun post listed => ?_, fun post listed => ?_, ?_⟩
  · rcases List.mem_append.mp listed with old | new
    · exact moved.posted post old
    · obtain rfl := List.mem_singleton.mp new
      refine ⟨{ publication with phase := .submitting schemaVersion }, ?_, rfl, rfl, nofun⟩
      exact List.getElem?_set_self (List.getElem?_eq_some_iff.mp found).1
  · rcases List.mem_append.mp listed with old | new
    · exact moved.agreed post old
    · obtain rfl := List.mem_singleton.mp new
      exact ⟨promise, agreed⟩
  · rw [CoordinatorClient.submit, List.map_append]
    refine List.Nodup.append sound.once (List.nodup_singleton _) ?_
    rw [List.map_singleton, List.disjoint_singleton]
    intro listed
    obtain ⟨post, member, same⟩ := List.mem_map.mp listed
    obtain ⟨current, held, -, -, later⟩ := sound.posted post member
    rw [same, found] at held
    exact later promise (Option.some.inj held ▸ phase)

theorem negotiationEnded_promises {promise : Nat} {result : Except Thrown Nat} :
    (client.negotiationEnded promise result).promises =
      client.promises.set promise (some result) := rfl

theorem Sound.negotiationEnded {promise : Nat} (sound : client.Sound)
    (pending : client.promises[promise]? = some none) (result : Except Thrown Nat) :
    (client.negotiationEnded promise result).Sound := by
  have inRange := (List.getElem?_eq_some_iff.mp pending).1
  have current := sound.shared promise none pending nofun
  refine ⟨fun other settled found intact => ?_, sound.posted, fun post listed => ?_, sound.once⟩
  · by_cases same : promise = other
    · rw [← same, negotiationEnded_promises, List.getElem?_set_self inRange] at found
      cases result with
      | ok version => exact same ▸ current
      | error message => exact absurd (Option.some.inj found).symm (intact message)
    · rw [negotiationEnded_promises, List.getElem?_set_ne same] at found
      have shared := sound.shared other settled found intact
      exact absurd (Option.some.inj (current.symm.trans shared)) same
  · obtain ⟨other, agreed⟩ := sound.agreed post listed
    have different : promise ≠ other := by
      rintro rfl
      rw [pending] at agreed
      cases Option.some.inj agreed
    exact ⟨other, (List.getElem?_set_ne different).trans agreed⟩

/-- The wait for an outcome submits nothing. -/
theorem Sound.waiting (sound : client.Sound) (waiting : Option OutcomeWait)
    (gets : List OutgoingRequest) :
    Sound { client with waiting := waiting, gets := gets } :=
  ⟨sound.shared, sound.posted, sound.agreed, sound.once⟩

theorem Sound.move (sound : client.Sound) (move : client.Move after) : after.Sound := by
  cases move with
  | negotiationEnded pending result => exact sound.negotiationEnded pending result
  | submitted found phase agreed => exact sound.submit found phase agreed
  | waited waiting past gets => exact sound.waiting (some _) gets

/-- A new negotiation begins only when all others have failed. -/
theorem Sound.negotiate (sound : client.Sound) : (client.negotiate sender).Sound := by
  unfold CoordinatorClient.negotiate
  split
  · exact sound
  · rename_i fresh
    refine ⟨fun promise result found intact => ?_, sound.posted, fun post listed => ?_, sound.once⟩
    · rcases Nat.lt_or_ge promise client.promises.length with old | new
      · rw [List.getElem?_append_left old] at found
        exact absurd ((sound.shared promise result found intact).symm.trans fresh) nofun
      · obtain ⟨within, -⟩ := List.getElem?_eq_some_iff.mp found
        rw [List.length_append, List.length_singleton] at within
        exact congrArg some (by omega)
    · obtain ⟨promise, agreed⟩ := sound.agreed post listed
      refine ⟨promise, ?_⟩
      rw [List.getElem?_append_left (List.getElem?_eq_some_iff.mp agreed).1]
      exact agreed

theorem negotiate_publications : (client.negotiate sender).publications = client.publications := by
  unfold negotiate
  split <;> rfl

theorem Sound.publishHeartbeat (sound : client.Sound) (beat : Nat)
    (context : HeartbeatPublishContext) :
    (client.publishHeartbeat sender beat context).Sound := by
  have begun : (client.negotiate sender).Sound := sound.negotiate
  refine ⟨begun.shared, fun post listed => ?_, begun.agreed, begun.once⟩
  obtain ⟨publication, found, rest⟩ := begun.posted post listed
  rw [negotiate_publications] at found
  refine ⟨publication, ?_, rest⟩
  rw [CoordinatorClient.publishHeartbeat,
    List.getElem?_append_left (List.getElem?_eq_some_iff.mp found).1]
  exact found

theorem Sound.waitForOutcome (sound : client.Sound) (publication : HeartbeatPublication) :
    (client.waitForOutcome sender publication).Sound := by
  have begun : (client.negotiate sender).Sound := sound.negotiate
  exact begun.waiting _ _

theorem publishHeartbeat_calls (beat : Nat) (context : HeartbeatPublishContext) :
    (client.publishHeartbeat sender beat context).calls = client.calls ++ [(beat, context)] :=
  List.map_append

theorem negotiatedCall?_eq_some {call : Nat} {publication : PublicationCall}
    {result : Except Thrown Nat}
    (known : client.negotiatedCall? call = some (publication, result)) :
    ∃ promise, client.publications[call]? = some publication ∧
      publication.phase = .negotiating promise ∧
      client.promises[promise]? = some (some result) := by
  obtain ⟨found, held, rest⟩ := Option.bind_eq_some_iff.mp known
  split at rest
  · rename_i promise phase
    obtain ⟨settled, joined, same⟩ := Option.map_eq_some_iff.mp rest
    obtain ⟨rfl, rfl⟩ := Prod.mk.inj same
    exact ⟨promise, held, phase, Option.join_eq_some_iff.mp joined⟩
  · cases rest

theorem submittingCall?_eq_some {call schemaVersion : Nat} {publication : PublicationCall}
    (known : client.submittingCall? call = some (publication, schemaVersion)) :
    client.publications[call]? = some publication ∧
      publication.phase = .submitting schemaVersion := by
  obtain ⟨found, held, rest⟩ := Option.bind_eq_some_iff.mp known
  split at rest
  · rename_i version phase
    obtain ⟨rfl, rfl⟩ := Prod.mk.inj (Option.some.inj rest)
    exact ⟨held, phase⟩
  · cases rest

end CoordinatorClient

/-! ### The calls of a beat -/

abbrev BeatCalls : Type := List (Nat × HeartbeatPublishContext)

/-- The calls that one beat made. -/
def callsOf (beat : Nat) (calls : BeatCalls) : BeatCalls := calls.filter fun call => call.1 = beat

/-- No beat made more than two calls, and none for two publications. -/
structure Limited (beats : Nat) (calls : BeatCalls) : Prop where
  past : ∀ call ∈ calls, call.1 ≤ beats
  few : ∀ beat, (callsOf beat calls).length ≤ 2
  same : ∀ first ∈ calls, ∀ second ∈ calls, first.1 = second.1 → first.2 = second.2

/-- So many calls were made, all for one logical beat. -/
def Made (settings : HeartbeatSettings) (number : Nat) (logicalBeat : Int) (calls : BeatCalls) :
    Prop :=
  calls.length = number ∧ ∀ call ∈ calls, call.2 = ⟨logicalBeat, settings.confirmations⟩

/-- What the phase of a beat says about the calls it has made. -/
def BeatPhase.Counts (settings : HeartbeatSettings) (calls : BeatCalls) : BeatPhase → Prop
  | .idle => True
  | .probing => calls = []
  | .publishing number logicalBeat _ => Made settings (number + 1) logicalBeat calls
  | .confirming number logicalBeat _ => Made settings (number + 1) logicalBeat calls
  | .reprobing logicalBeat => Made settings 1 logicalBeat calls
  | .delaying logicalBeat => Made settings 1 logicalBeat calls

theorem mem_callsOf {beat : Nat} {calls : BeatCalls} {call : Nat × HeartbeatPublishContext} :
    call ∈ callsOf beat calls ↔ call ∈ calls ∧ call.1 = beat := by
  rw [callsOf, List.mem_filter, decide_eq_true_iff]

theorem callsOf_concat (beat other : Nat) (calls : BeatCalls) (context : HeartbeatPublishContext) :
    callsOf other (calls ++ [(beat, context)]) =
      if beat = other then callsOf other calls ++ [(beat, context)] else callsOf other calls := by
  simp only [callsOf, List.filter_append, List.filter_cons, List.filter_nil, decide_eq_true_eq]
  split
  · rfl
  · exact List.append_nil _

section Limited

variable {settings : HeartbeatSettings} {beats number : Nat} {calls : BeatCalls} {logicalBeat : Int}

/-- One more call of the beat in progress. -/
theorem Made.call (made : Made settings number logicalBeat (callsOf beats calls)) :
    Made settings (number + 1) logicalBeat
      (callsOf beats (calls ++ [(beats, ⟨logicalBeat, settings.confirmations⟩)])) := by
  rw [callsOf_concat, if_pos rfl]
  refine ⟨by rw [List.length_append, made.1, List.length_singleton], fun call listed => ?_⟩
  rcases List.mem_append.mp listed with old | new
  · exact made.2 call old
  · rw [List.mem_singleton.mp new]

theorem Limited.call (limited : Limited beats calls)
    (made : Made settings number logicalBeat (callsOf beats calls)) (more : number < 2) :
    Limited beats (calls ++ [(beats, ⟨logicalBeat, settings.confirmations⟩)]) := by
  have earlier : ∀ call ∈ calls, call.1 = beats →
      call.2 = ⟨logicalBeat, settings.confirmations⟩ := fun call listed own =>
    made.2 call (mem_callsOf.mpr ⟨listed, own⟩)
  refine ⟨fun call listed => ?_, fun beat => ?_, fun first firstIn second secondIn own => ?_⟩
  · rcases List.mem_append.mp listed with old | new
    · exact limited.past call old
    · rw [List.mem_singleton.mp new]
  · rw [callsOf_concat]
    split
    · rename_i same
      rw [List.length_append, ← same, made.1, List.length_singleton]
      omega
    · exact limited.few beat
  · rcases List.mem_append.mp firstIn with old | new
    · rcases List.mem_append.mp secondIn with otherOld | otherNew
      · exact limited.same first old second otherOld own
      · rw [List.mem_singleton.mp otherNew] at own ⊢
        exact earlier first old own
    · rcases List.mem_append.mp secondIn with otherOld | otherNew
      · rw [List.mem_singleton.mp new] at own ⊢
        exact (earlier second otherOld own.symm).symm
      · rw [List.mem_singleton.mp new, List.mem_singleton.mp otherNew]

/-- A beat begins without calls. -/
theorem Limited.next (limited : Limited beats calls) :
    Limited (beats + 1) calls ∧ callsOf (beats + 1) calls = [] := by
  refine ⟨⟨fun call listed => (limited.past call listed).trans (Nat.le_succ _), limited.few,
    limited.same⟩, List.filter_eq_nil_iff.mpr fun call listed => ?_⟩
  rw [decide_eq_true_iff]
  exact fun new => absurd (limited.past call listed) (by omega)

end Limited

/-- A stopped loop stays so and makes no call. -/
theorem HeartbeatLoop.step_stopped {settings : HeartbeatSettings} {loop after : HeartbeatLoop}
    {event : HeartbeatEvent} (halted : loop.stopped = true)
    (stepped : loop.step settings event = some after) :
    after.stopped = true ∧ after.calls = loop.calls := by
  have attempts (start : HeartbeatLoop) (number : Nat) (logicalBeat : Int)
      (same : start.stopped = true) (calls : start.calls = loop.calls) :
      (start.attempt settings number logicalBeat).stopped = true ∧
        (start.attempt settings number logicalBeat).calls = loop.calls := by
    rw [attempt_of_stopped same]
    exact ⟨same, calls⟩
  have failures (start : HeartbeatLoop) (number : Nat) (logicalBeat : Int)
      (same : start.stopped = true) (calls : start.calls = loop.calls) :
      (start.afterFailure settings number logicalBeat).stopped = true ∧
        (start.afterFailure settings number logicalBeat).calls = loop.calls := by
    rw [afterFailure_eq, same, Bool.not_true, Bool.and_false, if_neg Bool.false_ne_true]
    exact ⟨same, calls⟩
  cases step_cases stepped with
  | ticked active => exact absurd (halted.symm.trans active) nofun
  | stopped => exact ⟨rfl, rfl⟩
  | healthy phase => exact attempts _ _ _ halted rfl
  | sick phase => exact ⟨halted, rfl⟩
  | retryHealthy phase => exact ⟨halted, rfl⟩
  | retrySick phase => exact attempts _ _ _ halted rfl
  | probeThrew => exact ⟨halted, rfl⟩
  | publishedLate => exact ⟨halted, rfl⟩
  | threwLate => exact ⟨halted, rfl⟩
  | published phase => exact ⟨halted, rfl⟩
  | threw phase => exact failures _ _ _ halted rfl
  | timedOut phase => exact failures _ _ _ halted rfl
  | succeeded => exact ⟨halted, rfl⟩
  | failed phase => exact failures _ _ _ halted rfl
  | outcomeThrew phase => exact failures _ _ _ halted rfl
  | delayElapsed phase => exact attempts _ _ _ halted rfl

/-! ### The heartbeat -/

namespace DurableHeartbeat

variable {runtime : JsRuntime} {sender : DurableSender} {settings : HeartbeatSettings}
variable {state after : DurableHeartbeat} {next : HeartbeatLoop}

/-- The client has been called as the beats of the loop call. -/
structure Counted (settings : HeartbeatSettings) (state : DurableHeartbeat) : Prop where
  limited : Limited state.beats state.client.calls
  counts : state.loop.phase.Counts settings (callsOf state.beats state.client.calls)

/-- Without a call of the loop no publication begins. -/
theorem follow_publications (same : next.calls = state.loop.calls) :
    (state.follow sender settings next).client.publications = state.client.publications := by
  unfold follow
  dsimp only
  split
  · rw [if_neg (by rw [same]; exact lt_irrefl _)]
  · split
    · exact CoordinatorClient.negotiate_publications
    · rfl
  · rfl

theorem follow_calls (same : next.calls = state.loop.calls) :
    (state.follow sender settings next).client.calls = state.client.calls :=
  congrArg (List.map _) (follow_publications same)

theorem follow_beats (within : (next.running && !state.loop.running) = false) :
    (state.follow sender settings next).beats = state.beats :=
  if_neg (by rw [within]; exact Bool.false_ne_true)

/-- A step inside a beat that makes no call. -/
theorem Counted.kept (limited : Limited state.beats state.client.calls)
    (same : next.calls = state.loop.calls)
    (within : (next.running && !state.loop.running) = false)
    (counts : next.phase.Counts settings (callsOf state.beats state.client.calls)) :
    (state.follow sender settings next).Counted settings := by
  constructor
  · rw [follow_calls same, follow_beats within]
    exact limited
  · rw [follow_calls same, follow_beats within]
    exact counts

/-- The head of the attempt loop. -/
theorem Counted.attempt {start : HeartbeatLoop} {number : Nat} {logicalBeat : Int}
    (limited : Limited state.beats state.client.calls) (running : state.loop.running = true)
    (same : start.calls = state.loop.calls)
    (made : Made settings number logicalBeat (callsOf state.beats state.client.calls)) :
    (state.follow sender settings (start.attempt settings number logicalBeat)).Counted
      settings := by
  unfold HeartbeatLoop.attempt
  split
  · rename_i goes
    have more : number < 2 := decide_eq_true_iff.mp (Bool.and_eq_true_iff.mp goes).1
    have within (busy : Bool) : ¬ (busy && !state.loop.running) = true := by
      rw [running, Bool.not_true, Bool.and_false]
      exact Bool.false_ne_true
    have called : state.loop.calls < start.calls + 1 := by rw [same]; exact Nat.lt_succ_self _
    constructor
    · simp only [follow, if_neg (within _), if_pos called]
      rw [CoordinatorClient.publishHeartbeat_calls]
      exact limited.call made more
    · simp only [follow, if_neg (within _), if_pos called]
      rw [CoordinatorClient.publishHeartbeat_calls]
      exact made.call
  · exact Counted.kept limited same rfl trivial

/-- The tail of an attempt that failed. -/
theorem Counted.afterFailure {start : HeartbeatLoop} {number : Nat} {logicalBeat : Int}
    (limited : Limited state.beats state.client.calls) (running : state.loop.running = true)
    (same : start.calls = state.loop.calls)
    (made : Made settings (number + 1) logicalBeat (callsOf state.beats state.client.calls)) :
    (state.follow sender settings (start.afterFailure settings number logicalBeat)).Counted
      settings := by
  rw [HeartbeatLoop.afterFailure_eq]
  split
  · rename_i first
    have number_eq : number = 0 := decide_eq_true_iff.mp (Bool.and_eq_true_iff.mp first).1
    rw [number_eq] at made
    exact Counted.kept limited same (by rw [running, Bool.not_true, Bool.and_false]) made
  · exact Counted.kept limited same rfl trivial

/-- Every step of the loop keeps count. -/
theorem Counted.follow (counted : state.Counted settings) (tracked : state.loop.Tracked)
    {event : HeartbeatEvent} (stepped : state.loop.step settings event = some next) :
    (state.follow sender settings next).Counted settings := by
  have busy {phase : BeatPhase} (same : state.loop.phase = phase) (other : phase ≠ .idle) :
      state.loop.running = true := tracked.running (same ▸ other)
  have within {phase : BeatPhase} (same : state.loop.phase = phase) (other : phase ≠ .idle)
      (running : Bool) : (running && !state.loop.running) = false := by
    rw [busy same other, Bool.not_true, Bool.and_false]
  have counts {phase : BeatPhase} (same : state.loop.phase = phase) :
      phase.Counts settings (callsOf state.beats state.client.calls) := same ▸ counted.counts
  have unmade (logicalBeat : Int) (phase : state.loop.phase = .probing) :
      Made settings 0 logicalBeat (callsOf state.beats state.client.calls) := by
    have none : callsOf state.beats state.client.calls = [] := counts phase
    rw [none]
    exact ⟨rfl, nofun⟩
  cases HeartbeatLoop.step_cases stepped with
  | ticked active =>
    unfold HeartbeatLoop.beat
    split
    · exact Counted.kept counted.limited rfl (Bool.and_not_self _) counted.counts
    · rename_i free
      have idle : state.loop.running = false := by
        rw [Bool.not_eq_true, Bool.or_eq_false_iff] at free
        exact free.2
      obtain ⟨limited, fresh⟩ := counted.limited.next
      constructor
      · simp only [DurableHeartbeat.follow, idle]
        exact limited
      · simp only [DurableHeartbeat.follow, idle]
        exact fresh
  | stopped => exact Counted.kept counted.limited rfl (Bool.and_not_self _) counted.counts
  | healthy phase => exact Counted.attempt counted.limited (busy phase nofun) rfl (unmade _ phase)
  | sick phase => exact Counted.kept counted.limited rfl rfl trivial
  | retryHealthy phase =>
    have made := counts phase
    exact Counted.kept counted.limited rfl (within phase nofun _) made
  | retrySick phase => exact Counted.attempt counted.limited (busy phase nofun) rfl (counts phase)
  | probeThrew => exact Counted.kept counted.limited rfl rfl trivial
  | publishedLate => exact Counted.kept counted.limited rfl (Bool.and_not_self _) counted.counts
  | threwLate => exact Counted.kept counted.limited rfl (Bool.and_not_self _) counted.counts
  | published phase =>
    have made := counts phase
    exact Counted.kept counted.limited rfl (within phase nofun _) made
  | threw phase => exact Counted.afterFailure counted.limited (busy phase nofun) rfl (counts phase)
  | timedOut phase =>
    exact Counted.afterFailure counted.limited (busy phase nofun) rfl (counts phase)
  | succeeded => exact Counted.kept counted.limited rfl rfl trivial
  | failed phase => exact Counted.afterFailure counted.limited (busy phase nofun) rfl (counts phase)
  | outcomeThrew phase =>
    exact Counted.afterFailure counted.limited (busy phase nofun) rfl (counts phase)
  | delayElapsed phase =>
    exact Counted.attempt counted.limited (busy phase nofun) rfl (counts phase)

/-- What a step does: the client goes on by itself, the loop does, or the end of a publication or
of the wait for an outcome takes the loop on. -/
inductive Steps (sender : DurableSender) (settings : HeartbeatSettings)
    (state : DurableHeartbeat) : DurableHeartbeat → Prop
  | inside {client : CoordinatorClient} (move : state.client.Move client) :
      Steps sender settings state { state with client := client }
  | looped {event : HeartbeatEvent} {next : HeartbeatLoop} (own : event.ofClient = false)
      (stepped : state.loop.step settings event = some next) :
      Steps sender settings state (state.follow sender settings next)
  | settled {call : Nat} {publication : PublicationCall} {event : HeartbeatEvent}
      {next : HeartbeatLoop} (found : state.client.publications[call]? = some publication)
      (ends : event.settled = some call) (stepped : state.loop.step settings event = some next) :
      Steps sender settings state (follow sender settings
        { state with client := state.client.moveCall call publication .settled } next)
  | waitEnded {event : HeartbeatEvent} {next : HeartbeatLoop} (ends : event.settled = none)
      (stepped : state.loop.step settings event = some next) :
      Steps sender settings state (follow sender settings
        { state with client := { state.client with waiting := none } } next)

theorem steps_of_endCall {call : Nat} {publication : PublicationCall} {event : HeartbeatEvent}
    (found : state.client.publications[call]? = some publication)
    (ends : event.settled = some call)
    (stepped : state.endCall sender settings call publication event = some after) :
    Steps sender settings state after := by
  obtain ⟨next, advanced, rfl⟩ := Option.map_eq_some_iff.mp stepped
  exact .settled found ends advanced

theorem steps_of_endWait {event : HeartbeatEvent} (ends : event.settled = none)
    (stepped : state.endWait sender settings event = some after) :
    Steps sender settings state after := by
  obtain ⟨next, advanced, rfl⟩ := Option.map_eq_some_iff.mp stepped
  exact .waitEnded ends advanced

theorem steps_of_pollUnless {expired : Bool} {publication : HeartbeatPublication}
    {schemaVersion : Nat} {wait : OutcomeWait} (waiting : state.client.waiting = some wait)
    (stepped : state.pollUnless sender settings expired publication schemaVersion = some after) :
    Steps sender settings state after := by
  unfold pollUnless at stepped
  split at stepped
  · exact steps_of_endWait rfl stepped
  · obtain rfl := Option.some.inj stepped
    refine .inside (.waited waiting ?_ _)
    exact nofun

theorem step_cases {event : CoordinatorEvent}
    (stepped : state.step runtime sender settings event = some after) :
    Steps sender settings state after := by
  cases event with
  | loop event =>
    simp only [step] at stepped
    split at stepped
    · cases stepped
    · rename_i own
      obtain ⟨next, advanced, rfl⟩ := Option.map_eq_some_iff.mp stepped
      exact .looped (Bool.not_eq_true _ ▸ own) advanced
  | capabilitiesAnswered promise answer =>
    simp only [step] at stepped
    split at stepped
    · rename_i pending
      obtain rfl := Option.some.inj stepped
      exact .inside (.negotiationEnded pending _)
    · cases stepped
  | publicationNegotiated call =>
    simp only [step, publicationNegotiated] at stepped
    split at stepped
    · rename_i publication schemaVersion known
      obtain ⟨promise, found, phase, agreed⟩ := CoordinatorClient.negotiatedCall?_eq_some known
      obtain rfl := Option.some.inj stepped
      exact .inside (.submitted found phase agreed)
    · rename_i publication message known
      obtain ⟨promise, found, -, -⟩ := CoordinatorClient.negotiatedCall?_eq_some known
      exact steps_of_endCall found rfl stepped
    · cases stepped
  | submitAnswered call answer =>
    simp only [step, submitAnswered] at stepped
    split at stepped
    · rename_i publication schemaVersion known
      obtain ⟨found, -⟩ := CoordinatorClient.submittingCall?_eq_some known
      split at stepped
      · exact steps_of_endCall found rfl stepped
      · exact steps_of_endCall found rfl stepped
    · cases stepped
  | waitNegotiated expired =>
    simp only [step, waitNegotiated] at stepped
    split at stepped
    · rename_i waiting
      split at stepped
      · exact steps_of_pollUnless waiting stepped
      · exact steps_of_endWait rfl stepped
      · cases stepped
    · cases stepped
  | statusAnswered timeoutMs answer =>
    simp only [step, statusAnswered] at stepped
    split at stepped
    · rename_i waiting
      split at stepped
      · exact steps_of_endWait rfl stepped
      · obtain rfl := Option.some.inj stepped
        refine .inside (.waited waiting ?_ _)
        exact nofun
      · exact steps_of_endWait rfl stepped
    · cases stepped
  | pauseElapsed expired =>
    simp only [step, pauseElapsed] at stepped
    split at stepped
    · rename_i waiting
      exact steps_of_pollUnless waiting stepped
    · cases stepped

/-- The heartbeat keeps its calls, its beats and its client in order. -/
structure Sound (settings : HeartbeatSettings) (state : DurableHeartbeat) : Prop where
  tracked : state.loop.Tracked
  counted : state.Counted settings
  client : state.client.Sound

theorem follow_client (sound : state.client.Sound) :
    (state.follow sender settings next).client.Sound := by
  unfold follow
  dsimp only
  split
  · split
    · exact sound.publishHeartbeat _ _
    · exact sound
  · split
    · exact sound.waitForOutcome _
    · exact sound
  · exact sound

/-- Another client that was called in the same way. -/
theorem Counted.with_client {client : CoordinatorClient} (counted : state.Counted settings)
    (same : client.calls = state.client.calls) :
    Counted settings { state with client := client } := by
  constructor
  · exact same ▸ counted.limited
  · exact same ▸ counted.counts

/-- The loop goes on after the client was called in the same way and kept in order. -/
theorem Sound.onward {client : CoordinatorClient} {event : HeartbeatEvent}
    (sound : state.Sound settings) (same : client.calls = state.client.calls)
    (ordered : client.Sound) (stepped : state.loop.step settings event = some next) :
    (follow sender settings { state with client := client } next).Sound settings :=
  ⟨HeartbeatLoop.step_tracked sound.tracked stepped,
    (sound.counted.with_client same).follow sound.tracked stepped, follow_client ordered⟩

theorem Sound.steps (sound : state.Sound settings) (steps : Steps sender settings state after) :
    after.Sound settings := by
  cases steps with
  | inside move =>
    exact ⟨sound.tracked, sound.counted.with_client move.calls_eq, sound.client.move move⟩
  | looped own stepped => exact sound.onward rfl sound.client stepped
  | settled found ends stepped =>
    exact sound.onward (CoordinatorClient.moveCall_calls found) (sound.client.moveCall found nofun)
      stepped
  | waitEnded ends stepped => exact sound.onward rfl (sound.client.waiting none _) stepped

theorem start_sound : start.Sound settings :=
  ⟨HeartbeatLoop.start_tracked, ⟨⟨nofun, fun _ => Nat.zero_le _, nofun⟩, rfl⟩,
    ⟨nofun, nofun, nofun, List.nodup_nil⟩⟩

theorem run_sound {events : List CoordinatorEvent}
    (ran : run runtime sender settings events = some state) : state.Sound settings :=
  foldlM_some_invariant (fun _ state => state.Sound settings) ran start_sound
    fun _ _ _ _ sound stepped => sound.steps (step_cases stepped)

/-- A stopped heartbeat calls for no publication. -/
theorem Steps.stopped (steps : Steps sender settings state after)
    (halted : state.loop.stopped = true) :
    after.loop.stopped = true ∧
      after.client.publications.length = state.client.publications.length := by
  have lengths (client : CoordinatorClient) :
      client.publications.length = client.calls.length := (List.length_map _).symm
  have onward {client : CoordinatorClient} {event : HeartbeatEvent} {next : HeartbeatLoop}
      (same : client.calls = state.client.calls)
      (stepped : state.loop.step settings event = some next) : next.stopped = true ∧
      (follow sender settings { state with client := client } next).client.publications.length =
        state.client.publications.length := by
    obtain ⟨still, quiet⟩ := HeartbeatLoop.step_stopped halted stepped
    have kept : (follow sender settings { state with client := client } next).client.calls =
        client.calls := follow_calls quiet
    exact ⟨still, by rw [lengths, lengths, kept, same]⟩
  cases steps with
  | inside move => exact ⟨halted, by rw [lengths, lengths, move.calls_eq]⟩
  | looped own stepped => exact onward rfl stepped
  | settled found ends stepped => exact onward (CoordinatorClient.moveCall_calls found) stepped
  | waitEnded ends stepped => exact onward rfl stepped

theorem run_append (first second : List CoordinatorEvent) :
    run runtime sender settings (first ++ second) =
      (run runtime sender settings first).bind fun state =>
        second.foldlM (step runtime sender settings) state :=
  List.foldlM_append

theorem run_stop {events : List CoordinatorEvent}
    (reached : run runtime sender settings (events ++ [CoordinatorEvent.loop .stop]) = some state) :
    state.loop.stopped = true := by
  rw [run_append] at reached
  obtain ⟨before, -, stepped⟩ := Option.bind_eq_some_iff.mp reached
  simp only [List.foldlM_cons, List.foldlM_nil, bind_pure] at stepped
  obtain rfl := Option.some.inj stepped
  rfl

theorem run_stopped {events : List CoordinatorEvent} (halted : state.loop.stopped = true)
    (ran : events.foldlM (step runtime sender settings) state = some after) :
    after.loop.stopped = true ∧
      after.client.publications.length = state.client.publications.length := by
  refine foldlM_some_invariant (fun _ later => later.loop.stopped = true ∧
    later.client.publications.length = state.client.publications.length) ran ⟨halted, rfl⟩ ?_
  rintro - event before later ⟨still, same⟩ stepped
  obtain ⟨stops, kept⟩ := (step_cases stepped).stopped still
  exact ⟨stops, kept.trans same⟩

end DurableHeartbeat

/-! ### Submissions -/

/-- Distinct positions of items with a property are no more than the items with it. -/
theorem length_le_of_positions {Item : Type} (items : List Item) (property : Item → Bool)
    {positions : List Nat} (distinct : positions.Nodup)
    (held : ∀ position ∈ positions, ∃ item, items[position]? = some item ∧ property item = true) :
    positions.length ≤ (items.filter property).length := by
  let marked := items.zipIdx.filter fun entry => property entry.1
  have within : positions ⊆ marked.map Prod.snd := by
    intro position listed
    obtain ⟨item, found, holds⟩ := held position listed
    exact List.mem_map.mpr ⟨(item, position),
      List.mem_filter.mpr ⟨List.mk_mem_zipIdx_iff_getElem?.mpr found, holds⟩, rfl⟩
  have count : marked.map Prod.fst = items.filter property := by
    rw [← List.zipIdx_map_fst 0 items, List.filter_map]
    rfl
  calc positions.length ≤ (marked.map Prod.snd).length :=
        (List.subperm_of_subset distinct within).length_le
    _ = (marked.map Prod.fst).length := by rw [List.length_map, List.length_map]
    _ = (items.filter property).length := by rw [count]

/-- A beat submits no more often than it calls. -/
theorem CoordinatorClient.Sound.posts_le {client : CoordinatorClient} (sound : client.Sound)
    (beat : Nat) :
    (client.posts.filter (·.beat = beat)).length ≤ (callsOf beat client.calls).length := by
  have distinct : ((client.posts.filter (·.beat = beat)).map HeartbeatPost.call).Nodup :=
    sound.once.sublist (List.filter_sublist.map _)
  have bound := length_le_of_positions client.calls (fun call => call.1 = beat) distinct ?_
  · rwa [List.length_map] at bound
  · intro position listed
    obtain ⟨post, member, rfl⟩ := List.mem_map.mp listed
    obtain ⟨submitted, own⟩ := List.mem_filter.mp member
    obtain ⟨publication, found, same, -, -⟩ := sound.posted post submitted
    refine ⟨(publication.beat, publication.context), ?_, ?_⟩
    · rw [calls, List.getElem?_map, found]
      rfl
    · rwa [same]

/-- The submissions of one beat are for one context. -/
theorem CoordinatorClient.Sound.context_eq {client : CoordinatorClient} (sound : client.Sound)
    {beats : Nat} (limited : Limited beats client.calls) {first second : HeartbeatPost}
    (firstIn : first ∈ client.posts) (secondIn : second ∈ client.posts)
    (own : first.beat = second.beat) : first.context = second.context := by
  have called {post : HeartbeatPost} (listed : post ∈ client.posts) :
      (post.beat, post.context) ∈ client.calls := by
    obtain ⟨publication, found, beat, context, -⟩ := sound.posted post listed
    rw [← beat, ← context]
    exact List.mem_map_of_mem (List.mem_of_getElem? found)
  exact limited.same _ (called firstIn) _ (called secondIn) own

/-- The message whose digest is the key of a submission. -/
def HeartbeatPost.message (sender : DurableSender) (post : HeartbeatPost) : Bytes :=
  heartbeatMessage sender post.schemaVersion post.context

section Keys

variable {runtime : JsRuntime} {sender : DurableSender} {schemaVersion other : Nat}
variable {context otherContext : HeartbeatPublishContext}

/-- The message tells the logical beat and the body. -/
theorem heartbeatMessage_inj (same : heartbeatMessage sender schemaVersion context =
    heartbeatMessage sender other otherContext) :
    context.logicalBeat = otherContext.logicalBeat ∧
      JsonText.object (heartbeatBody sender schemaVersion context.confirmations) =
        JsonText.object (heartbeatBody sender other otherContext.confirmations) := by
  obtain ⟨beats, bodies⟩ := JsonText.object_cons_inj (JsonText.comma_not_mem_integer _)
    (JsonText.comma_not_mem_integer _) (JsonText.utf8_injective same)
  exact ⟨JsonText.integer_injective beats, bodies⟩

/-- The key tells the digest of the message. -/
theorem idempotencyKey_inj (same : idempotencyKey runtime sender schemaVersion context =
    idempotencyKey runtime sender other otherContext) :
    runtime.keccak256 (heartbeatMessage sender schemaVersion context) =
      runtime.keccak256 (heartbeatMessage sender other otherContext) := by
  have digits := String.ofList_inj.mp ((String.append_right_inj _).mp same)
  exact Words.wordBytes_injective (by decide) (Texts.hexDigits_injective digits)

theorem submitRequest_key : (submitRequest runtime sender schemaVersion context).header?
    "Idempotency-Key" = some (idempotencyKey runtime sender schemaVersion context) := by
  have filled : (idempotencyKey runtime sender schemaVersion context).isEmpty = false := by
    rw [← Bool.not_eq_true, String.isEmpty_iff]
    exact fun empty => absurd (String.append_eq_empty_iff.mp empty).1 (by decide)
  simp [OutgoingRequest.header?, submitRequest, coordinatorHeaders, filled, List.lookup]

end Keys

open DurableHeartbeat in
/-- The submissions of a run: no beat makes more than two, those of one beat are the same request,
and those under one key are for one logical beat and have one body, unless the hash collides on
the messages behind the keys. Once the heartbeat is stopped, it calls for no publication. -/
theorem durable_heartbeat_operations (runtime : JsRuntime) (sender : DurableSender)
    (settings : HeartbeatSettings) (events : List CoordinatorEvent) (final : DurableHeartbeat)
    (ran : run runtime sender settings events = some final) :
    (∀ beat, (final.client.posts.filter (·.beat = beat)).length ≤ 2) ∧
    (∀ first ∈ final.client.posts, ∀ second ∈ final.client.posts, first.beat = second.beat →
      first.request runtime sender = second.request runtime sender) ∧
    (∀ first ∈ final.client.posts, ∀ second ∈ final.client.posts,
      (first.request runtime sender).header? "Idempotency-Key" =
        (second.request runtime sender).header? "Idempotency-Key" →
      (first.context.logicalBeat = second.context.logicalBeat ∧
        (first.request runtime sender).body = (second.request runtime sender).body) ∨
      Collides runtime.keccak256 (final.client.posts.map (HeartbeatPost.message sender))) ∧
    ∀ before after stopped, events = before ++ CoordinatorEvent.loop .stop :: after →
      run runtime sender settings (before ++ [CoordinatorEvent.loop .stop]) = some stopped →
      final.client.publications.length = stopped.client.publications.length := by
  have sound := run_sound ran
  refine ⟨fun beat => ?_, fun first firstIn second secondIn own => ?_,
    fun first firstIn second secondIn same => ?_, fun before after stopped parts reached => ?_⟩
  · exact (sound.client.posts_le beat).trans (sound.counted.limited.few beat)
  · rw [HeartbeatPost.request, HeartbeatPost.request, sound.client.context_eq
      sound.counted.limited firstIn secondIn own, sound.client.schemaVersion_eq firstIn secondIn]
  · rw [or_iff_not_imp_right]
    intro clean
    rw [HeartbeatPost.request, HeartbeatPost.request, submitRequest_key, submitRequest_key] at same
    have messages := eq_of_hash_eq clean (List.mem_map_of_mem firstIn)
      (List.mem_map_of_mem secondIn) (idempotencyKey_inj (Option.some.inj same))
    obtain ⟨beats, bodies⟩ := heartbeatMessage_inj messages
    refine ⟨beats, ?_⟩
    rw [HeartbeatPost.request, HeartbeatPost.request, submitRequest, submitRequest, bodies]
  · rw [parts, List.append_cons, run_append, reached] at ran
    exact (run_stopped (run_stop reached) ran).2

/-- A runtime that knows one answer of a coordinator, and hashes a message to its length. -/
def sampleRuntime : JsRuntime where
  keccak256 bytes := BitVec.ofNat 256 bytes.length
  parse text :=
    if text = "capabilities" then
      some (.object [("schemaVersion", .number (some 1)), ("negotiation",
        .object [("header", .string "Accept-Schema-Version"),
          ("supported", .array [.number (some 1)])])])
    else none
  toNumber value := (value.bind asNumber?).join.map BitVec.toNat
  toText value := (value.bind Json.Value.asString?).getD ""
  excerpt text := text
  isDate _ := true

def sampleSender : DurableSender :=
  ⟨"https://coordinator", "token", 1, "0x01", "0x02", "0x03", "0x04"⟩

/-- A beat whose first submission times out, so that it submits again, before it is stopped. -/
def submittedTwice : List CoordinatorEvent :=
  [.loop (.probeAnswered true 1900000000000),
    .capabilitiesAnswered 0 (.answered 200 "capabilities"), .publicationNegotiated 0,
    .submitAnswered 0 .aborted, .loop (.probeAnswered true 1900000005000), .loop .delayElapsed,
    .publicationNegotiated 1, .loop .stop]

theorem durable_heartbeat_operations_sample :
    ∃ final first second, DurableHeartbeat.run sampleRuntime sampleSender defaultSettings
        submittedTwice = some final ∧
      final.client.posts = [first, second] ∧ first.beat = second.beat ∧
      first.request sampleRuntime sampleSender = second.request sampleRuntime sampleSender := by
  have posted : (DurableHeartbeat.run sampleRuntime sampleSender defaultSettings
      submittedTwice).map (fun final => final.client.posts) =
        some [⟨0, 1, ⟨31666666, 2⟩, 1⟩, ⟨1, 1, ⟨31666666, 2⟩, 1⟩] := by
    decide +kernel
  obtain ⟨final, ran, posts⟩ := Option.map_eq_some_iff.mp posted
  refine ⟨final, _, _, ran, posts, rfl, ?_⟩
  refine (durable_heartbeat_operations sampleRuntime sampleSender defaultSettings submittedTwice
    final ran).2.1 _ ?_ _ ?_ rfl
  · rw [posts]
    exact List.mem_cons_self
  · rw [posts]
    exact List.mem_cons_of_mem _ List.mem_cons_self

end Zkdeal

/-
This file is the proof service: requests arrive, each is handled by one function, and
the function hands the command of its route to the runtime's pool of blocking threads.

A handler checks the shared secret and the body, takes the permit of the GPU when its
route needs one, puts its command into the pool and waits for the result. The pool
executes as many commands at a time as it has threads and keeps the others in order; a
handler whose client goes away gives its permit back and leaves its command there.

The permit keeps commands that need no GPU from waiting for one that does. The pool is
the other queue on the way, and all routes share it: a command can start beside one
that is executing exactly when there is a second thread.
-/

import Zkdeal.Library.Guard
import Zkdeal.Library.Words

namespace Zkdeal

open Words Guard

/-! ### Routes and requests -/

/-- The routes that run a command. -/
inductive Route where
  | prepareRoom
  | prepareLiveRoomBatch
  | executeRoom
  | proveRoom
  | verifyRoom
  | executeColdTemplate
  | proveColdTemplate
  | verifyColdTemplate
  | prepareDataAvailability
  | executeDataAvailability
  | proveDataAvailability
  | verifyDataAvailability
  | executeAggregate
  | proveAggregate
  | verifyAggregate
  | wrapGroth16
  | wrapIdentityP254
  | wrapGroth16FromP254
deriving DecidableEq

def Route.path : Route → String
  | .prepareRoom => "/v5/rooms/prepare"
  | .prepareLiveRoomBatch => "/hosting/v1/rooms/prepare-batch"
  | .executeRoom => "/v5/rooms/execute"
  | .proveRoom => "/v5/rooms/prove"
  | .verifyRoom => "/v5/rooms/verify"
  | .executeColdTemplate => "/v5/cold-templates/execute"
  | .proveColdTemplate => "/v5/cold-templates/prove"
  | .verifyColdTemplate => "/v5/cold-templates/verify"
  | .prepareDataAvailability => "/v5/data-availability/prepare"
  | .executeDataAvailability => "/v5/data-availability/execute"
  | .proveDataAvailability => "/v5/data-availability/prove"
  | .verifyDataAvailability => "/v5/data-availability/verify"
  | .executeAggregate => "/v5/aggregates/execute"
  | .proveAggregate => "/v5/aggregates/prove"
  | .verifyAggregate => "/v5/aggregates/verify"
  | .wrapGroth16 => "/v5/receipts/wrap"
  | .wrapIdentityP254 => "/v5/receipts/identity-p254"
  | .wrapGroth16FromP254 => "/v5/receipts/groth16"

def Route.needsGpu : Route → Bool
  | .prepareRoom | .proveRoom | .proveColdTemplate | .proveDataAvailability | .proveAggregate
  | .wrapGroth16 | .wrapIdentityP254 | .wrapGroth16FromP254 => true
  | .prepareLiveRoomBatch | .executeRoom | .verifyRoom | .executeColdTemplate
  | .verifyColdTemplate | .prepareDataAvailability | .executeDataAvailability
  | .verifyDataAvailability | .executeAggregate | .verifyAggregate => false

/-- A request: its route, its authorization header if it is text, and its body if it is. -/
structure HttpRequest where
  route : Route
  authorization : Option Bytes
  body : Option String
deriving DecidableEq

/-- What the handler and the runtime are configured with. -/
structure HttpService where
  token : Option Bytes
  gpuPermits : Nat
  maxBlockingThreads : Nat

/-- The service as it is started. -/
def serveV5 (token : Option Bytes) : HttpService := ⟨token, 1, 1⟩

/-- The octets in which a presented secret differs from the expected one, joined, and a mark
for another length. -/
def tokenDifference (expected presented : Bytes) : Byte :=
  expected.zipIdx.foldl (fun difference entry =>
      difference ||| (entry.1 ^^^ presented.getD entry.2 0))
    (if expected.length ≠ presented.length then 1 else 0)

def authorizedV5 (expected authorization : Option Bytes) : Bool :=
  match expected with
  | none => true
  | some expected =>
    match authorization.filter (ascii "Bearer " <+: ·) with
    | none => false
    | some header => tokenDifference expected (header.drop 7) = 0

/-! ### Handlers and the pool -/

/-- What a request is counted as. -/
inductive Outcome where
  | unauthorized
  | rejected
  | error
  | ok
deriving DecidableEq

/-- How a command ends. -/
inductive CommandResult where
  | succeeded
  | failed
  | panicked
deriving DecidableEq

def CommandResult.outcome : CommandResult → Outcome
  | .succeeded => .ok
  | .failed => .rejected
  | .panicked => .error

/-- Where a handler is: before its first step, waiting for the permit of the GPU, waiting for
its command with or without a permit, or at its end. -/
inductive HandlerPhase where
  | received
  | waiting
  | spawned (permit : Bool)
  | responded
  | dropped
deriving DecidableEq

/-- The handler has not put its command into the pool. -/
def HandlerPhase.Idle (phase : HandlerPhase) : Prop := phase = .received ∨ phase = .waiting

/-- The handlers in the order of arrival, the free permits, the commands that are queued and
those that execute, the results that were not picked up, and the counted outcomes. -/
structure HttpState where
  handlers : List (HttpRequest × HandlerPhase)
  permits : Nat
  queue : List Nat
  executing : List Nat
  results : List (Nat × CommandResult)
  metrics : List (String × Outcome)
deriving DecidableEq

def HttpService.start (service : HttpService) : HttpState :=
  ⟨[], service.gpuPermits, [], [], [], []⟩

def HttpState.setPhase (state : HttpState) (id : Nat) (request : HttpRequest)
    (phase : HandlerPhase) : HttpState :=
  { state with handlers := state.handlers.set id (request, phase) }

/-- End a handler and count its request. -/
def HttpState.respond (state : HttpState) (id : Nat) (request : HttpRequest) (outcome : Outcome) :
    HttpState :=
  { state.setPhase id request .responded with
    metrics := state.metrics ++ [(request.route.path, outcome)] }

/-- Put the command of a handler at the end of the pool's queue. -/
def HttpState.spawn (state : HttpState) (id : Nat) (request : HttpRequest) (permit : Bool) :
    HttpState :=
  { state.setPhase id request (.spawned permit) with queue := state.queue ++ [id] }

/-- Give a permit back if one was held. -/
def HttpState.release (state : HttpState) (phase : HandlerPhase) : HttpState :=
  { state with permits := if phase = .spawned true then state.permits + 1 else state.permits }

inductive HttpEvent where
  | arrive (request : HttpRequest)
  | poll (id : Nat)
  | acquire (id : Nat)
  | start
  | finish (id : Nat) (result : CommandResult)
  | respond (id : Nat)
  | drop (id : Nat)

/-- A handler up to the point at which it waits: for the permit or for its command. -/
def httpCommandV5 (service : HttpService) (state : HttpState) (id : Nat) (request : HttpRequest) :
    HttpState :=
  if authorizedV5 service.token request.authorization = false then
    state.respond id request .unauthorized
  else if request.body = none then state.respond id request .rejected
  else if request.route.needsGpu then state.setPhase id request .waiting
  else state.spawn id request false

/-- One event. A thread takes the oldest command of the queue; every other event is about one
handler. -/
def HttpService.step (service : HttpService) (state : HttpState) : HttpEvent → Option HttpState
  | .arrive request => some { state with handlers := state.handlers ++ [(request, .received)] }
  | .poll id =>
    match state.handlers[id]? with
    | some (request, .received) => some (httpCommandV5 service state id request)
    | _ => none
  | .acquire id =>
    match state.handlers[id]? with
    | some (request, .waiting) =>
      if 0 < state.permits then
        some ({ state with permits := state.permits - 1 }.spawn id request true)
      else none
    | _ => none
  | .start =>
    match state.queue with
    | [] => none
    | id :: rest =>
      if state.executing.length < service.maxBlockingThreads then
        some { state with queue := rest, executing := state.executing ++ [id] }
      else none
  | .finish id result =>
    if id ∈ state.executing then
      some { state with
        executing := state.executing.erase id
        results := (id, result) :: state.results }
    else none
  | .respond id =>
    match state.handlers[id]?, state.results.lookup id with
    | some (request, .spawned permit), some result =>
      some ((state.release (.spawned permit)).respond id request result.outcome)
    | _, _ => none
  | .drop id =>
    match state.handlers[id]? with
    | some (request, phase) =>
      if phase = .responded ∨ phase = .dropped then none
      else some ((state.release phase).setPhase id request .dropped)
    | none => none

def HttpService.run (service : HttpService) (events : List HttpEvent) : Option HttpState :=
  events.foldlM service.step service.start

/-! ### The secret -/

/-- What an event can do. -/
inductive HttpService.Moves (service : HttpService) (state : HttpState) :
    HttpEvent → HttpState → Prop where
  | arrive (request : HttpRequest) : Moves service state (.arrive request)
      { state with handlers := state.handlers ++ [(request, .received)] }
  | poll {id : Nat} {request : HttpRequest}
      (found : state.handlers[id]? = some (request, .received)) :
      Moves service state (.poll id) (httpCommandV5 service state id request)
  | acquire {id : Nat} {request : HttpRequest}
      (found : state.handlers[id]? = some (request, .waiting)) (free : 0 < state.permits) :
      Moves service state (.acquire id)
        ({ state with permits := state.permits - 1 }.spawn id request true)
  | start {id : Nat} {rest : List Nat} (queue : state.queue = id :: rest)
      (free : state.executing.length < service.maxBlockingThreads) :
      Moves service state .start
        { state with queue := rest, executing := state.executing ++ [id] }
  | finish {id : Nat} (result : CommandResult) (member : id ∈ state.executing) :
      Moves service state (.finish id result)
        { state with
          executing := state.executing.erase id
          results := (id, result) :: state.results }
  | respond {id : Nat} {request : HttpRequest} {permit : Bool} {result : CommandResult}
      (found : state.handlers[id]? = some (request, .spawned permit))
      (ended : state.results.lookup id = some result) :
      Moves service state (.respond id)
        ((state.release (.spawned permit)).respond id request result.outcome)
  | drop {id : Nat} {request : HttpRequest} {phase : HandlerPhase}
      (found : state.handlers[id]? = some (request, phase))
      (live : ¬ (phase = .responded ∨ phase = .dropped)) :
      Moves service state (.drop id) ((state.release phase).setPhase id request .dropped)

theorem HttpService.step_moves {service : HttpService} {state after : HttpState}
    {event : HttpEvent} (stepped : service.step state event = some after) :
    service.Moves state event after := by
  cases event with
  | arrive request =>
    obtain rfl := Option.some.inj stepped
    exact .arrive request
  | poll id =>
    rw [HttpService.step] at stepped
    split at stepped
    · rename_i request found
      obtain rfl := Option.some.inj stepped
      exact .poll found
    · cases stepped
  | acquire id =>
    rw [HttpService.step] at stepped
    split at stepped
    · rename_i request found
      split at stepped
      · rename_i free
        obtain rfl := Option.some.inj stepped
        exact .acquire found free
      · cases stepped
    · cases stepped
  | start =>
    rw [HttpService.step] at stepped
    split at stepped
    · cases stepped
    · rename_i id rest queue
      split at stepped
      · rename_i free
        obtain rfl := Option.some.inj stepped
        exact .start queue free
      · cases stepped
  | finish id result =>
    rw [HttpService.step] at stepped
    split at stepped
    · rename_i member
      obtain rfl := Option.some.inj stepped
      exact .finish result member
    · cases stepped
  | respond id =>
    rw [HttpService.step] at stepped
    split at stepped
    · rename_i request permit result found ended
      obtain rfl := Option.some.inj stepped
      exact .respond found ended
    · cases stepped
  | drop id =>
    rw [HttpService.step] at stepped
    split at stepped
    · rename_i request phase found
      split at stepped
      · cases stepped
      · rename_i live
        obtain rfl := Option.some.inj stepped
        exact .drop found live
    · cases stepped

/-- A command is in the pool once, its handler has put it there, and no more commands execute
than there are threads. -/
structure HttpState.Sound (service : HttpService) (state : HttpState) : Prop where
  started : ∀ id ∈ state.queue ++ state.executing, ∃ entry,
    state.handlers[id]? = some entry ∧ ¬ entry.2.Idle
  distinct : (state.queue ++ state.executing).Nodup
  bounded : state.executing.length ≤ service.maxBlockingThreads

section Sound

variable {service : HttpService} {state after : HttpState} {id : Nat} {request : HttpRequest}
  {phase next : HandlerPhase}

theorem HttpService.start_sound (service : HttpService) : service.start.Sound service :=
  ⟨fun _ member => absurd member List.not_mem_nil, List.nodup_nil, Nat.zero_le _⟩

/-- A handler that has not put its command into the pool is not in the pool. -/
theorem HttpState.Sound.notMem (sound : state.Sound service)
    (found : state.handlers[id]? = some (request, phase)) (idle : phase.Idle) :
    id ∉ state.queue ++ state.executing := by
  intro member
  obtain ⟨entry, known, busy⟩ := sound.started id member
  rw [found] at known
  obtain rfl := Option.some.inj known
  exact busy idle

/-- The handlers after one of them moved. -/
theorem getElem?_setPhase (found : state.handlers[id]? = some (request, phase)) (other : Nat) :
    (state.setPhase id request next).handlers[other]? =
      if id = other then some (request, next) else state.handlers[other]? := by
  have known : id < state.handlers.length := (List.getElem?_eq_some_iff.mp found).1
  rw [HttpState.setPhase, List.getElem?_set, if_pos known]

/-- A handler may move on its own as long as it does not become idle with its command in the
pool. -/
theorem HttpState.Sound.setPhase (sound : state.Sound service)
    (found : state.handlers[id]? = some (request, phase))
    (allowed : id ∈ state.queue ++ state.executing → ¬ next.Idle) :
    (state.setPhase id request next).Sound service := by
  refine ⟨fun other member => ?_, sound.distinct, sound.bounded⟩
  rw [getElem?_setPhase found]
  split
  · rename_i same
    subst same
    exact ⟨_, rfl, allowed member⟩
  · exact sound.started other member

theorem HttpState.Sound.respond (sound : state.Sound service)
    (found : state.handlers[id]? = some (request, phase)) (outcome : Outcome) :
    (state.respond id request outcome).Sound service := by
  have moved : (state.setPhase id request .responded).Sound service := by
    refine sound.setPhase found fun _ => ?_
    rintro (same | same) <;> cases same
  exact ⟨moved.started, moved.distinct, moved.bounded⟩

/-- An idle handler puts its command into the pool. -/
theorem HttpState.Sound.spawn (sound : state.Sound service)
    (found : state.handlers[id]? = some (request, phase)) (idle : phase.Idle) (permit : Bool) :
    (state.spawn id request permit).Sound service := by
  have fresh := sound.notMem found idle
  have moved : (state.setPhase id request (.spawned permit)).Sound service :=
    sound.setPhase found fun member => absurd member fresh
  have perm : ((state.queue ++ [id]) ++ state.executing).Perm
      (id :: (state.queue ++ state.executing)) := by
    rw [List.append_assoc, List.singleton_append]
    exact List.perm_middle
  refine ⟨fun other member => ?_, ?_, sound.bounded⟩
  · rcases List.mem_cons.mp (perm.mem_iff.mp member) with rfl | pooled
    · refine ⟨(request, .spawned permit), ?_, ?_⟩
      · exact (getElem?_setPhase found other).trans (if_pos rfl)
      · rintro (same | same) <;> cases same
    · exact moved.started other pooled
  · exact perm.nodup_iff.mpr (List.nodup_cons.mpr ⟨fresh, sound.distinct⟩)

/-- The permits are no part of the invariant. -/
theorem HttpState.Sound.setPermits (sound : state.Sound service) (permits : Nat) :
    { state with permits := permits }.Sound service :=
  ⟨sound.started, sound.distinct, sound.bounded⟩

theorem HttpState.Sound.release (sound : state.Sound service) (phase : HandlerPhase) :
    (state.release phase).Sound service :=
  sound.setPermits _

theorem HttpState.Sound.httpCommandV5 (sound : state.Sound service)
    (found : state.handlers[id]? = some (request, .received)) :
    (httpCommandV5 service state id request).Sound service := by
  unfold Zkdeal.httpCommandV5
  split
  · exact sound.respond found _
  split
  · exact sound.respond found _
  split
  · exact sound.setPhase found fun member => absurd member (sound.notMem found (.inl rfl))
  · exact sound.spawn found (.inl rfl) false

/-- A thread takes the oldest command. -/
theorem HttpState.Sound.takes {rest : List Nat} (sound : state.Sound service)
    (queue : state.queue = id :: rest)
    (free : state.executing.length < service.maxBlockingThreads) :
    { state with queue := rest, executing := state.executing ++ [id] }.Sound service := by
  have perm : (rest ++ (state.executing ++ [id])).Perm (state.queue ++ state.executing) := by
    rw [queue, ← List.append_assoc]
    exact List.perm_append_singleton id _
  refine ⟨fun other member => sound.started other (perm.mem_iff.mp member),
    perm.nodup_iff.mpr sound.distinct, ?_⟩
  show (state.executing ++ [id]).length ≤ _
  rw [List.length_append, List.length_singleton]
  exact free

theorem HttpState.Sound.ends (sound : state.Sound service) (id : Nat)
    (results : List (Nat × CommandResult)) :
    { state with executing := state.executing.erase id, results := results }.Sound service := by
  have sublist : (state.queue ++ state.executing.erase id).Sublist
      (state.queue ++ state.executing) := List.Sublist.append_left List.erase_sublist _
  refine ⟨fun other member => sound.started other (sublist.subset member),
    sublist.nodup sound.distinct, ?_⟩
  exact le_trans List.length_erase_le sound.bounded

theorem HttpService.step_sound (sound : state.Sound service) {event : HttpEvent}
    (stepped : service.step state event = some after) : after.Sound service := by
  cases HttpService.step_moves stepped with
  | arrive request =>
    refine ⟨fun id member => ?_, sound.distinct, sound.bounded⟩
    obtain ⟨entry, found, busy⟩ := sound.started id member
    refine ⟨entry, ?_, busy⟩
    rw [List.getElem?_append_left (List.getElem?_eq_some_iff.mp found).1, found]
  | poll found => exact sound.httpCommandV5 found
  | acquire found free => exact (sound.setPermits (state.permits - 1)).spawn found (.inr rfl) true
  | start queue free => exact sound.takes queue free
  | finish result member => exact sound.ends _ _
  | respond found ended => exact (sound.release _).respond found _
  | drop found live =>
    refine (sound.release _).setPhase found fun _ => ?_
    rintro (same | same) <;> cases same

theorem HttpService.run_sound {events : List HttpEvent} (ran : service.run events = some state) :
    state.Sound service := by
  refine foldlM_some_invariant (fun _ state => state.Sound service) ran service.start_sound ?_
  intro _ event before after sound stepped
  exact service.step_sound sound stepped

/-! ### Starting beside a command that executes -/

/-- Only its own end takes a command out of execution. -/
theorem HttpService.step_executing {event : HttpEvent} {gpu : Nat}
    (stepped : service.step state event = some after)
    (continues : ∀ result, event ≠ .finish gpu result) (executing : gpu ∈ state.executing) :
    gpu ∈ after.executing := by
  cases HttpService.step_moves stepped with
  | arrive request => exact executing
  | poll found =>
    unfold Zkdeal.httpCommandV5
    split
    · exact executing
    split
    · exact executing
    split
    · exact executing
    · exact executing
  | acquire found free => exact executing
  | start queue free => exact List.mem_append_left _ executing
  | finish result member =>
    refine (List.mem_erase_of_ne ?_).mpr executing
    rintro rfl
    exact continues result rfl
  | respond found ended => exact executing
  | drop found live => exact executing

theorem HttpService.run_executing {events : List HttpEvent} {gpu : Nat}
    (ran : events.foldlM service.step state = some after)
    (continues : ∀ event ∈ events, ∀ result, event ≠ .finish gpu result)
    (executing : gpu ∈ state.executing) : gpu ∈ after.executing := by
  induction events generalizing state with
  | nil => exact Option.some.inj ran ▸ executing
  | cons event rest inductionHypothesis =>
    rw [List.foldlM_cons] at ran
    obtain ⟨next, stepped, ran⟩ := Option.bind_eq_some_iff.mp ran
    rw [List.forall_mem_cons] at continues
    exact inductionHypothesis ran continues.2
      (service.step_executing stepped continues.1 executing)

end Sound

/-- A run without the end of one command in which another one starts. -/
def HttpService.StartsBefore (service : HttpService) (state : HttpState) (id gpu : Nat) : Prop :=
  ∃ (events : List HttpEvent) (later : HttpState),
    (∀ event ∈ events, ∀ result, event ≠ .finish gpu result) ∧
    events.foldlM service.step state = some later ∧ id ∈ later.executing

/-- A request that was let in, has a command that needs no GPU, and whose command is still to
start. -/
structure HttpService.CpuPending (service : HttpService) (state : HttpState) (id : Nat)
    (request : HttpRequest) (phase : HandlerPhase) : Prop where
  found : state.handlers[id]? = some (request, phase)
  authorized : authorizedV5 service.token request.authorization = true
  text : request.body ≠ none
  cpuOnly : request.route.needsGpu = false
  pending : phase = .received ∨ id ∈ state.queue

section Start

variable {service : HttpService} {state : HttpState} {id gpu : Nat} {request : HttpRequest}
  {phase : HandlerPhase}

/-- Two commands at a time take two threads. -/
theorem two_le_of_startsBefore (sound : state.Sound service) (executing : gpu ∈ state.executing)
    (different : id ≠ gpu) (starts : service.StartsBefore state id gpu) :
    2 ≤ service.maxBlockingThreads := by
  obtain ⟨events, later, continues, ran, started⟩ := starts
  have still := HttpService.run_executing ran continues executing
  have laterSound : later.Sound service := by
    refine foldlM_some_invariant (fun _ state => state.Sound service) ran sound ?_
    intro _ event before after sound stepped
    exact service.step_sound sound stepped
  have pair : [id, gpu].Subperm later.executing := by
    refine List.subperm_of_subset (by simpa using different) ?_
    simp [started, still]
  exact le_trans pair.length_le laterSound.bounded

/-- An event on the way to the start. -/
theorem startsBefore_of_step {next : HttpState} {event : HttpEvent}
    (stepped : service.step state event = some next)
    (continues : ∀ result, event ≠ .finish gpu result)
    (starts : service.StartsBefore next id gpu) : service.StartsBefore state id gpu := by
  obtain ⟨events, later, rest, ran, started⟩ := starts
  refine ⟨event :: events, later, List.forall_mem_cons.mpr ⟨continues, rest⟩, ?_, started⟩
  rw [List.foldlM_cons, stepped]
  exact ran

/-- With a second thread the queue is worked off beside the command that executes. -/
theorem startsBefore_of_mem_queue (threads : 2 ≤ service.maxBlockingThreads)
    (sound : state.Sound service) (executing : state.executing = [gpu])
    (queued : id ∈ state.queue) : service.StartsBefore state id gpu := by
  obtain ⟨queue, parts⟩ : ∃ queue, state.queue = queue := ⟨_, rfl⟩
  induction queue generalizing state with
  | nil =>
    rw [parts] at queued
    exact absurd queued List.not_mem_nil
  | cons front rest inductionHypothesis =>
    have free : state.executing.length < service.maxBlockingThreads := by
      rw [executing]
      exact threads
    have taken : service.step state .start =
        some { state with queue := rest, executing := state.executing ++ [front] } := by
      rw [HttpService.step, parts]
      exact if_pos free
    refine startsBefore_of_step taken (fun _ same => nomatch same) ?_
    by_cases same : id = front
    · exact ⟨[], _, fun _ member => absurd member List.not_mem_nil, rfl,
        List.mem_append_right _ (List.mem_singleton.mpr same)⟩
    · have takenSound := service.step_sound sound taken
      have apart : front ≠ gpu := by
        have distinct := sound.distinct
        rw [parts, executing] at distinct
        exact (List.nodup_append.mp distinct).2.2 front List.mem_cons_self gpu
          (List.mem_singleton.mpr rfl)
      have ended : service.step
          { state with queue := rest, executing := state.executing ++ [front] }
          (.finish front .succeeded) = some { state with
            queue := rest
            executing := (state.executing ++ [front]).erase front
            results := (front, .succeeded) :: state.results } :=
        if_pos (List.mem_append_right _ (List.mem_singleton.mpr rfl))
      refine startsBefore_of_step ended ?_ ?_
      · rintro result finished
        exact apart (HttpEvent.finish.inj finished).1
      · refine inductionHypothesis (service.step_sound takenSound ended) ?_ ?_ rfl
        · show (state.executing ++ [front]).erase front = [gpu]
          rw [executing, List.singleton_append, List.erase_cons_tail (by simpa using apart.symm),
            List.erase_cons_head]
        · rw [parts] at queued
          exact (List.mem_cons.mp queued).resolve_left same

/-- A pending request is in the queue at most one step later. -/
theorem startsBefore_of_pending (threads : 2 ≤ service.maxBlockingThreads)
    (sound : state.Sound service) (executing : state.executing = [gpu])
    (cpu : service.CpuPending state id request phase) : service.StartsBefore state id gpu := by
  rcases cpu.pending with received | queued
  · have found := cpu.found
    rw [received] at found
    have polled : service.step state (.poll id) = some (state.spawn id request false) := by
      rw [HttpService.step, found]
      show some (httpCommandV5 service state id request) = _
      rw [httpCommandV5, if_neg (by simp [cpu.authorized]), if_neg cpu.text,
        if_neg (by simp [cpu.cpuOnly])]
    refine startsBefore_of_step polled (fun _ same => nomatch same) ?_
    refine startsBefore_of_mem_queue threads (service.step_sound sound polled) executing ?_
    exact List.mem_append_right _ (List.mem_singleton.mpr rfl)
  · exact startsBefore_of_mem_queue threads sound executing queued

end Start

/-- In every reachable state in which one command executes and it needs the GPU, a command
that needs none can start before that one ends exactly when the pool has a second thread. -/
theorem cpu_command_starts_iff (service : HttpService) (events : List HttpEvent)
    (state : HttpState) (ran : service.run events = some state) (gpu : Nat)
    (gpuRequest : HttpRequest) (gpuPhase : HandlerPhase)
    (gpuFound : state.handlers[gpu]? = some (gpuRequest, gpuPhase))
    (needsGpu : gpuRequest.route.needsGpu = true) (executing : state.executing = [gpu])
    (id : Nat) (request : HttpRequest) (phase : HandlerPhase)
    (cpu : service.CpuPending state id request phase) :
    service.StartsBefore state id gpu ↔ 2 ≤ service.maxBlockingThreads := by
  have sound := HttpService.run_sound ran
  have different : id ≠ gpu := by
    rintro rfl
    obtain ⟨rfl, -⟩ := Prod.mk.inj (Option.some.inj (cpu.found.symm.trans gpuFound))
    exact Bool.false_ne_true (cpu.cpuOnly.symm.trans needsGpu)
  constructor
  · refine two_le_of_startsBefore sound ?_ different
    rw [executing]
    exact List.mem_singleton.mpr rfl
  · exact fun threads => startsBefore_of_pending threads sound executing cpu

def sampleProve : HttpRequest := ⟨.proveRoom, none, some "proof"⟩

def sampleVerify : HttpRequest := ⟨.verifyRoom, none, some "receipt"⟩

/-- A proof is requested and executes when a verification arrives. -/
def sampleEvents : List HttpEvent :=
  [.arrive sampleProve, .poll 0, .acquire 0, .start, .arrive sampleVerify]

def sampleServed : HttpState :=
  ⟨[(sampleProve, .spawned true), (sampleVerify, .received)], 0, [], [0], [], []⟩

theorem sampleServed_pending (permits threads : Nat) :
    HttpService.CpuPending ⟨none, permits, threads⟩ sampleServed 1 sampleVerify .received where
  found := rfl
  authorized := rfl
  text := Option.some_ne_none _
  cpuOnly := rfl
  pending := .inl rfl

/-- On two threads the verification starts beside the proof. -/
theorem cpu_command_starts_iff_sample :
    HttpService.StartsBefore ⟨none, 1, 2⟩ sampleServed 1 0 :=
  (cpu_command_starts_iff ⟨none, 1, 2⟩ sampleEvents sampleServed rfl 0 sampleProve
    (.spawned true) rfl rfl rfl 1 sampleVerify .received (sampleServed_pending 1 2)).mpr le_rfl

/-- In the service as it is started the verification waits for the proof. -/
theorem cpu_command_waits :
    (serveV5 none).run sampleEvents = some sampleServed ∧ sampleServed.executing = [0] ∧
      sampleServed.handlers[0]? = some (sampleProve, .spawned true) ∧
      sampleProve.route.needsGpu = true ∧
      (serveV5 none).CpuPending sampleServed 1 sampleVerify .received ∧
      ¬ (serveV5 none).StartsBefore sampleServed 1 0 := by
  have ran : (serveV5 none).run sampleEvents = some sampleServed := rfl
  refine ⟨ran, rfl, rfl, rfl, sampleServed_pending 1 1, fun starts => ?_⟩
  have threads := two_le_of_startsBefore (HttpService.run_sound ran)
    (show 0 ∈ sampleServed.executing from List.mem_singleton.mpr rfl) (by decide) starts
  exact absurd threads (by decide)

end Zkdeal

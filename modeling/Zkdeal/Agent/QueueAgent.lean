/-
This file is the queue agent: the loop that leases a job, forwards it to the local
prover and reports what became of it.

As with the heartbeat, the loop is a machine over what it waits for. Every `await` of
the source is a phase, and everything that can happen is an event: an answer or a
failure of the queue or of the prover, the end of a sleep, a tick of the interval that
keeps a lease alive, the call of `stop`. A sleep ends by its timer or because `stop`
wakes it. What the loop does, and what its requests come to, is kept in its history.

The trace sink is a parameter that may refuse a record, as it likes, at any moment; the
log is written to and never read.
-/

import Zkdeal.Agent.JavaScript

namespace Zkdeal

open Texts Guard

/-! ### Trace records -/

inductive AgentTraceEvent where
  | jobStart
  | jobComplete
  | jobError
deriving DecidableEq

def AgentTraceEvent.text : AgentTraceEvent → String
  | .jobStart => "job.start"
  | .jobComplete => "job.complete"
  | .jobError => "job.error"

inductive AgentTraceOutcome where
  | started
  | succeeded
  | retrying
  | failed
deriving DecidableEq

def AgentTraceOutcome.text : AgentTraceOutcome → String
  | .started => "started"
  | .succeeded => "succeeded"
  | .retrying => "retrying"
  | .failed => "failed"

structure AgentTraceInput where
  correlationId : String
  tenantId : String
  roomId : Option String
  jobId : String
  event : AgentTraceEvent
  outcome : AgentTraceOutcome
deriving DecidableEq

def maxAgentTraceBytes : Nat := 2048

/-- A letter or digit, and at most 199 more of them or of five punctuation marks. -/
def safeIdentifier (text : String) : Bool :=
  match text.toList with
  | [] => false
  | first :: rest =>
    first.isAlphanum && rest.length ≤ 199 &&
      rest.all fun character => character.isAlphanum || "._:/-".toList.contains character

def identifier (value label : String) : Except Thrown String := do
  refuse (safeIdentifier value = false) (some (label ++ " is unsafe for a prover-agent trace"))
  pure value

/-- The record as it is written. -/
def agentTraceRecord (timestamp : String) (input : AgentTraceInput) : Except Thrown Text := do
  let correlationId ← identifier input.correlationId "correlationId"
  let tenantId ← identifier input.tenantId "tenantId"
  let roomId ← match input.roomId with
    | none => pure "null".toList
    | some roomId => (identifier roomId "roomId").map JsonText.quote
  let jobId ← identifier input.jobId "jobId"
  let record := JsonText.object [("schemaVersion", JsonText.integer 1),
    ("timestamp", JsonText.quote timestamp), ("correlationId", JsonText.quote correlationId),
    ("tenantId", JsonText.quote tenantId), ("roomId", roomId), ("jobId", JsonText.quote jobId),
    ("operationId", "null".toList), ("component", JsonText.quote "prover-agent"),
    ("event", JsonText.quote input.event.text), ("outcome", JsonText.quote input.outcome.text)]
  refuse (maxAgentTraceBytes < utf8Length record)
    (some "prover-agent trace exceeds its serialized byte bound")
  pure record

/-! ### Jobs -/

structure LeasedJob where
  jobId : String
  tenantId : String
  roomId : Option String
  correlationId : String
  endpoint : String
  needsGpu : Bool
  attempts : Nat
  request : Json.Value

def LeasedJob.trace (job : LeasedJob) (event : AgentTraceEvent) (outcome : AgentTraceOutcome) :
    AgentTraceInput :=
  ⟨job.correlationId, job.tenantId, job.roomId, job.jobId, event, outcome⟩

/-- `String(value ?? '')`. -/
def textOrEmpty (runtime : JsRuntime) : Option Json.Value → String
  | none => ""
  | some .null => ""
  | value => runtime.toText value

def safeCount? : Json.Value → Option Nat
  | .number (some count) => some count.toNat
  | _ => none

def parseLeasedJob (runtime : JsRuntime) (timestamp : String) (value : Json.Value) :
    Except Thrown LeasedJob := do
  let source ← record (some value) "leased job"
  let endpoint ← orRefuse
    ((textAt source "endpoint").filter fun text => text.toList.head? == some '/')
    (some "leased job endpoint is invalid")
  let needsGpu ← orRefuse ((Json.get? source "needsGpu").bind Json.Value.asBool?)
    (some "leased job needsGpu is invalid")
  let request ← orRefuse (Json.get? source "request") (some "leased job request is missing")
  let attempts ← orRefuse (((Json.get? source "attempts").bind safeCount?).filter
    fun count => isSafeInteger count && 1 ≤ count) (some "leased job attempts is invalid")
  let job : LeasedJob := {
    jobId := textOrEmpty runtime (Json.get? source "jobId")
    tenantId := textOrEmpty runtime (Json.get? source "tenantId")
    roomId := match Json.get? source "roomId" with
      | some .null => none
      | value => some (textOrEmpty runtime value)
    correlationId := textOrEmpty runtime (Json.get? source "correlationId")
    endpoint, needsGpu, attempts, request }
  let _ ← agentTraceRecord timestamp (job.trace .jobStart .started)
  pure job

/-! ### The local prover -/

/-- How a forwarded job ended. The reason is what the prover gave, whatever it is. -/
inductive ForwardOutcome where
  | ok (result : Json.Value)
  | rejected (reason : Json.Value)
  | unavailable (reason : Json.Value)

/-- The requests that the agent makes of the queue. -/
inductive QueueCall where
  | lease
  | heartbeat (jobId : String)
  | complete (jobId : String) (result : Json.Value)
  | fail (jobId : String) (reason : Json.Value) (retryable : Bool)

def QueueCall.path : QueueCall → String
  | lease => "/queue/v1/lease"
  | heartbeat jobId => "/queue/v1/jobs/" ++ jobId ++ "/heartbeat"
  | complete jobId _ => "/queue/v1/jobs/" ++ jobId ++ "/complete"
  | fail jobId _ _ => "/queue/v1/jobs/" ++ jobId ++ "/fail"

def reportAttempts : Nat := 3

/-! ### The loop -/

/-- What the loop does, and what its requests come to. A report that got no answer has no
status. -/
inductive AgentAction where
  | probed
  | probeAnswered (healthy : Bool)
  | sent (call : QueueCall)
  | leaseEnded (leased : Option LeasedJob)
  | forwarded (endpoint : String) (request : Json.Value)
  | forwardEnded (result : Except Thrown ForwardOutcome)
  | reportEnded (status : Option Nat)
  | logged (line : String)
  | traced (input : AgentTraceInput)

inductive AgentPhase where
  | probing
  | resting
  | leasing
  | reading
  | forwarding (job : LeasedJob)
  | reporting (job : LeasedJob) (outcome : ForwardOutcome) (attempt : Nat)
  | pausing (job : LeasedJob) (outcome : ForwardOutcome) (attempt : Nat)
  | ended

structure AgentLoop where
  stopped : Bool
  phase : AgentPhase
  history : List AgentAction

/-- What can happen. A probe that throws counts as an unhealthy answer; a body that cannot be
read is not there. -/
inductive AgentEvent where
  | healthAnswered (healthy : Bool)
  | slept
  | leaseAnswered (status : Nat)
  | leaseThrew
  | leaseRead (timestamp : String) (body : Option Json.Value)
  | heartbeatTick
  | forwardEnded (result : Except Thrown ForwardOutcome)
  | reportAnswered (status : Nat)
  | reportThrew
  | stop

/-- The trace sink, which may look at everything that has happened. -/
abbrev TraceSink : Type := List AgentAction → AgentTraceInput → Bool

namespace AgentLoop

def act (loop : AgentLoop) (action : AgentAction) : AgentLoop :=
  { loop with history := loop.history ++ [action] }

/-- The head of the loop. -/
def next (loop : AgentLoop) : AgentLoop :=
  if loop.stopped then { loop with phase := .ended }
  else { loop.act .probed with phase := .probing }

/-- Trace a job; a sink that fails is logged. -/
def jobTrace (sink : TraceSink) (loop : AgentLoop) (input : AgentTraceInput) : AgentLoop :=
  if sink loop.history input then loop.act (.traced input)
  else (loop.act (.traced input)).act
    (.logged "Progress: the bounded prover-agent trace sink failed.")

/-- The request that reports an outcome. -/
def reportCall (job : LeasedJob) : ForwardOutcome → QueueCall
  | .ok result => .complete job.jobId result
  | .rejected reason => .fail job.jobId reason false
  | .unavailable reason => .fail job.jobId reason true

/-- One attempt to report. -/
def report (loop : AgentLoop) (job : LeasedJob) (outcome : ForwardOutcome) (attempt : Nat) :
    AgentLoop :=
  { loop.act (.sent (reportCall job outcome)) with phase := .reporting job outcome attempt }

/-- The end of a job, acknowledged or not. -/
def finishJob (sink : TraceSink) (loop : AgentLoop) (job : LeasedJob) (outcome : ForwardOutcome)
    (acknowledged : Bool) : AgentLoop :=
  let input := match outcome with
    | .ok _ =>
      if acknowledged then job.trace .jobComplete .succeeded else job.trace .jobError .retrying
    | .rejected _ => job.trace .jobError (if acknowledged then .failed else .retrying)
    | .unavailable _ => job.trace .jobError .retrying
  (loop.jobTrace sink input).next

/-- Begin to work on a job: the interval is set and the job is forwarded. -/
def work (sink : TraceSink) (loop : AgentLoop) (job : LeasedJob) : AgentLoop :=
  { (loop.jobTrace sink (job.trace .jobStart .started)).act (.forwarded job.endpoint job.request)
    with phase := .forwarding job }

/-- No job: rest and look again. -/
def rest (loop : AgentLoop) : AgentLoop :=
  { loop.act (.leaseEnded none) with phase := .resting }

/-- A forward that threw counts as an unavailable prover. -/
def outcomeOf : Except Thrown ForwardOutcome → ForwardOutcome
  | .ok outcome => outcome
  | .error message => .unavailable (.string (message.getD "the local forward crashed"))

def healthAnswered (loop : AgentLoop) (healthy : Bool) : Option AgentLoop :=
  match loop.phase with
  | .probing =>
    if healthy then
      some { (loop.act (.probeAnswered true)).act (.sent .lease) with phase := .leasing }
    else some { loop.act (.probeAnswered false) with phase := .resting }
  | _ => none

def slept (sink : TraceSink) (loop : AgentLoop) : Option AgentLoop :=
  match loop.phase with
  | .resting => some loop.next
  | .pausing job outcome attempt =>
    if attempt < reportAttempts then some (loop.report job outcome (attempt + 1))
    else some ((loop.act (.logged ("Progress: the queue never acknowledged " ++
      (reportCall job outcome).path ++ "; the lease will expire it."))).finishJob sink job outcome
        false)
  | _ => none

def leaseAnswered (loop : AgentLoop) (status : Nat) : Option AgentLoop :=
  match loop.phase with
  | .leasing =>
    if status = 401 then
      some (loop.act (.logged
        "Progress: the queue refused the node token; check ZKDEAL_QUEUE_NODE_TOKEN.")).rest
    else if status = 200 then some { loop with phase := .reading }
    else some loop.rest
  | _ => none

def leaseThrew (loop : AgentLoop) : Option AgentLoop :=
  match loop.phase with
  | .leasing => some loop.rest
  | _ => none

def leaseRead (runtime : JsRuntime) (sink : TraceSink) (loop : AgentLoop) (timestamp : String)
    (body : Option Json.Value) : Option AgentLoop :=
  match loop.phase with
  | .reading =>
    match body.map (parseLeasedJob runtime timestamp) with
    | some (.ok job) =>
      some (((loop.act (.leaseEnded (some job))).act (.logged ("Progress: leased " ++ job.jobId ++
        " for " ++ job.endpoint ++ "."))).work sink job)
    | _ =>
      some (loop.act (.logged ("Decision: the queue returned a job without a safe hosted " ++
        "correlation tuple; its lease will expire unexecuted."))).rest
  | _ => none

/-- The interval is set exactly while the forward is awaited. -/
def heartbeatTick (loop : AgentLoop) : Option AgentLoop :=
  match loop.phase with
  | .forwarding job => some (loop.act (.sent (.heartbeat job.jobId)))
  | _ => none

def forwardEnded (loop : AgentLoop) (result : Except Thrown ForwardOutcome) : Option AgentLoop :=
  match loop.phase with
  | .forwarding job => some ((loop.act (.forwardEnded result)).report job (outcomeOf result) 1)
  | _ => none

def reportAnswered (sink : TraceSink) (loop : AgentLoop) (status : Nat) : Option AgentLoop :=
  match loop.phase with
  | .reporting job outcome attempt =>
    let answered := loop.act (.reportEnded (some status))
    if okStatus status then some (answered.finishJob sink job outcome true)
    else if status = 409 then some (answered.finishJob sink job outcome false)
    else some { answered with phase := .pausing job outcome attempt }
  | _ => none

def reportThrew (loop : AgentLoop) : Option AgentLoop :=
  match loop.phase with
  | .reporting job outcome attempt =>
    some { loop.act (.reportEnded none) with phase := .pausing job outcome attempt }
  | _ => none

/-- One event; `none` if it cannot happen now. -/
def step (runtime : JsRuntime) (sink : TraceSink) (loop : AgentLoop) :
    AgentEvent → Option AgentLoop
  | .healthAnswered healthy => loop.healthAnswered healthy
  | .slept => loop.slept sink
  | .leaseAnswered status => loop.leaseAnswered status
  | .leaseThrew => loop.leaseThrew
  | .leaseRead timestamp body => loop.leaseRead runtime sink timestamp body
  | .heartbeatTick => loop.heartbeatTick
  | .forwardEnded result => loop.forwardEnded result
  | .reportAnswered status => loop.reportAnswered sink status
  | .reportThrew => loop.reportThrew
  | .stop => some { loop with stopped := true }

/-- A started agent asks its prover first. -/
def start : AgentLoop := next ⟨false, .resting, []⟩

def run (runtime : JsRuntime) (sink : TraceSink) (events : List AgentEvent) : Option AgentLoop :=
  events.foldlM (step runtime sink) start

end AgentLoop

end Zkdeal

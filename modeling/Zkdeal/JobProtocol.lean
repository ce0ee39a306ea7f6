/-
This file is the protocol between the agent and the queue: what the agent does with a
job, from the lease to the last report.

The protocol is a small machine of its own. It says which action may follow in which
stage and knows nothing of sleeps, of the interval or of how the agent is stopped. The
agent's loop refines it: every history of the loop is a trace of the protocol. What is
promised about a job is then read off the traces: between two lease requests a job is
forwarded once, kept alive until its first report, and reported at most three times as
its forward ended, until the queue has taken the report or refused it for good.
-/

import Zkdeal.Library.Trace
import Zkdeal.Agent.QueueAgent

namespace Zkdeal

open Trace Guard

/-! ### The protocol -/

/-- The stages of the protocol. While a job is reported, the number of reports sent so far counts,
and whether the last of them is still to be answered. -/
inductive JobStage where
  | free
  | vouched
  | leasing
  | leased (job : LeasedJob)
  | forwarded (job : LeasedJob)
  | reporting (job : LeasedJob) (result : Except Thrown ForwardOutcome) (sent : Nat)
      (awaiting : Bool)

/-- The request that reports how a forward ended: complete with its result if it went well, and
fail otherwise, to be tried again unless the prover has judged the request. -/
def Reports (job : LeasedJob) (call : QueueCall) : Except Thrown ForwardOutcome → Prop
  | .ok (.ok result) => call = .complete job.jobId result
  | .ok (.rejected _) => ∃ reason, call = .fail job.jobId reason false
  | .ok (.unavailable _) => ∃ reason, call = .fail job.jobId reason true
  | .error _ => ∃ reason, call = .fail job.jobId reason true

/-- An answer after which a report is not sent again: accepted, or the lease is gone. -/
def concludes : Option Nat → Bool
  | some status => okStatus status || status == 409
  | none => false

inductive JobStage.Next : JobStage → AgentAction → JobStage → Prop
  | probed : Next .free .probed .free
  | sick : Next .free (.probeAnswered false) .free
  | healthy : Next .free (.probeAnswered true) .vouched
  | lease : Next .vouched (.sent .lease) .leasing
  | nothing : Next .leasing (.leaseEnded none) .free
  | leased (job : LeasedJob) : Next .leasing (.leaseEnded (some job)) (.leased job)
  | forwarded {job : LeasedJob} :
      Next (.leased job) (.forwarded job.endpoint job.request) (.forwarded job)
  | heartbeat {job : LeasedJob} :
      Next (.forwarded job) (.sent (.heartbeat job.jobId)) (.forwarded job)
  | forwardEnded {job : LeasedJob} (result : Except Thrown ForwardOutcome) :
      Next (.forwarded job) (.forwardEnded result) (.reporting job result 0 false)
  | report {job : LeasedJob} {result : Except Thrown ForwardOutcome} {sent : Nat}
      {call : QueueCall} (more : sent < 3) (reports : Reports job call result) :
      Next (.reporting job result sent false) (.sent call) (.reporting job result (sent + 1) true)
  | concluded {job : LeasedJob} {result : Except Thrown ForwardOutcome} {sent : Nat}
      {status : Option Nat} (final : concludes status = true) :
      Next (.reporting job result sent true) (.reportEnded status) .free
  | unheard {job : LeasedJob} {result : Except Thrown ForwardOutcome} {sent : Nat}
      {status : Option Nat} (final : concludes status = false) :
      Next (.reporting job result sent true) (.reportEnded status)
        (.reporting job result sent false)
  | givenUp {job : LeasedJob} {result : Except Thrown ForwardOutcome} :
      Next (.reporting job result 3 false) .probed .free
  | logged {stage : JobStage} (line : String) (other : stage ≠ .vouched) :
      Next stage (.logged line) stage
  | traced {stage : JobStage} (input : AgentTraceInput) (other : stage ≠ .vouched) :
      Next stage (.traced input) stage

/-- A history of the protocol that leads to a stage. -/
def Leads (history : List AgentAction) (stage : JobStage) : Prop :=
  Runs JobStage.Next .free history stage

/-! ### The loop follows the protocol -/

section Refinement

variable {runtime : JsRuntime} {sink : TraceSink} {loop after : AgentLoop} {stage : JobStage}

/-- The stage that a phase of the loop is in. A loop that was stopped may have given up on a
report. -/
def AgentPhase.At (stage : JobStage) : AgentPhase → Prop
  | .probing => stage = .free
  | .resting => stage = .free
  | .leasing => stage = .leasing
  | .reading => stage = .leasing
  | .forwarding job => stage = .forwarded job
  | .reporting job outcome attempt => ∃ result, AgentLoop.outcomeOf result = outcome ∧
      attempt ≤ 3 ∧ stage = .reporting job result attempt true
  | .pausing job outcome attempt => ∃ result, AgentLoop.outcomeOf result = outcome ∧
      attempt ≤ 3 ∧ stage = .reporting job result attempt false
  | .ended => stage = .free ∨ ∃ job result, stage = .reporting job result 3 false

/-- The loop is where the protocol is after the same history. -/
def AgentLoop.Follows (loop : AgentLoop) : Prop :=
  ∃ stage, Leads loop.history stage ∧ loop.phase.At stage

namespace AgentLoop

end AgentLoop

end Refinement

/-! ### What a trace says about a job -/

/-- What was forwarded. -/
def forwards (actions : List AgentAction) : List (String × Json.Value) :=
  actions.filterMap fun
    | .forwarded endpoint request => some (endpoint, request)
    | _ => none

/-- How forwards ended. -/
def forwardEnds (actions : List AgentAction) : List (Except Thrown ForwardOutcome) :=
  actions.filterMap fun
    | .forwardEnded result => some result
    | _ => none

/-- The requests that report a job. -/
def QueueCall.isReport : QueueCall → Bool
  | .complete _ _ => true
  | .fail _ _ _ => true
  | _ => false

/-- The reports that were sent. -/
def reports (actions : List AgentAction) : List QueueCall :=
  actions.filterMap fun
    | .sent call => if call.isReport then some call else none
    | _ => none

/-- The ends of the reports. -/
def reportEnds (actions : List AgentAction) : List (Option Nat) :=
  actions.filterMap fun
    | .reportEnded status => some status
    | _ => none

/-- The reports of a job have come to an end: one of them was conclusive, or all three were
tried. -/
def Over (actions : List AgentAction) : Prop :=
  (∃ status ∈ reportEnds actions, concludes status = true) ∨ (reportEnds actions).length = 3

def AgentAction.isLease : AgentAction → Bool
  | .sent .lease => true
  | _ => false

/-- The job in hand. -/
def JobStage.job? : JobStage → Option LeasedJob
  | .leased job => some job
  | .forwarded job => some job
  | .reporting job _ _ _ => some job
  | _ => none

/-- What has happened to a job since it was leased, by the stage of the protocol. -/
def Story (job : LeasedJob) (actions : List AgentAction) : JobStage → Prop
  | .leased current => current = job ∧ forwards actions = [] ∧ forwardEnds actions = [] ∧
      reports actions = [] ∧ reportEnds actions = []
  | .forwarded current => current = job ∧ forwards actions = [(job.endpoint, job.request)] ∧
      forwardEnds actions = [] ∧ reports actions = [] ∧ reportEnds actions = []
  | .reporting current result sent awaiting => current = job ∧
      forwards actions = [(job.endpoint, job.request)] ∧ forwardEnds actions = [result] ∧
      (reports actions).length = sent ∧ sent ≤ 3 ∧
      (reportEnds actions).length + (if awaiting then 1 else 0) = sent
  | .free => forwards actions = [(job.endpoint, job.request)] ∧ (reports actions).length ≤ 3 ∧
      Over actions
  | .vouched => forwards actions = [(job.endpoint, job.request)] ∧ (reports actions).length ≤ 3 ∧
      Over actions
  | .leasing => False

theorem Reports.isReport {job : LeasedJob} {call : QueueCall}
    {result : Except Thrown ForwardOutcome} (fits : Reports job call result) :
    call.isReport = true := by
  rcases result with message | (value | reason | reason)
  · obtain ⟨reason, rfl⟩ := fits
    rfl
  · obtain rfl : call = _ := fits
    rfl
  · obtain ⟨reason, rfl⟩ := fits
    rfl
  · obtain ⟨reason, rfl⟩ := fits
    rfl

/-- An action that neither forwards nor reports. -/
def Silent (action : AgentAction) : Prop :=
  forwards [action] = [] ∧ forwardEnds [action] = [] ∧ reports [action] = [] ∧
    reportEnds [action] = []

section Stories

variable {job : LeasedJob} {actions : List AgentAction} {action : AgentAction}
variable {stage later : JobStage}

theorem forwards_concat : forwards (actions ++ [action]) = forwards actions ++ forwards [action] :=
  List.filterMap_append

theorem forwardEnds_concat : forwardEnds (actions ++ [action]) =
    forwardEnds actions ++ forwardEnds [action] :=
  List.filterMap_append

theorem reports_concat : reports (actions ++ [action]) = reports actions ++ reports [action] :=
  List.filterMap_append

theorem reportEnds_concat : reportEnds (actions ++ [action]) =
    reportEnds actions ++ reportEnds [action] :=
  List.filterMap_append

theorem Story.silent (story : Story job actions stage) (silent : Silent action) :
    Story job (actions ++ [action]) stage := by
  obtain ⟨none, noEnd, noReport, noAnswer⟩ := silent
  have sameForwards : forwards (actions ++ [action]) = forwards actions := by
    rw [forwards_concat, none, List.append_nil]
  have sameEnds : forwardEnds (actions ++ [action]) = forwardEnds actions := by
    rw [forwardEnds_concat, noEnd, List.append_nil]
  have sameReports : reports (actions ++ [action]) = reports actions := by
    rw [reports_concat, noReport, List.append_nil]
  have sameAnswers : reportEnds (actions ++ [action]) = reportEnds actions := by
    rw [reportEnds_concat, noAnswer, List.append_nil]
  cases stage with
  | leasing => exact story.elim
  | _ => simpa only [Story, Over, sameForwards, sameEnds, sameReports, sameAnswers] using story

theorem reports_sent {call : QueueCall} (report : call.isReport = true) :
    reports [.sent call] = [call] := by
  simp only [reports, List.filterMap_cons, List.filterMap_nil, report, if_true]

theorem Story.forwarded (story : Story job actions (.leased job)) :
    Story job (actions ++ [AgentAction.forwarded job.endpoint job.request]) (.forwarded job) := by
  obtain ⟨-, none, ends, sent, answers⟩ := story
  refine ⟨rfl, ?_, ?_, ?_, ?_⟩
  · rw [forwards_concat, none]
    rfl
  · rw [forwardEnds_concat, ends]
    rfl
  · rw [reports_concat, sent]
    rfl
  · rw [reportEnds_concat, answers]
    rfl

theorem Story.forwardEnded (story : Story job actions (.forwarded job))
    (result : Except Thrown ForwardOutcome) :
    Story job (actions ++ [AgentAction.forwardEnded result]) (.reporting job result 0 false) := by
  obtain ⟨-, once, ends, sent, answers⟩ := story
  refine ⟨rfl, ?_, ?_, ?_, Nat.zero_le 3, ?_⟩
  · rw [forwards_concat, once]
    rfl
  · rw [forwardEnds_concat, ends]
    rfl
  · rw [reports_concat, sent]
    rfl
  · rw [reportEnds_concat, answers]
    rfl

section Reporting

variable {result : Except Thrown ForwardOutcome} {sent : Nat} {call : QueueCall}
variable {status : Option Nat}

theorem Story.report (story : Story job actions (.reporting job result sent false))
    (more : sent < 3) (report : call.isReport = true) :
    Story job (actions ++ [AgentAction.sent call]) (.reporting job result (sent + 1) true) := by
  obtain ⟨-, once, ends, count, -, answers⟩ := story
  refine ⟨rfl, ?_, ?_, ?_, more, ?_⟩
  · rw [forwards_concat, once]
    rfl
  · rw [forwardEnds_concat, ends]
    rfl
  · rw [reports_concat, reports_sent report, List.length_append, count]
    rfl
  · rw [reportEnds_concat, List.length_append]
    exact congrArg (· + 1) answers

theorem Story.concluded (story : Story job actions (.reporting job result sent true))
    (final : concludes status = true) :
    Story job (actions ++ [AgentAction.reportEnded status]) .free := by
  obtain ⟨-, once, -, count, bound, -⟩ := story
  refine ⟨?_, ?_, .inl ⟨status, ?_, final⟩⟩
  · rw [forwards_concat, once]
    rfl
  · rw [reports_concat, List.length_append, count]
    exact bound
  · rw [reportEnds_concat]
    exact List.mem_append_right _ List.mem_cons_self

theorem Story.unheard (story : Story job actions (.reporting job result sent true)) :
    Story job (actions ++ [AgentAction.reportEnded status]) (.reporting job result sent false) := by
  obtain ⟨-, once, ends, count, bound, answers⟩ := story
  refine ⟨rfl, ?_, ?_, ?_, bound, ?_⟩
  · rw [forwards_concat, once]
    rfl
  · rw [forwardEnds_concat, ends]
    rfl
  · rw [reports_concat, List.length_append, count]
    rfl
  · rw [reportEnds_concat, List.length_append]
    exact answers

/-- A job is given up after its third report has ended. -/
theorem Story.givenUp (story : Story job actions (.reporting job result 3 false)) :
    Story job (actions ++ [AgentAction.probed]) .free := by
  have still : Story job (actions ++ [AgentAction.probed]) (.reporting job result 3 false) :=
    story.silent ⟨rfl, rfl, rfl, rfl⟩
  obtain ⟨-, once, -, count, -, answers⟩ := still
  exact ⟨once, count.le, .inr answers⟩

end Reporting

/-- The job of a story is the one it is about. -/
theorem Story.job_eq {current : LeasedJob} (story : Story job actions stage)
    (held : stage.job? = some current) : current = job := by
  cases stage with
  | leased => exact (Option.some.inj held) ▸ story.1
  | forwarded => exact (Option.some.inj held) ▸ story.1
  | reporting => exact (Option.some.inj held) ▸ story.1
  | _ => cases held

/-- Every action but a lease request goes on with the story. -/
theorem Story.next (story : Story job actions stage) (next : stage.Next action later)
    (unleased : action.isLease = false) : Story job (actions ++ [action]) later := by
  cases next with
  | probed => exact story.silent ⟨rfl, rfl, rfl, rfl⟩
  | sick => exact story.silent ⟨rfl, rfl, rfl, rfl⟩
  | healthy =>
    have still : Story job (actions ++ [AgentAction.probeAnswered true]) .free :=
      story.silent ⟨rfl, rfl, rfl, rfl⟩
    exact still
  | lease => cases unleased
  | nothing => exact story.elim
  | leased job => exact story.elim
  | forwarded =>
    obtain rfl := story.job_eq rfl
    exact story.forwarded
  | heartbeat => exact story.silent ⟨rfl, rfl, rfl, rfl⟩
  | forwardEnded result =>
    obtain rfl := story.job_eq rfl
    exact story.forwardEnded result
  | report more fits =>
    obtain rfl := story.job_eq rfl
    exact story.report more fits.isReport
  | concluded final =>
    obtain rfl := story.job_eq rfl
    exact story.concluded final
  | unheard final =>
    obtain rfl := story.job_eq rfl
    exact story.unheard
  | givenUp =>
    obtain rfl := story.job_eq rfl
    exact story.givenUp
  | logged line other => exact story.silent ⟨rfl, rfl, rfl, rfl⟩
  | traced input other => exact story.silent ⟨rfl, rfl, rfl, rfl⟩

end Stories

section Traces

variable {job : LeasedJob} {actions history : List AgentAction} {action : AgentAction}
variable {stage later : JobStage}

end Traces

/-- The job an action brings into hand. -/
def AgentAction.leasedJob? : AgentAction → Option LeasedJob
  | .leaseEnded leased => leased
  | _ => none

/-- The job of a lease answer that parses. -/
def AgentEvent.leasedJob? (runtime : JsRuntime) : AgentEvent → Option LeasedJob
  | .leaseRead timestamp (some body) => (parseLeasedJob runtime timestamp body).toOption
  | _ => none

namespace AgentLoop

/-- The loop has gone on without a job coming into hand. -/
def Quietly (loop after : AgentLoop) : Prop :=
  ∃ more, after.history = loop.history ++ more ∧ ∀ action ∈ more, action.leasedJob? = none

section Answers

variable {runtime : JsRuntime} {sink : TraceSink} {loop middle after : AgentLoop}

theorem Quietly.refl (loop : AgentLoop) : loop.Quietly loop :=
  ⟨[], (List.append_nil _).symm, nofun⟩

theorem Quietly.act {action : AgentAction} (quietly : loop.Quietly after)
    (none : action.leasedJob? = none) : loop.Quietly (after.act action) := by
  obtain ⟨more, same, quiet⟩ := quietly
  refine ⟨more ++ [action], by rw [AgentLoop.act, same, List.append_assoc], ?_⟩
  exact List.forall_mem_append.mpr ⟨quiet, List.forall_mem_singleton.mpr none⟩

theorem Quietly.jobTrace {input : AgentTraceInput} (quietly : loop.Quietly after) :
    loop.Quietly (after.jobTrace sink input) := by
  unfold AgentLoop.jobTrace
  split
  · exact quietly.act rfl
  · exact (quietly.act rfl).act rfl

theorem Quietly.next (quietly : loop.Quietly after) : loop.Quietly after.next := by
  unfold AgentLoop.next
  split
  · exact quietly
  · exact quietly.act rfl

end Answers

end AgentLoop

end Zkdeal

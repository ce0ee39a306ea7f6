/-
This file is the on-chain heartbeat of the prover agent.

The loop is one asynchronous function that a timer starts again and again. It is
modelled as a machine over what it waits for: every `await` of the source is a
phase, and everything that can happen while the agent runs is an event -- a tick of
the timer, the answer of a health probe, the end of a publication, the end of a
timeout, the call of `stop`. Times are whole milliseconds. What the loop does is
kept in its history, in the order it does it.
-/

import Mathlib

namespace Zkdeal

/-! ### Options -/

structure OnChainHeartbeatOptions where
  intervalMs : Option Int
  confirmations : Option Int
  receiptTimeoutMs : Option Int
  retryDelayMs : Option Int
  requestTimeoutMs : Option Int
deriving DecidableEq, Inhabited

def defaultOnchainIntervalMs : Int := 60000
def defaultHeartbeatConfirmations : Int := 2
def defaultReceiptTimeoutMs : Int := 45000
def defaultRetryDelayMs : Int := 1000
def defaultRequestTimeoutMs : Int := 5000

/-- The options of a loop that runs: the defaults filled in, and every check passed. -/
structure HeartbeatSettings where
  intervalMs : Int
  confirmations : Int
  receiptTimeoutMs : Int
  retryDelayMs : Int
  requestTimeoutMs : Int
  intervalPositive : 0 < intervalMs
  confirmationsPositive : 1 ≤ confirmations
  receiptTimeoutPositive : 0 < receiptTimeoutMs
  retryDelayNonneg : 0 ≤ retryDelayMs
  requestTimeoutPositive : 0 < requestTimeoutMs
deriving DecidableEq

/-- Fill in the defaults and check the options, in the order of the source. -/
def OnChainHeartbeatOptions.settings (options : OnChainHeartbeatOptions) :
    Except String HeartbeatSettings :=
  let intervalMs := options.intervalMs.getD defaultOnchainIntervalMs
  let confirmations := options.confirmations.getD defaultHeartbeatConfirmations
  let receiptTimeoutMs := options.receiptTimeoutMs.getD defaultReceiptTimeoutMs
  let retryDelayMs := options.retryDelayMs.getD defaultRetryDelayMs
  let requestTimeoutMs := options.requestTimeoutMs.getD defaultRequestTimeoutMs
  if interval : 0 < intervalMs then
    if confirmed : 1 ≤ confirmations then
      if receipt : 0 < receiptTimeoutMs then
        if retry : 0 ≤ retryDelayMs then
          if request : 0 < requestTimeoutMs then
            .ok ⟨intervalMs, confirmations, receiptTimeoutMs, retryDelayMs, requestTimeoutMs,
              interval, confirmed, receipt, retry, request⟩
          else .error "heartbeat requestTimeoutMs must be positive"
        else .error "heartbeat retryDelayMs must be non-negative"
      else .error "heartbeat receiptTimeoutMs must be positive"
    else .error "heartbeat confirmations must be a positive integer"
  else .error "heartbeat intervalMs must be positive"

/-! ### The loop -/

structure HeartbeatPublishContext where
  logicalBeat : Int
  confirmations : Int
deriving DecidableEq

structure HeartbeatPublication where
  reference : String
  idempotencyKey : String
  correlationId : String
deriving DecidableEq

inductive HeartbeatStatus where
  | success
  | reverted
  | failed
deriving DecidableEq

structure HeartbeatOutcome where
  status : HeartbeatStatus
  reason : Option String
deriving DecidableEq

/-- What the loop does, and the answers it gets from its health probe. -/
inductive HeartbeatAction where
  | probed
  | answered (healthy : Bool)
  | publishHeartbeat (context : HeartbeatPublishContext)
  | waitForOutcome (publication : HeartbeatPublication)
  | logged (line : String)
deriving DecidableEq

/-- What the beat in progress waits for. A beat makes at most two attempts, all under the
logical beat it read off the clock after its first probe. -/
inductive BeatPhase where
  | idle
  | probing
  | publishing (attempt : Nat) (logicalBeat : Int) (call : Nat)
  | confirming (attempt : Nat) (logicalBeat : Int) (publication : HeartbeatPublication)
  | reprobing (logicalBeat : Int)
  | delaying (logicalBeat : Int)
deriving DecidableEq

/-- The state of the loop: its two flags, what its beat waits for, the calls of the publication
boundary that have not settled, and what it has done so far. -/
structure HeartbeatLoop where
  stopped : Bool
  running : Bool
  phase : BeatPhase
  calls : Nat
  outstanding : List Nat
  history : List HeartbeatAction
deriving DecidableEq

/-- What can happen to a running loop. A publication call settles on its own; its timeout only
ends the wait for it. A failure that is not an error object has no message. -/
inductive HeartbeatEvent where
  | tick
  | stop
  | probeAnswered (healthy : Bool) (now : Int)
  | probeThrew
  | published (call : Nat) (publication : HeartbeatPublication)
  | publicationThrew (call : Nat) (message : Option String)
  | publicationTimedOut
  | outcome (outcome : HeartbeatOutcome)
  | outcomeThrew (message : Option String)
  | delayElapsed
deriving DecidableEq

namespace HeartbeatLoop

def act (loop : HeartbeatLoop) (action : HeartbeatAction) : HeartbeatLoop :=
  { loop with history := loop.history ++ [action] }

/-- The end of a beat, by a return or an exception. -/
def finish (loop : HeartbeatLoop) : HeartbeatLoop :=
  { loop with running := false, phase := .idle }

/-- Start a beat, unless the loop is stopped or in one. -/
def beat (loop : HeartbeatLoop) : HeartbeatLoop :=
  if loop.stopped || loop.running then loop
  else { loop.act .probed with running := true, phase := .probing }

/-- The head of the attempt loop: publish, or leave the loop and end the beat. -/
def attempt (settings : HeartbeatSettings) (loop : HeartbeatLoop) (attempt : Nat)
    (logicalBeat : Int) : HeartbeatLoop :=
  if attempt < 2 && !loop.stopped then
    { loop.act (.publishHeartbeat ⟨logicalBeat, settings.confirmations⟩) with
      phase := .publishing attempt logicalBeat loop.calls
      calls := loop.calls + 1
      outstanding := loop.outstanding ++ [loop.calls] }
  else loop.finish

/-- The tail of an attempt that did not succeed: the first one asks for the health of the prover
before the loop goes on. -/
def afterFailure (settings : HeartbeatSettings) (loop : HeartbeatLoop) (attempt : Nat)
    (logicalBeat : Int) : HeartbeatLoop :=
  if attempt = 0 && !loop.stopped then { loop.act .probed with phase := .reprobing logicalBeat }
  else loop.attempt settings (attempt + 1) logicalBeat

/-- The log line of an exception. -/
def failureLine (message : Option String) : String :=
  "Progress: the on-chain heartbeat failed: " ++ message.getD "unknown reason"

def timeoutMessage (settings : HeartbeatSettings) : String :=
  "heartbeat publication request timed out after " ++ toString settings.requestTimeoutMs ++ "ms"

/-- The log line of an outcome that is not a success. -/
def outcomeLine (publication : HeartbeatPublication) (outcome : HeartbeatOutcome) : String :=
  if outcome.status = .reverted then
    "Progress: the on-chain heartbeat reverted [" ++ publication.correlationId ++
      "]; re-sending while the prover is healthy."
  else
    "Progress: the on-chain heartbeat failed [" ++ publication.correlationId ++ "]: " ++
      outcome.reason.getD "durable operation failed"

/-- The answer of the health probe the beat waits for. After a failed attempt the answer decides
about the delay only. -/
def probeAnswered (settings : HeartbeatSettings) (loop : HeartbeatLoop) (healthy : Bool)
    (now : Int) : Option HeartbeatLoop :=
  match loop.phase with
  | .probing =>
    if healthy then
      some ((loop.act (.answered healthy)).attempt settings 0 (now / settings.intervalMs))
    else some (loop.act (.answered healthy)).finish
  | .reprobing logicalBeat =>
    if healthy then
      some { loop.act (.answered healthy) with phase := .delaying logicalBeat }
    else some ((loop.act (.answered healthy)).attempt settings 1 logicalBeat)
  | _ => none

/-- An exception of the health probe leaves the beat through its `finally`. -/
def probeThrew (loop : HeartbeatLoop) : Option HeartbeatLoop :=
  match loop.phase with
  | .probing => some loop.finish
  | .reprobing _ => some loop.finish
  | _ => none

/-- A call settles, whether the beat still waits for it or not. -/
def settle (loop : HeartbeatLoop) (call : Nat) : HeartbeatLoop :=
  { loop with outstanding := loop.outstanding.erase call }

/-- The beat waits for this call. -/
def awaits (loop : HeartbeatLoop) (call : Nat) : Option (Nat × Int) :=
  match loop.phase with
  | .publishing attempt logicalBeat current =>
    if current = call then some (attempt, logicalBeat) else none
  | _ => none

def published (loop : HeartbeatLoop) (call : Nat) (publication : HeartbeatPublication) :
    Option HeartbeatLoop :=
  if loop.outstanding.contains call then
    match loop.awaits call with
    | some (attempt, logicalBeat) =>
      some { (loop.settle call).act (.waitForOutcome publication) with
        phase := .confirming attempt logicalBeat publication }
    | none => some (loop.settle call)
  else none

def publicationThrew (settings : HeartbeatSettings) (loop : HeartbeatLoop) (call : Nat)
    (message : Option String) : Option HeartbeatLoop :=
  if loop.outstanding.contains call then
    match loop.awaits call with
    | some (attempt, logicalBeat) =>
      some (((loop.settle call).act (.logged (failureLine message))).afterFailure settings
        attempt logicalBeat)
    | none => some (loop.settle call)
  else none

/-- The timeout gives up on a call that stays outstanding. -/
def publicationTimedOut (settings : HeartbeatSettings) (loop : HeartbeatLoop) :
    Option HeartbeatLoop :=
  match loop.phase with
  | .publishing attempt logicalBeat _ =>
    some ((loop.act (.logged (failureLine (some (timeoutMessage settings))))).afterFailure
      settings attempt logicalBeat)
  | _ => none

def outcome (settings : HeartbeatSettings) (loop : HeartbeatLoop) (outcome : HeartbeatOutcome) :
    Option HeartbeatLoop :=
  match loop.phase with
  | .confirming attempt logicalBeat publication =>
    if outcome.status = .success then some loop.finish
    else some ((loop.act (.logged (outcomeLine publication outcome))).afterFailure settings
      attempt logicalBeat)
  | _ => none

def outcomeThrew (settings : HeartbeatSettings) (loop : HeartbeatLoop)
    (message : Option String) : Option HeartbeatLoop :=
  match loop.phase with
  | .confirming attempt logicalBeat _ =>
    some ((loop.act (.logged (failureLine message))).afterFailure settings attempt logicalBeat)
  | _ => none

def delayElapsed (settings : HeartbeatSettings) (loop : HeartbeatLoop) : Option HeartbeatLoop :=
  match loop.phase with
  | .delaying logicalBeat => some (loop.attempt settings 1 logicalBeat)
  | _ => none

/-- One event; `none` if it cannot happen now. A stopped loop has no timer any more. -/
def step (settings : HeartbeatSettings) (loop : HeartbeatLoop) :
    HeartbeatEvent → Option HeartbeatLoop
  | .tick => if loop.stopped then none else some loop.beat
  | .stop => some { loop with stopped := true }
  | .probeAnswered healthy now => loop.probeAnswered settings healthy now
  | .probeThrew => loop.probeThrew
  | .published call publication => loop.published call publication
  | .publicationThrew call message => loop.publicationThrew settings call message
  | .publicationTimedOut => loop.publicationTimedOut settings
  | .outcome outcome => loop.outcome settings outcome
  | .outcomeThrew message => loop.outcomeThrew settings message
  | .delayElapsed => loop.delayElapsed settings

/-- A started loop: the timer is set, and the first beat begins at once. -/
def start : HeartbeatLoop := beat ⟨false, false, .idle, 0, [], []⟩

/-- The loop after some events, from its start. -/
def run (settings : HeartbeatSettings) (events : List HeartbeatEvent) : Option HeartbeatLoop :=
  events.foldlM (step settings) start

end HeartbeatLoop

end Zkdeal

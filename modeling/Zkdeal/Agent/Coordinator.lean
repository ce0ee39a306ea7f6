/-
This file is the client of the durable coordinator, and the on-chain heartbeat that
publishes through it.

A publication asks for the schema version of the coordinator, submits one operation
under a key that is a hash of the logical beat and the operation, and returns the
reference of the operation; the wait for its outcome polls that reference. The answer
about the schema version is asked for once and kept as a promise that publications and
waits share; a negotiation that fails is forgotten before anyone sees it fail.

The client is a machine over the requests it waits for, and the heartbeat is the loop
with this client behind it: a call the loop makes starts a publication, and the end of
a publication or of a wait is an event of the loop. Beats are numbered as they start,
and every publication remembers the beat that called for it.
-/

import Zkdeal.Agent.Heartbeat
import Zkdeal.Agent.JavaScript

namespace Zkdeal

open Texts Words Guard

def capabilitiesPath : String := "/hosting/v1/capabilities"
def heartbeatOperationPath : String := "/hosting/v1/l1-operations/node-heartbeats"
def l1OperationPath : String := "/hosting/v1/l1-transactions"

/-- The sender, and what else the client reads of the options. -/
structure DurableSender where
  url : String
  bearerToken : String
  chainId : U64
  poolAddress : String
  livenessAccount : String
  nodeId : String
  profileHash : String

/-! ### Answers -/

/-- The value of an answer. -/
def fetchJson (runtime : JsRuntime) (timeoutMs : Int) (label : String) :
    FetchEnd → Except Thrown Json.Value
  | .answered status text =>
    if !okStatus status then
      .error (some (label ++ " returned HTTP " ++ status.repr ++
        if text.isEmpty then "" else ": " ++ runtime.excerpt text))
    else if text.isEmpty then .ok (.object [])
    else orRefuse (runtime.parse text) (some (label ++ " returned invalid JSON"))
  | .aborted => .error (some (label ++ " timed out after " ++ timeoutMs.repr ++ "ms"))
  | .threw message => .error message

inductive DurableOperationStatus where
  | reserved
  | signed
  | archived
  | broadcast
  | included
  | finalized
  | failed
  | recoveryRequired
  | superseded
deriving DecidableEq

namespace DurableOperationStatus

def text : DurableOperationStatus → String
  | reserved => "RESERVED"
  | signed => "SIGNED"
  | archived => "ARCHIVED"
  | broadcast => "BROADCAST"
  | included => "INCLUDED"
  | finalized => "FINALIZED"
  | failed => "FAILED"
  | recoveryRequired => "RECOVERY_REQUIRED"
  | superseded => "SUPERSEDED"

def durableStatuses : List DurableOperationStatus :=
  [reserved, signed, archived, broadcast, included, finalized, failed, recoveryRequired, superseded]

def ofText? (text : String) : Option DurableOperationStatus :=
  durableStatuses.find? fun status => status.text == text

end DurableOperationStatus

structure ReceiptSource where
  providerIds : List String
  observedAt : String
  canonical : Bool

structure DurableOperation where
  operationId : String
  idempotencyKey : String
  correlationId : String
  status : DurableOperationStatus
  chainId : U64
  fromAddress : String
  toAddress : String
  nonce : String
  transactionHash : Option String
  blockNumber : Option String
  blockHash : Option String
  /-- A number, and the unsigned word it is, if it is one. -/
  confirmations : Option (Option U64)
  receiptSource : Option ReceiptSource
  finalized : Bool
  failureCode : Option String

/-- What an operation has to agree with. -/
structure ExpectedOperation where
  chainId : U64
  fromAddress : String
  toAddress : String
  idempotencyKey : String
  correlationId : String

def parseAddress (value : Option Json.Value) (label : String) : Except Thrown String :=
  (orRefuse ((value.bind Json.Value.asString?).filter (isHexText 40))
    (some (label ++ " is not an address"))).map String.toLower

def asNumber? : Json.Value → Option (Option U64)
  | .number unsigned => some unsigned
  | _ => none

def parseTransactionHash : Option Json.Value → Except Thrown (Option String)
  | some .null => pure none
  | value =>
    (orRefuse ((value.bind Json.Value.asString?).filter (isHexText 64))
      (some "durable heartbeat transactionHash is invalid")).map fun text => some text.toLower

def isProviderId (text : String) : Bool := utf16Length text != 0 && utf16Length text ≤ 200

def parseReceiptSource (value : Json.Value) : Except Thrown ReceiptSource := do
  let evidence ← record (some value) "durable heartbeat receiptSource"
  let items := ((Json.get? evidence "providerIds").bind Json.Value.asArray?).filter
    fun items => !items.isEmpty
  let providerIds ← orRefuse
    (items.bind fun items => items.mapM fun item => item.asString?.filter isProviderId)
    (some "durable heartbeat receiptSource.providerIds is invalid")
  pure {
    providerIds
    observedAt := (textAt evidence "observedAt").getD ""
    canonical := (Json.get? evidence "canonical").bind Json.Value.asBool? == some true }

def parseDurableOperation (runtime : JsRuntime) (expected : ExpectedOperation)
    (value : Json.Value) : Except Thrown DurableOperation := do
  let source ← record (some value) "durable heartbeat operation"
  let operationId ← orRefuse
    ((textAt source "operationId").filter
      fun text => 8 ≤ utf16Length text && utf16Length text ≤ 200)
    (some "durable heartbeat operationId is invalid")
  let status ← orRefuse ((textAt source "status").bind DurableOperationStatus.ofText?)
    (some ("durable heartbeat operation status is invalid: " ++
      runtime.toText (Json.get? source "status")))
  refuse ((Json.get? source "chainId").bind asNumber? ≠ some (some expected.chainId))
    (some "durable heartbeat chainId mismatch")
  refuse (textAt source "idempotencyKey" ≠ some expected.idempotencyKey)
    (some "durable heartbeat idempotency key mismatch")
  refuse (textAt source "correlationId" ≠ some expected.correlationId)
    (some "durable heartbeat correlation id mismatch")
  let fromAddress ← parseAddress (Json.get? source "from") "durable heartbeat from"
  let toAddress ← parseAddress (Json.get? source "to") "durable heartbeat to"
  refuse (fromAddress ≠ expected.fromAddress.toLower)
    (some "durable heartbeat liveness account mismatch")
  refuse (toAddress ≠ expected.toAddress.toLower) (some "durable heartbeat pool target mismatch")
  let nonce ← orRefuse ((textAt source "nonce").filter isCanonicalDecimal)
    (some "durable heartbeat nonce is not canonical decimal")
  let transactionHash ← parseTransactionHash (Json.get? source "transactionHash")
  let receiptSource ← match Json.get? source "receiptSource" with
    | none => pure none
    | some evidence => (parseReceiptSource evidence).map some
  pure {
    operationId, status, fromAddress, toAddress, nonce, transactionHash, receiptSource
    idempotencyKey := expected.idempotencyKey
    correlationId := expected.correlationId
    chainId := expected.chainId
    blockNumber := textAt source "blockNumber"
    blockHash := textAt source "blockHash"
    confirmations := (Json.get? source "confirmations").bind asNumber?
    finalized := (Json.get? source "finalized").bind Json.Value.asBool? == some true
    failureCode := textAt source "failureCode" }

/-- The outcome an operation has come to, if it has come to one. An operation that is included
has to prove it. -/
def canonicalOutcome (runtime : JsRuntime) (operation : DurableOperation)
    (requiredConfirmations : Int) : Except Thrown (Option HeartbeatOutcome) := do
  if operation.status = .failed ∨ operation.status = .recoveryRequired ∨
      operation.status = .superseded then
    let code := (operation.failureCode.filter fun code => !code.isEmpty).elim "" ("/" ++ ·)
    return some ⟨.failed, some (operation.status.text ++ code)⟩
  if operation.status ≠ .included ∧ operation.status ≠ .finalized then
    return none
  refuse (operation.transactionHash = none) (some "included heartbeat lacks a transactionHash")
  refuse (operation.blockNumber.any isCanonicalDecimal = false)
    (some "included heartbeat lacks canonical decimal blockNumber")
  refuse (operation.blockHash.any (isHexText 64) = false)
    (some "included heartbeat lacks a canonical blockHash")
  refuse (operation.confirmations.join.any (fun confirmations =>
      isSafeInteger confirmations.toNat && requiredConfirmations ≤ confirmations.toNat) = false)
    (some "included heartbeat has insufficient canonical confirmations")
  refuse (operation.receiptSource.any (fun source => source.canonical &&
      !source.providerIds.isEmpty && !source.observedAt.isEmpty &&
      runtime.isDate source.observedAt) = false)
    (some "included heartbeat lacks canonical receipt-source evidence")
  refuse (operation.status = .finalized ∧ operation.finalized = false)
    (some "finalized heartbeat lacks finalized=true evidence")
  return some ⟨.success, none⟩

/-! ### Requests -/

section Requests

variable (runtime : JsRuntime) (sender : DurableSender) (settings : HeartbeatSettings)

/-- The schema version that the answer of the coordinator settles on. -/
def readCapabilities (answer : FetchEnd) : Except Thrown Nat := do
  let value ← fetchJson runtime settings.requestTimeoutMs "coordinator capability negotiation"
    answer
  let capabilities ← record (some value) "coordinator capabilities"
  let negotiation ← record (Json.get? capabilities "negotiation") "coordinator schema negotiation"
  let schemaVersion ← orRefuse
    ((runtime.toNumber (Json.get? capabilities "schemaVersion")).filter
      fun version => isSafeInteger version && 1 ≤ version)
    (some "coordinator advertised an invalid schema version")
  refuse ((runtime.toText (Json.get? negotiation "header")).toLower ≠ "accept-schema-version")
    (some "coordinator does not advertise Accept-Schema-Version negotiation")
  refuse (((Json.get? negotiation "supported").bind Json.Value.asArray?).any (fun supported =>
      supported.any fun item => runtime.toNumber (some item) = some schemaVersion) = false)
    (some "coordinator current schema is not in its supported schema set")
  pure schemaVersion

def capabilitiesRequest : OutgoingRequest :=
  ⟨.get, endpoint sender.url capabilitiesPath, [("Accept", "application/json")], none⟩

def coordinatorHeaders (schemaVersion : Nat) (correlationId : String)
    (idempotencyKey : Option String) : List (String × String) :=
  [("Authorization", "Bearer " ++ sender.bearerToken), ("Accept", "application/json"),
    ("Accept-Schema-Version", schemaVersion.repr), ("X-Correlation-Id", correlationId)] ++
  match idempotencyKey with
  | some key => if key.isEmpty then [] else [("Idempotency-Key", key)]
  | none => []

/-- The members of the body of a submission. -/
def heartbeatBody (schemaVersion : Nat) (confirmations : Int) : JsonText.Members :=
  [("schemaVersion", JsonText.integer schemaVersion),
    ("chainId", JsonText.integer sender.chainId.toNat),
    ("poolAddress", JsonText.quote sender.poolAddress),
    ("expectedLivenessAccount", JsonText.quote sender.livenessAccount),
    ("nodeId", JsonText.quote sender.nodeId),
    ("profileHash", JsonText.quote sender.profileHash),
    ("confirmationPolicy",
      JsonText.object [("minimumConfirmations", JsonText.integer confirmations)])]

/-- The message whose digest is the key: the logical beat in front of the body. -/
def heartbeatMessage (schemaVersion : Nat) (context : HeartbeatPublishContext) : Bytes :=
  JsonText.utf8 (JsonText.object (("logicalBeat", JsonText.integer context.logicalBeat) ::
    heartbeatBody sender schemaVersion context.confirmations))

def idempotencyKey (schemaVersion : Nat) (context : HeartbeatPublishContext) : String :=
  "node-heartbeat:" ++ String.ofList (hexDigits (wordBytes 32
    (runtime.keccak256 (heartbeatMessage sender schemaVersion context))))

/-- The submission of a publication; its key is its correlation id as well. -/
def submitRequest (schemaVersion : Nat) (context : HeartbeatPublishContext) : OutgoingRequest :=
  let key := idempotencyKey runtime sender schemaVersion context
  ⟨.post, endpoint sender.url heartbeatOperationPath,
    coordinatorHeaders sender schemaVersion key (some key) ++
      [("Content-Type", "application/json")],
    some (String.ofList (JsonText.object (heartbeatBody sender schemaVersion
      context.confirmations)))⟩

def statusRequest (schemaVersion : Nat) (publication : HeartbeatPublication) : OutgoingRequest :=
  ⟨.get, endpoint sender.url (l1OperationPath ++ "/" ++ encodeUriComponent publication.reference),
    coordinatorHeaders sender schemaVersion publication.correlationId none, none⟩

def expectedOperation (idempotencyKey correlationId : String) : ExpectedOperation :=
  ⟨sender.chainId, sender.livenessAccount, sender.poolAddress, idempotencyKey, correlationId⟩

/-- What a publication returns once its submission has ended. -/
def submitResult (key : String) (answer : FetchEnd) : Except Thrown HeartbeatPublication := do
  let value ← (fetchJson runtime settings.requestTimeoutMs
    ("durable heartbeat submit [" ++ key ++ "]") answer).mapError
      fun message => some ("[" ++ key ++ "] " ++ message.getD "heartbeat submit failed")
  let operation ← parseDurableOperation runtime (expectedOperation sender key key) value
  pure ⟨operation.operationId, key, key⟩

/-- What a poll says about the outcome; the bound of the request shrinks towards the deadline of
the wait. -/
def statusResult (publication : HeartbeatPublication) (timeoutMs : Int) (answer : FetchEnd) :
    Except Thrown (Option HeartbeatOutcome) := do
  let value ← fetchJson runtime timeoutMs
    ("durable heartbeat status [" ++ publication.correlationId ++ "]") answer
  let operation ← parseDurableOperation runtime
    (expectedOperation sender publication.idempotencyKey publication.correlationId) value
  refuse (operation.operationId ≠ publication.reference)
    (some ("[" ++ publication.correlationId ++ "] durable heartbeat operationId mismatch"))
  canonicalOutcome runtime operation settings.confirmations

def receiptTimeoutMessage (publication : HeartbeatPublication) : String :=
  "[" ++ publication.correlationId ++ "] durable heartbeat receipt timed out after " ++
    settings.receiptTimeoutMs.repr ++ "ms"

end Requests

/-! ### The client -/

/-- What a call of `publishHeartbeat` waits for. -/
inductive PublicationPhase where
  | negotiating (promise : Nat)
  | submitting (schemaVersion : Nat)
  | settled
deriving DecidableEq

/-- A call of `publishHeartbeat`, and the beat that made it. -/
structure PublicationCall where
  beat : Nat
  context : HeartbeatPublishContext
  phase : PublicationPhase
deriving DecidableEq

/-- What a call of `waitForOutcome` waits for. -/
inductive WaitPhase where
  | negotiating (promise : Nat)
  | polling (schemaVersion : Nat)
  | pausing (schemaVersion : Nat)
deriving DecidableEq

structure OutcomeWait where
  publication : HeartbeatPublication
  phase : WaitPhase
deriving DecidableEq

/-- A submission: the call it is for, the beat of the call, and what it is made from. -/
structure HeartbeatPost where
  call : Nat
  beat : Nat
  context : HeartbeatPublishContext
  schemaVersion : Nat
deriving DecidableEq

/-- The request of a submission. -/
def HeartbeatPost.request (runtime : JsRuntime) (sender : DurableSender) (post : HeartbeatPost) :
    OutgoingRequest :=
  submitRequest runtime sender post.schemaVersion post.context

/-- The state of the client. Negotiations are numbered, and `negotiated` is the one that calls
share; publications are numbered as the loop numbers its calls. -/
structure CoordinatorClient where
  promises : List (Option (Except Thrown Nat))
  negotiated : Option Nat
  publications : List PublicationCall
  waiting : Option OutcomeWait
  posts : List HeartbeatPost
  gets : List OutgoingRequest

namespace CoordinatorClient

variable (sender : DurableSender)

/-- The promise that the next caller of `negotiate` gets. -/
def promised (client : CoordinatorClient) : Nat :=
  client.negotiated.getD client.promises.length

/-- Ask the coordinator, unless there is a promise already. -/
def negotiate (client : CoordinatorClient) : CoordinatorClient :=
  match client.negotiated with
  | some _ => client
  | none =>
    { client with
      promises := client.promises ++ [none]
      negotiated := some client.promises.length
      gets := client.gets ++ [capabilitiesRequest sender] }

/-- The end of a negotiation. A failure is caught on its way and clears the shared promise. -/
def negotiationEnded (client : CoordinatorClient) (promise : Nat) (result : Except Thrown Nat) :
    CoordinatorClient :=
  { client with
    promises := client.promises.set promise (some result)
    negotiated := match result with
      | .ok _ => client.negotiated
      | .error _ => none }

def publishHeartbeat (client : CoordinatorClient) (beat : Nat)
    (context : HeartbeatPublishContext) : CoordinatorClient :=
  { client.negotiate sender with
    publications := client.publications ++ [⟨beat, context, .negotiating client.promised⟩] }

def waitForOutcome (client : CoordinatorClient) (publication : HeartbeatPublication) :
    CoordinatorClient :=
  { client.negotiate sender with waiting := some ⟨publication, .negotiating client.promised⟩ }

/-- The result of the negotiation that a publication waits for. -/
def negotiatedCall? (client : CoordinatorClient) (call : Nat) :
    Option (PublicationCall × Except Thrown Nat) :=
  client.publications[call]?.bind fun publication =>
    match publication.phase with
    | .negotiating promise => client.promises[promise]?.join.map fun result => (publication, result)
    | _ => none

/-- The publication whose submission is under way. -/
def submittingCall? (client : CoordinatorClient) (call : Nat) : Option (PublicationCall × Nat) :=
  client.publications[call]?.bind fun publication =>
    match publication.phase with
    | .submitting schemaVersion => some (publication, schemaVersion)
    | _ => none

def moveCall (client : CoordinatorClient) (call : Nat) (publication : PublicationCall)
    (phase : PublicationPhase) : CoordinatorClient :=
  { client with publications := client.publications.set call { publication with phase := phase } }

def submit (client : CoordinatorClient) (call : Nat) (publication : PublicationCall)
    (schemaVersion : Nat) : CoordinatorClient :=
  { client.moveCall call publication (.submitting schemaVersion) with
    posts := client.posts ++ [⟨call, publication.beat, publication.context, schemaVersion⟩] }

def poll (client : CoordinatorClient) (publication : HeartbeatPublication) (schemaVersion : Nat) :
    CoordinatorClient :=
  { client with
    waiting := some ⟨publication, .polling schemaVersion⟩
    gets := client.gets ++ [statusRequest sender schemaVersion publication] }

end CoordinatorClient

/-! ### The heartbeat with this client -/

/-- The loop with its client, and the number of beats it has started. -/
structure DurableHeartbeat where
  loop : HeartbeatLoop
  beats : Nat
  client : CoordinatorClient

/-- What can happen. The events of the loop that the client makes are not among the loop's own
here: they come from the answers of the coordinator. The clock says whether a wait is past its
deadline. -/
inductive CoordinatorEvent where
  | loop (event : HeartbeatEvent)
  | capabilitiesAnswered (promise : Nat) (answer : FetchEnd)
  | publicationNegotiated (call : Nat)
  | submitAnswered (call : Nat) (answer : FetchEnd)
  | waitNegotiated (expired : Bool)
  | statusAnswered (timeoutMs : Int) (answer : FetchEnd)
  | pauseElapsed (expired : Bool)
deriving DecidableEq

/-- The events that are the ends of the client's calls. -/
def HeartbeatEvent.ofClient : HeartbeatEvent → Bool
  | .published _ _ => true
  | .publicationThrew _ _ => true
  | .outcome _ => true
  | .outcomeThrew _ => true
  | _ => false

namespace DurableHeartbeat

variable (runtime : JsRuntime) (sender : DurableSender) (settings : HeartbeatSettings)

/-- The heartbeat after a step of its loop: a beat may have started, and the loop may have made
a call that the client now begins to serve. -/
def follow (state : DurableHeartbeat) (after : HeartbeatLoop) : DurableHeartbeat :=
  let beats := if after.running && !state.loop.running then state.beats + 1 else state.beats
  let client := match after.phase with
    | .publishing _ logicalBeat _ =>
      if state.loop.calls < after.calls then
        state.client.publishHeartbeat sender beats ⟨logicalBeat, settings.confirmations⟩
      else state.client
    | .confirming _ _ publication =>
      if state.client.waiting.isNone then state.client.waitForOutcome sender publication
      else state.client
    | _ => state.client
  ⟨after, beats, client⟩

def advance (state : DurableHeartbeat) (event : HeartbeatEvent) : Option DurableHeartbeat :=
  (state.loop.step settings event).map (state.follow sender settings)

/-- A publication settles. -/
def endCall (state : DurableHeartbeat) (call : Nat) (publication : PublicationCall)
    (event : HeartbeatEvent) : Option DurableHeartbeat :=
  { state with client := state.client.moveCall call publication .settled }.advance sender settings
    event

/-- A wait for an outcome settles. -/
def endWait (state : DurableHeartbeat) (event : HeartbeatEvent) : Option DurableHeartbeat :=
  { state with client := { state.client with waiting := none } }.advance sender settings event

/-- The head of the polling loop. -/
def pollUnless (state : DurableHeartbeat) (expired : Bool) (publication : HeartbeatPublication)
    (schemaVersion : Nat) : Option DurableHeartbeat :=
  if expired then
    state.endWait sender settings
      (.outcomeThrew (some (receiptTimeoutMessage settings publication)))
  else some { state with client := state.client.poll sender publication schemaVersion }

def publicationNegotiated (state : DurableHeartbeat) (call : Nat) : Option DurableHeartbeat :=
  match state.client.negotiatedCall? call with
  | some (publication, .ok schemaVersion) =>
    some { state with client := state.client.submit call publication schemaVersion }
  | some (publication, .error message) =>
    state.endCall sender settings call publication (.publicationThrew call message)
  | none => none

def submitAnswered (state : DurableHeartbeat) (call : Nat) (answer : FetchEnd) :
    Option DurableHeartbeat :=
  match state.client.submittingCall? call with
  | some (publication, schemaVersion) =>
    let key := idempotencyKey runtime sender schemaVersion publication.context
    match submitResult runtime sender settings key answer with
    | .ok result => state.endCall sender settings call publication (.published call result)
    | .error message =>
      state.endCall sender settings call publication (.publicationThrew call message)
  | none => none

def waitNegotiated (state : DurableHeartbeat) (expired : Bool) : Option DurableHeartbeat :=
  match state.client.waiting with
  | some ⟨publication, .negotiating promise⟩ =>
    match state.client.promises[promise]? with
    | some (some (.ok schemaVersion)) =>
      state.pollUnless sender settings expired publication schemaVersion
    | some (some (.error message)) => state.endWait sender settings (.outcomeThrew message)
    | _ => none
  | _ => none

def statusAnswered (state : DurableHeartbeat) (timeoutMs : Int) (answer : FetchEnd) :
    Option DurableHeartbeat :=
  match state.client.waiting with
  | some ⟨publication, .polling schemaVersion⟩ =>
    match statusResult runtime sender settings publication timeoutMs answer with
    | .ok (some outcome) => state.endWait sender settings (.outcome outcome)
    | .ok none =>
      some { state with
        client := { state.client with waiting := some ⟨publication, .pausing schemaVersion⟩ } }
    | .error message => state.endWait sender settings (.outcomeThrew message)
  | _ => none

def pauseElapsed (state : DurableHeartbeat) (expired : Bool) : Option DurableHeartbeat :=
  match state.client.waiting with
  | some ⟨publication, .pausing schemaVersion⟩ =>
    state.pollUnless sender settings expired publication schemaVersion
  | _ => none

/-- One event; `none` if it cannot happen now. -/
def step (state : DurableHeartbeat) : CoordinatorEvent → Option DurableHeartbeat
  | .loop event => if event.ofClient then none else state.advance sender settings event
  | .capabilitiesAnswered promise answer =>
    match state.client.promises[promise]? with
    | some none =>
      some { state with
        client := state.client.negotiationEnded promise (readCapabilities runtime settings answer) }
    | _ => none
  | .publicationNegotiated call => state.publicationNegotiated sender settings call
  | .submitAnswered call answer => state.submitAnswered runtime sender settings call answer
  | .waitNegotiated expired => state.waitNegotiated sender settings expired
  | .statusAnswered timeoutMs answer =>
    state.statusAnswered runtime sender settings timeoutMs answer
  | .pauseElapsed expired => state.pauseElapsed sender settings expired

/-- A started heartbeat is in its first beat and has asked the coordinator nothing. -/
def start : DurableHeartbeat := ⟨HeartbeatLoop.start, 1, ⟨[], none, [], none, [], []⟩⟩

def run (events : List CoordinatorEvent) : Option DurableHeartbeat :=
  events.foldlM (step runtime sender settings) start

end DurableHeartbeat

end Zkdeal

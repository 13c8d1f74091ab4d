import LiveStream.Boundary.Advance
import LiveStream.Support.Task

/-! `EffectExecutorServer`: one handling of a connection, with its worker when
the effect is asynchronous, as a task whose calls are ledger operations. What the
injected callables do is given by the surroundings of the handling. -/

namespace LiveStream.Boundary

open LiveStream.Support

/-- An exception as the handler's `except` clauses tell it apart. -/
inductive Raised where
  | outcomeUnknown (reason : String) (result : Fields)
  | effectRejected (reason : String)
  | error (error : PyError)

/-- `OutcomeUnknown.result`: the given mapping with the reason in it. -/
def unknownResult (reason : String) (result : Fields) : Fields := result.set "reason" (.str reason)

def ErrorKind.className : ErrorKind → String
  | .value => "ValueError"
  | .key => "KeyError"
  | .type => "TypeError"
  | .attribute => "AttributeError"
  | .overflow => "OverflowError"
  | .os => "OSError"
  | .runtime => "RuntimeError"
  | .database => "IntegrityError"
  | .interrupt => "KeyboardInterrupt"

/-- What `_identity_mismatch` reads from `current_target()`: identities where the
value equals an exact identity, and `str(value or "")` of the texts. -/
structure CurrentTarget where
  ffmpegTarget : Option TargetIdentity
  ffmpegGeneration : String
  route : Option String
  routeGeneration : Option Int
  runtimeIdentity : Option RuntimeIdentity
  executorInstanceId : String

structure ServerConfig where
  allowedIntents : Intent → Bool
  executeAsync : Bool
  requireTransportVerification : Bool
  hasRouteAuthorizer : Bool

/-- What one handling meets: the answers of the callables, where an answer of
`current_target` or `perform_effect` includes its conversion with `dict`, the
clock, and whether a worker thread starts. `beforeEffect` is `none` without a hook. -/
structure Surroundings where
  firstGrant : Except Raised String
  issueClock : Int
  expiryClock : Int
  firstTarget : Except Raised CurrentTarget
  secondTarget : Except Raised CurrentTarget
  secondGrant : Except Raised String
  beforeEffect : Option (Except Raised Unit)
  workerStarts : Bool
  performEffect : Except Raised Fields
  acceptedAt : Nat
  startedAt : Nat
  markedAt : Nat
  finishedAt : Nat

/-- A connection as `_handle_connection` reads it. -/
inductive Message where
  | unauthorizedPeer | tooLarge
  | unreadable (raised : Raised)
  | effectRequest (value : RequestFields)

structure Response where
  ok : Bool
  reason : String
  state : EffectState
  requestId : String
  correlationId : String
  intentType : String
  replay : Bool
  result : Option Fields
  automaticRetry : Option Bool

/-- A finished handling: its answer, and what `perform_effect` did if it was invoked. -/
structure Handled where
  response : Response
  performed : Option (Except Raised Fields)

abbrev LedgerTask := Task (LedgerOp × Nat) (Except PyError LedgerReply) Handled

/-- `_response`, without the authority and the count that it reads from the ledger. -/
def respond (ok : Bool) (reason : String) (state : EffectState) (request : Option EffectRequest)
    (replay : Bool) (result : Option Fields) : Response where
  ok := ok
  reason := reason
  state := state
  requestId := (request.map (·.requestId)).getD ""
  correlationId := (request.map (·.correlationId)).getD ""
  intentType := (request.map (·.intentType.text)).getD ""
  replay := replay
  result := result
  automaticRetry :=
    if state = .outcomeUnknown ∨ reason = "LOGICAL_GENERATION_PID_INVARIANT_BROKEN" ∨
        reason = "TARGET_EFFECT_UNRESOLVED" then some false
    else none

/-- `_identity_mismatch`; `none` stands for the empty text. -/
def identityMismatch (request : EffectRequest) (current : CurrentTarget) : Option String :=
  if request.intentType.isDelivery ∧ current.ffmpegTarget ≠ request.ffmpegTargetIdentity then
    some "TARGET_IDENTITY_DRIFT"
  else if request.intentType.isDelivery ∧
      current.ffmpegGeneration ≠ request.expectedFfmpegGeneration then
    some "FFMPEG_GENERATION_DRIFT"
  else if request.intentType = .switchStreamRoute ∧
      (current.route ≠ request.routeTransition.map (·.fromRoute.text) ∨
        current.routeGeneration ≠ request.routeTransition.map (·.expectedRouteGeneration)) then
    some "STREAM_ROUTE_GENERATION_DRIFT"
  else if request.intentType.isDelivery = false ∧
      current.runtimeIdentity ≠ request.runtimeIdentity then
    some "RUNTIME_IDENTITY_DRIFT"
  else if current.executorInstanceId ≠ request.expectedExecutorInstanceId then
    some "EXECUTOR_INSTANCE_DRIFT"
  else none

/-- The refusal of a route switch by its authorizer, which may be missing. -/
def grantRefusal (config : ServerConfig) (request : EffectRequest)
    (grant : Except Raised String) : Except Raised (Option String) :=
  if request.intentType = .switchStreamRoute then
    if config.hasRouteAuthorizer then
      grant.map fun error => if error = "" then none else some error
    else .ok (some "OPERATOR_ROUTE_GRANT_REQUIRED")
  else .ok none

/-- The refusal of a request that is not valid yet, or no longer. -/
def clockRefusal (request : EffectRequest) (surroundings : Surroundings) :
    Except Raised (Option String) :=
  match parseUtc request.issuedAt, parseUtc request.expiresAt with
  | .error error, _ => .error (.error error)
  | .ok issued, expiry =>
    if surroundings.issueClock < issued then .ok (some "REQUEST_ISSUED_IN_FUTURE")
    else
      match expiry with
      | .error error => .error (.error error)
      | .ok expires =>
        if expires ≤ surroundings.expiryClock then .ok (some "REQUEST_EXPIRED") else .ok none

/-- The first check that raises or refuses decides. -/
def thenCheck (first next : Except Raised (Option String)) : Except Raised (Option String) :=
  match first with
  | .ok none => next
  | .ok (some reason) => .ok (some reason)
  | .error raised => .error raised

/-- The checks of `_handle_connection` before it calls `accept`. -/
def preflight (config : ServerConfig) (request : EffectRequest) (surroundings : Surroundings) :
    Except Raised (Option String) :=
  thenCheck
    (.ok (if config.allowedIntents request.intentType then none
      else some "INTENT_NOT_OWNED_BY_EXECUTOR")) <|
  thenCheck (grantRefusal config request surroundings.firstGrant) <|
  thenCheck (clockRefusal request surroundings) <|
  surroundings.firstTarget.map (identityMismatch request)

/-- Whether a transition was persisted; `_safe_transition` swallows every exception. -/
def persisted : Except PyError LedgerReply → Bool
  | .ok (.updated hit) => hit
  | _ => false

/-- `_safe_transition` from `EXECUTION_STARTED`. -/
def safeTransition (request : EffectRequest) (ending : Ending) (result : Fields) (now : Nat)
    (next : Bool → LedgerTask) : LedgerTask :=
  .call (.finish request.requestId ending (some result), now) fun answer => next (persisted answer)

/-- The `except` clauses of `_handle_connection` for a request that was parsed. -/
def settle (request : EffectRequest) (raised : Raised)
    (performed : Option (Except Raised Fields)) (now : Nat) : LedgerTask :=
  match raised with
  | .outcomeUnknown reason result =>
    safeTransition request .unknown (unknownResult reason result) now fun _ =>
      .done ⟨respond false "OUTCOME_UNKNOWN" .outcomeUnknown request false
        (unknownResult reason result), performed⟩
  | .effectRejected reason =>
    let result : Fields := [("reason", .str reason), ("physical_effect_count", .int 0)]
    safeTransition request .failed result now fun _ =>
      .done ⟨respond false reason .effectFailed request false result, performed⟩
  | .error error =>
    if error.kind = .value then
      .done ⟨respond false error.text .rejected request false none, performed⟩
    else
      safeTransition request .unknown [("error_type", .str (ErrorKind.className error.kind))] now
        fun _ => .done ⟨respond false "EXECUTOR_INTERNAL_ERROR" .outcomeUnknown request false none,
          performed⟩

/-- The same clauses before there is a request: no row to move. -/
def settleUnparsed : Raised → LedgerTask
  | .outcomeUnknown reason result =>
    .done ⟨respond false "OUTCOME_UNKNOWN" .outcomeUnknown none false
      (unknownResult reason result), none⟩
  | .effectRejected reason =>
    .done ⟨respond false reason .effectFailed none false
      (some [("reason", .str reason), ("physical_effect_count", .int 0)]), none⟩
  | .error error =>
    if error.kind = .value then .done ⟨respond false error.text .rejected none false none, none⟩
    else .done ⟨respond false "EXECUTOR_INTERNAL_ERROR" .outcomeUnknown none false none, none⟩

/-- The result of the effect, marked when the audit hook failed. -/
def auditedResult (surroundings : Surroundings) (result : Fields) : Fields :=
  match surroundings.beforeEffect with
  | some (.error _) =>
    (result.set "audit_hook_failure" (.bool true)).set "production_behavior_modified_by_audit"
      (.bool false)
  | some (.ok ()) | none => result

/-- How an observed effect ends: delivery effects may still have to be verified. -/
def ServerConfig.observedEnding (config : ServerConfig) (request : EffectRequest) : Ending :=
  if config.requireTransportVerification && request.intentType.isDelivery then
    .awaitingVerification
  else .observed

/-- `perform_effect` and what follows it in the synchronous mode. -/
def performSynchronously (config : ServerConfig) (request : EffectRequest)
    (surroundings : Surroundings) : LedgerTask :=
  match surroundings.performEffect with
  | .error raised => settle request raised (some (.error raised)) surroundings.finishedAt
  | .ok fields =>
    let result := auditedResult surroundings fields
    safeTransition request (config.observedEnding request) result surroundings.finishedAt
      fun kept =>
        .done ⟨if kept then respond true "EFFECT_OBSERVED" .effectObserved request false result
          else respond false "EFFECT_RESULT_PERSISTENCE_FAILED" .outcomeUnknown request false
            (some (result.set "result_persisted" (.bool false))), some (.ok fields)⟩

/-- `_complete_effect`: the worker, after the handler answered with `response`. -/
def completeEffect (config : ServerConfig) (request : EffectRequest)
    (surroundings : Surroundings) (response : Response) : LedgerTask :=
  let finished : LedgerTask := .done ⟨response, some surroundings.performEffect⟩
  match surroundings.performEffect with
  | .ok fields =>
    safeTransition request (config.observedEnding request) (auditedResult surroundings fields)
      surroundings.finishedAt fun _ => finished
  | .error (.outcomeUnknown reason result) =>
    safeTransition request .unknown (unknownResult reason result) surroundings.finishedAt
      fun _ => finished
  | .error (.effectRejected reason) =>
    safeTransition request .failed [("reason", .str reason), ("physical_effect_count", .int 0)]
      surroundings.finishedAt fun _ => finished
  | .error (.error error) =>
    safeTransition request .unknown
      [("reason", .str "EXECUTOR_INTERNAL_ERROR"),
        ("error_type", .str (ErrorKind.className error.kind))]
      surroundings.finishedAt fun _ => finished

/-- `_start_effect_worker`: a thread that does not start raises in the handler. -/
def startEffectWorker (config : ServerConfig) (request : EffectRequest)
    (surroundings : Surroundings) : LedgerTask :=
  if surroundings.workerStarts then
    completeEffect config request surroundings
      (respond true "EFFECT_ACCEPTED_EXECUTION_STARTED" .executionStarted request false
        (some [("execution_async", .bool true), ("effect_result_pending", .bool true)]))
  else settle request (.error (runtimeError "can't start new thread")) none surroundings.finishedAt

/-- From the durable boundary on. -/
def crossBoundary (config : ServerConfig) (request : EffectRequest)
    (surroundings : Surroundings) : LedgerTask :=
  .call (.markEffectBoundary request.requestId, surroundings.markedAt) fun
    | .ok (.updated true) =>
      if config.executeAsync then startEffectWorker config request surroundings
      else performSynchronously config request surroundings
    | .ok _ =>
      safeTransition request .unknown
        [("reason", .str "EFFECT_SCOPE_BOUNDARY_RESERVATION_FAILED")] surroundings.finishedAt
        fun _ => .done ⟨respond false "EFFECT_SCOPE_BOUNDARY_RESERVATION_FAILED" .outcomeUnknown
          request false none, none⟩
    | .error error => settle request (.error error) none surroundings.finishedAt

/-- The checks between the start of the execution and the boundary. -/
def revalidate (config : ServerConfig) (request : EffectRequest) (surroundings : Surroundings)
    (replay : Bool) : LedgerTask :=
  match surroundings.secondTarget with
  | .error raised => settle request raised none surroundings.finishedAt
  | .ok current =>
    match identityMismatch request current with
    | some mismatch =>
      let result : Fields :=
        [("reason", .str "EFFECT_BOUNDARY_IDENTITY_DRIFT"), ("identity_mismatch", .str mismatch),
          ("physical_effect_count", .int 0)]
      safeTransition request .failed result surroundings.finishedAt fun _ =>
        .done ⟨respond false "EFFECT_BOUNDARY_IDENTITY_DRIFT" .effectFailed request replay result,
          none⟩
    | none =>
      match grantRefusal config request surroundings.secondGrant with
      | .error raised => settle request raised none surroundings.finishedAt
      | .ok (some reason) =>
        safeTransition request .failed
          [("reason", .str reason), ("physical_effect_count", .int 0)] surroundings.finishedAt
          fun _ => .done ⟨respond false reason .effectFailed request false none, none⟩
      | .ok none => crossBoundary config request surroundings

/-- From the transition to `EXECUTION_STARTED` on. -/
def execute (config : ServerConfig) (request : EffectRequest) (surroundings : Surroundings)
    (replay : Bool) : LedgerTask :=
  .call (.start request.requestId, surroundings.startedAt) fun
    | .ok (.updated true) => revalidate config request surroundings replay
    | .ok _ =>
      .done ⟨respond false "EXECUTION_START_TRANSITION_FAILED" .outcomeUnknown request false none,
        none⟩
    | .error error => settle request (.error error) none surroundings.finishedAt

/-- The handling of a parsed request. -/
def handleRequest (config : ServerConfig) (request : ParsedRequest)
    (surroundings : Surroundings) : LedgerTask :=
  match preflight config request.1 surroundings with
  | .error raised => settle request.1 raised none surroundings.finishedAt
  | .ok (some reason) => .done ⟨respond false reason .rejected request.1 false none, none⟩
  | .ok none =>
    .call (.accept request, surroundings.acceptedAt) fun
      | .ok (.accepted reply) =>
        if reply.accepted then execute config request.1 surroundings reply.replay
        else .done ⟨respond false reply.reason.text reply.state request.1 reply.replay reply.result,
          none⟩
      | .ok _ => settle request.1 (.error (runtimeError "")) none surroundings.finishedAt
      | .error error => settle request.1 (.error error) none surroundings.finishedAt

/-- `_handle_connection` for an effect request, and then its worker. -/
def handleConnection (config : ServerConfig) (message : Message) (surroundings : Surroundings) :
    LedgerTask :=
  match message with
  | .unauthorizedPeer =>
    .done ⟨respond false "PEER_UID_UNAUTHORIZED" .rejected none false none, none⟩
  | .tooLarge => .done ⟨respond false "REQUEST_TOO_LARGE" .rejected none false none, none⟩
  | .unreadable raised => settleUnparsed raised
  | .effectRequest value =>
    match parsed : EffectRequest.fromMapping value with
    | .error error => settleUnparsed (.error error)
    | .ok request => handleRequest config ⟨request, fromMapping_wellFormed parsed⟩ surroundings

end LiveStream.Boundary

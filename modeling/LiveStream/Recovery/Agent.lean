import LiveStream.Recovery.World

/-! `Agent`: one cycle of observing, deciding, reserving, requesting and verifying, and the
loop around it. -/

namespace LiveStream.Recovery

open LiveStream.Support Script Process

/-- `except Exception`. -/
def isException (error : PyError) : Bool := error.kind ≠ .interrupt

/-- `int(value or 0)`. -/
def intOrZero (value : Value) : Except PyError Int :=
  if value.truthy then value.toInt else .ok 0

/-- `build_restart_request`. -/
def buildRestartRequest (config : Config) (obs : Observation) (now : Instant) (streak : Nat) :
    Except PyError RestartRequest := do
  let projectionSequence ← intOrZero (obs.get "projection_sequence")
  return {
    requestId := config.requestIdFor obs.generationKey
    producerId := config.producerId
    producerGeneration := config.producerGeneration
    reason := "cra: confirmed tcp stall streak=" ++ toString streak
    issuedAt := now
    expiresAt := now + 3000000
    ffmpegTargetIdentity := obs.get "target_identity"
    expectedFfmpegGeneration := obs.ffmpegGeneration
    targetSnapshotId := obs.get "target_snapshot_id"
    runtimeObservationId := obs.observationId
    expectedExecutorInstanceId := obs.executorInstanceId
    maintenanceEvidenceStatus := obs.get "maintenance_evidence_status"
    projectionId := obs.get "projection_id"
    projectionSequence }

/-- `response.get(key)`. -/
def field (response : Fields) (key : String) : Value := (response.get? key).getD .none

/-- `classify`. -/
def classify (response : Fields) (expectedRequestId : String) : ActionState :=
  let state := (field response "state").text?.getD ""
  let ok := field response "ok"
  if !(field response "request_id").isText expectedRequestId then .outcomeUnknown
  else if ok.isTrue && state = "EFFECT_OBSERVED" then .effectObserved
  else if ok.isFalse && state = "REJECTED" then .rejected
  else if ok.isFalse && state = "EFFECT_FAILED" then .effectFailed
  else if ok.isFalse && (field response "reason").isText "TARGET_EFFECT_UNRESOLVED" then .rejected
  else .outcomeUnknown

section Methods

variable (config : Config)

/-- `self.tracker.reset()`. -/
def resetTracker : Process Unit := remember fun memory => { memory with tracker := .new }

/-- `self.tracker.update(obs, policy, max_gap_sec=…)`. -/
def updateTracker (obs : Observation) (policy : Policy) : Process (Bool × Nat) := do
  let updated := (← memory).tracker.update obs policy config.maxGapSec
  remember fun memory => { memory with tracker := updated.1 }
  return updated.2

/-- The probe of the network, where there is an endpoint to probe. -/
def mayProbe (probes : Bool) : Process (Option Network) :=
  if probes then some <$> probe else return none

/-- `_evidence` for an observation. -/
def evidence (obs : Observation) (streak : Nat) (network : Option Network) : Evidence where
  generationKey := obs.generationKey
  observationId := obs.observationId
  sequence := obs.sequence
  uptimeSec := obs.ffmpegUptimeSec
  streak := streak
  tcp := obs.tcp
  executorInstanceId := obs.executorInstanceId
  deliveryRoute := obs.get "delivery_route"
  transportBindingStatus := obs.bindingStatus
  transportBinding := obs.binding
  ingestEndpoint := config.endpoint obs
  network := network

/-- `_record_decision`: a decision that repeats the last one is not recorded. -/
def recordDecision (now : Instant) (decision : Decision) (policy : Policy)
    (found : Option Evidence) : Process Unit := do
  if decision.summary = (← memory).lastSummary then return ()
  else
    remember fun memory => { memory with lastSummary := decision.summary }
    audit now (.decision decision policy.version policy.mode found)

/-- `_finish`, as far as the stores see it. -/
def finish (now : Instant) (policy : Policy) : Process Unit := do
  if 600 ≤ seconds (now - (← memory).lastHeartbeat) then
    remember fun memory => { memory with lastHeartbeat := now }
    audit now (.heartbeat policy.version policy.mode)
  else return ()

/-- `Decision(NONE, "DISPATCH_BLOCKED", (why,))`. -/
def blocked (why : String) : Decision := .none "DISPATCH_BLOCKED" [why]

/-- What `_dispatch_guard` requires of a fresh observation before it decides again. -/
def targetMoved (original obs : Observation) : Option String :=
  if !obs.transportIdentity.same original.transportIdentity ||
      !(obs.get "target_identity").equal (original.get "target_identity") ||
      config.endpoint obs ≠ config.endpoint original then some "TARGET_CHANGED"
  else if obs.sequence < original.sequence ∨ obs.observedAt < original.observedAt then
    some "OBSERVATION_REGRESSED"
  else none

/-- The mode of the rows that a policy writes. -/
def Policy.actionMode (policy : Policy) : ActionMode :=
  if policy.mode = .enforce then .enforce else .dryRun

/-- The history that `_dispatch_guard` decides on: none after the reservation. -/
def guardHistory (policy : Policy) (obs : Observation) (now : Instant) (reserved : Bool) :
    Process History :=
  if reserved then return ⟨false, none, 0, 0⟩
  else query fun store => store.history now obs.generationKey policy.actionMode

/-- The end of `_dispatch_guard`: the decision on the fresh observation. -/
def guardDecision (policy : Policy) (obs : Observation) (streak : Nat) (network : Option Network)
    (now : Instant) (reserved : Bool) : Process (Instant × Option Observation × Decision) := do
  let (_, currentStreak) ← updateTracker config obs policy
  let history ← guardHistory policy obs now reserved
  let result := decide now obs (min streak currentStreak)
    (stallDuration (← memory).tracker obs.observedAt) network history policy config.producerId
    config.producerGeneration false
  if ← stopped then return (now, some obs, blocked "LOCAL_STOP")
  else return (now, some obs, result)

/-- `_dispatch_guard`. -/
def dispatchGuard (policy : Policy) (original : Observation) (streak : Nat)
    (network : Option Network) (networkCheckedAt : Instant) (reserved : Bool) :
    Process (Instant × Option Observation × Decision) := do
  let currentPolicy ← readPolicy config
  let now ← clock
  if ← stopped then return (now, none, blocked "LOCAL_STOP")
  else if currentPolicy ≠ policy then return (now, none, blocked "POLICY_CHANGED")
  else if ¬(0 ≤ seconds (now - networkCheckedAt) ∧
      seconds (now - networkCheckedAt) ≤ config.observationMaxAgeSec) then
    return (now, none, blocked "NETWORK_EVIDENCE_STALE")
  else
    match ← readObservation config now with
    | .error why =>
      resetTracker
      return (now, none, blocked why)
    | .ok obs =>
      match targetMoved config original obs with
      | some why =>
        resetTracker
        return (now, some obs, blocked why)
      | none => guardDecision config policy obs streak network now reserved

/-- The `agent_…` entries that `_act` adds to a response. -/
def requestContext (policy : Policy) (obs : Observation) (issuedAt : Instant) : RequestContext where
  requestIssuedAt := issuedAt
  executorInstanceId := obs.executorInstanceId
  podUid := obs.podUid
  verifyWindowSec := policy.verifyWindowSec
  previousGeneration := obs.ffmpegGeneration
  deliveryRoute := obs.get "delivery_route"
  deliveryRouteGeneration := obs.get "delivery_route_generation"
  maxSampleGapSec := config.maxGapSec
  stallLastsndMs := policy.stallLastsndMs

/-- The call of the sender: any exception leaves the outcome unknown. -/
def request (policy : Policy) (request : RestartRequest) (actionId : Nat)
    (generationKey : String) : Process (Fields × ActionState) :=
  handle
    (do
      let response ← send request actionId generationKey policy
      return (response, classify response request.requestId))
    fun error =>
      if isException error then return ([("error", .str error.text)], .outcomeUnknown)
      else throw error

/-- `_act` from its second guard on, with the reservation of `reservedObs`. -/
def actReserved (decision : Decision) (policy : Policy) (reservedObs : Observation) (streak : Nat)
    (network : Option Network) (networkCheckedAt : Instant) (actionId : Nat) :
    Process Decision := do
  let (now, latest, guarded) ←
    dispatchGuard config policy reservedObs streak network networkCheckedAt true
  match latest with
  | some obs =>
    if guarded.outcome ≠ decision.outcome then
      transact fun store => (store.completeAction now actionId .cancelledBeforeSend
        ⟨[("reason", .str guarded.summary)], none, none⟩, ())
      return guarded
    else if decision.outcome ≠ .restart then
      transact fun store => (store.completeAction now actionId .dryRun .empty, ())
      return decision
    else
      let issuedAt ← clock
      let restart ← liftM (buildRestartRequest config obs issuedAt streak)
      let (response, state) ← request policy restart actionId obs.generationKey
      let completedAt ← clock
      transact fun store => (store.completeAction completedAt actionId state
        ⟨response, some (requestContext config policy obs issuedAt), none⟩, ())
      return decision
  | none =>
    transact fun store => (store.completeAction now actionId .cancelledBeforeSend
      ⟨[("reason", .str guarded.summary)], none, none⟩, ())
    return guarded

/-- `_act`. -/
def actOn (decision : Decision) (policy : Policy) (original : Observation) (streak : Nat)
    (network : Option Network) (networkCheckedAt : Instant) : Process Decision := do
  let (now, latest, guarded) ←
    dispatchGuard config policy original streak network networkCheckedAt false
  match latest with
  | none => return guarded
  | some obs =>
    if guarded.outcome ≠ decision.outcome then return guarded
    else
      let mode : ActionMode := if decision.outcome = .restart then .enforce else .dryRun
      let reserved ← transact fun store => store.reserveAction now obs.generationKey mode
        (config.requestIdFor obs.generationKey) policy.version ((obs.tcp.map (·.bytesSent)).getD 0)
        (evidence config obs streak network)
      match reserved with
      | none => return .none "STALL_CONFIRMED" ["GENERATION_ALREADY_ACTED"]
      | some actionId =>
        actReserved config decision policy obs streak network networkCheckedAt actionId

/-- What `_verify` makes of one row: its result if there is one, the progress that counts now,
and whether the sample is kept for the next cycle. -/
structure Judgment where
  result : Option VerifyResult
  progress : Option (DeliverySample × DeliverySample)
  sampled : Bool

/-- The request of the response was made to the runtime that is observed. -/
def sameRuntime (response : Response) (obs : Observation) : Bool :=
  response.request.any fun request =>
    request.executorInstanceId = obs.executorInstanceId && request.podUid = obs.podUid &&
      request.deliveryRoute.equal (obs.get "delivery_route") &&
      request.deliveryRouteGeneration.equal (obs.get "delivery_route_generation")

/-- The result of an enforced action whose window is over. -/
def lateResult (row : Action) (progressed : Bool) : VerifyResult :=
  if progressed then .deliveryResumedExecutionUnknown
  else if row.state = .outcomeUnknown then .outcomeUnresolved else .notRecovered

/-- The progress of the cycle: the two latest samples, or what was found before. -/
def advanceProgress (policy : Policy) (row : Action) (sample : DeliverySample)
    (previous : Option DeliverySample) (progress : Option (DeliverySample × DeliverySample)) :
    Option (DeliverySample × DeliverySample) :=
  let lastsndMs := (row.loaded.request.map (·.stallLastsndMs)).getD policy.stallLastsndMs
  if afterRequest (some sample) row.loaded && afterRequest previous row.loaded &&
      sendingProgress previous (some sample) config.maxGapSec lastsndMs then
    previous.map fun first => (first, sample)
  else progress

/-- The branch of `_verify` on an enforced action. -/
def judgeEnforced (policy : Policy) (row : Action) (obs : Observation) (now : Instant)
    (previous : Option DeliverySample) (progress : Option (DeliverySample × DeliverySample)) :
    Judgment :=
  let sample := deliverySample obs
  let age := seconds (now - ofStamp row.createdAt)
  let actionAge := (row.loaded.request.map fun request =>
    seconds (now - request.requestIssuedAt)).getD age
  let window := (row.loaded.request.map (·.verifyWindowSec)).getD policy.verifyWindowSec
  if obs.generationKey ≠ row.generationKey ∧ obs.ffmpegRunning = true ∧ obs.ffmpegGeneration ≠ "" ∧
      obs.targetValid = true then
    if sameRuntime row.loaded obs = false ∨
        (actionAge ≤ window ∧ afterRequest (some sample) row.loaded = false) then
      ⟨some .generationChangedUnattributed, progress, false⟩
    else
      let advanced := advanceProgress config policy row sample previous progress
      if advanced.isSome ∧ row.state = .effectObserved then ⟨some .deliveryResumed, advanced, true⟩
      else if window < actionAge then ⟨some (lateResult row advanced.isSome), advanced, true⟩
      else ⟨none, advanced, true⟩
  else if window < actionAge then ⟨some (lateResult row false), progress, false⟩
  else ⟨none, progress, false⟩

/-- The branch of `_verify` on a dry run. -/
def judgeDryRun (policy : Policy) (row : Action) (obs : Observation) (now : Instant)
    (progress : Option (DeliverySample × DeliverySample)) : Judgment :=
  let age := seconds (now - ofStamp row.createdAt)
  if obs.generationKey = row.generationKey ∧
      obs.tcp.any (fun tcp => row.bytesSentAtAction < tcp.bytesSent) = true then
    ⟨some .selfRecovered, progress, false⟩
  else if obs.generationKey ≠ row.generationKey ∧ obs.ffmpegRunning = true ∧
      obs.ffmpegGeneration ≠ "" then
    ⟨some .generationChangedWithoutAction, progress, false⟩
  else if policy.verifyWindowSec < age then ⟨some .stillStalled, progress, false⟩
  else ⟨none, progress, false⟩

/-- The part of `_verify` that finds a result. -/
def judge (policy : Policy) (row : Action) (obs : Observation) (now : Instant)
    (previous : Option DeliverySample) (progress : Option (DeliverySample × DeliverySample)) :
    Judgment :=
  let current := progress.filter fun pair => pair.2.alike (deliverySample obs)
  if row.state = .rejected ∨ row.state = .effectFailed ∨ row.state = .cancelledBeforeSend then
    ⟨some .notExecuted, current, false⟩
  else if row.mode = .enforce then judgeEnforced config policy row obs now previous current
  else judgeDryRun policy row obs now current

/-- What `_verify` records of a result. -/
def verification (row : Action) (obs : Observation) (judgment : Judgment) (result : VerifyResult) :
    Verification where
  actionId := row.id
  result := result
  observedGenerationKey := obs.generationKey
  executionState := row.state
  sample := (judgment.progress.map (·.2)).getD (deliverySample obs)
  progressFrom := judgment.progress.map (·.1)
  executorInstanceId := obs.executorInstanceId
  observedAt := obs.observedAt
  uptimeSec := obs.ffmpegUptimeSec

/-- The part of `_verify` after the executor was asked. -/
def verifyRow (policy : Policy) (row : Action) (obs : Observation) (now : Instant) :
    Process Unit := do
  let known ← memory
  let judgment := judge config policy row obs now (known.recoverySamples row.id)
    (known.deliveryProgress row.id)
  remember fun memory =>
    { memory with
      deliveryProgress := Function.update memory.deliveryProgress row.id judgment.progress
      recoverySamples :=
        if judgment.sampled then
          Function.update memory.recoverySamples row.id (some (deliverySample obs))
        else memory.recoverySamples }
  match judgment.result with
  | none => return ()
  | some result =>
    transact fun store => (store.recordVerification now (verification row obs judgment result), ())
    remember fun memory =>
      { memory with
        recoverySamples := Function.update memory.recoverySamples row.id none
        deliveryProgress := Function.update memory.deliveryProgress row.id none }

/-- The executor's status proves that the effect of an unknown outcome was observed. -/
def observedStatus (row : Action) (obs : Observation) (status : Fields) : Except PyError Bool :=
  every [.ok ((field status "schema_version").isText
      "runtime.effect_request_status_response.v1"),
    .ok (field status "ok").isTrue, .ok ((field status "request_id").isText row.requestId),
    .ok ((status.get? "executor_instance_id").all (·.isText obs.executorInstanceId)),
    .ok ((field status "state").isText "EFFECT_OBSERVED"),
    .ok (field status "effect_boundary_reached").isTrue,
    .ok ((field status "physical_attempt_count").count? = some 1),
    match field status "effect_scope_state" with
    | .list _ | .dict _ | .foreign => .error (typeError "unhashable type")
    | state => .ok (state.isOneOf ["EFFECT_OBSERVED", "EFFECT_OBSERVED_AWAITING_VERIFICATION",
        "RECONCILED_EFFECT_OBSERVED"]),
    .ok (field status "effect_scope_id").isNonemptyText]

/-- `except (OSError, ValueError, TypeError)`. -/
def isExchangeError (error : PyError) : Bool :=
  error.kind = .os || error.kind = .value || error.kind = .type

/-- `self.status_reader(…)`, with no status if it fails. -/
def readStatus : Process Fields :=
  handle exchange fun error => if isExchangeError error then return [] else throw error

/-- The row, the observation and the time that `_verify` goes on with after it asked the
executor; none if the observation changed meanwhile. -/
def askExecutor (row : Action) (obs : Observation) :
    Process (Option (Action × Observation × Instant)) := do
  let status ← readStatus
  let readAt ← clock
  match ← readObservation config readAt with
  | .error _ => return none
  | .ok latest =>
    if !latest.transportIdentity.same obs.transportIdentity || latest.sequence < obs.sequence ||
        latest.observedAt < obs.observedAt then return none
    else
      let now ← clock
      if ← liftM (observedStatus row latest status) then
        let response : Response := { row.loaded with executorReconciliation := some status }
        let reconciledAt ← clock
        transact fun store => (store.reconcileObservedAction reconciledAt row.id response, ())
        return some ({ row with state := .effectObserved, response := some response }, latest, now)
      else return some (row, latest, now)

/-- The executor is asked about the row: its outcome is unknown, and the request was made to
the process that is observed. -/
def asks (row : Action) (obs : Observation) (queried : Bool) : Bool :=
  row.mode = .enforce && row.state = .outcomeUnknown && !queried &&
    row.loaded.request.any fun request =>
      request.executorInstanceId = obs.executorInstanceId && request.podUid = obs.podUid

/-- The loop of `_verify`. -/
def verifyRows (policy : Policy) : List Action → Bool → Observation → Instant → Process Unit
  | [], _, _, _ => return ()
  | row :: rest, queried, obs, now => do
    if asks row obs queried then
      match ← askExecutor config row obs with
      | none =>
        remember fun memory =>
          { memory with recoverySamples := Function.update memory.recoverySamples row.id none }
        verifyRows policy rest true obs now
      | some (row, obs, now) =>
        verifyRow config policy row obs now
        verifyRows policy rest true obs now
    else
      verifyRow config policy row obs now
      verifyRows policy rest queried obs now

/-- `_verify`. -/
def verifyActions (now : Instant) (policy : Policy) (obs : Observation) : Process Unit := do
  let rows ← query fun store => store.unverifiedActions
  verifyRows config policy rows false obs now

/-- `pending.get(scope.get("owner_request_id"))`. -/
def pendingAction (pending : List Action) (scope : Fields) : Except PyError (Option Nat) :=
  match field scope "owner_request_id" with
  | .list _ | .dict _ | .foreign => .error (typeError "unhashable type")
  | owner => .ok ((pending.reverse.find? fun row => owner.isText row.requestId).map (·.id))

/-- The entries of a scope that `build_reconciliation` needs. -/
def reconciliationFields (scope : Fields) : Except PyError Unit := do
  for key in ["effect_scope_id", "owner_request_id", "owner_request_digest", "identity"] do
    let _ ← (Value.dict scope).index key

/-- `sender(socket, build_reconciliation(…))`, with any exception as the response. -/
def exchangeReconciliation : Process Fields :=
  handle exchange fun error =>
    if isException error then return [("error", .str error.text)] else throw error

/-- The request that closes the fence of an action, and the record of its answer. -/
def closeFence (now : Instant) (actionId : Nat) (scope : Fields) : Process Unit := do
  let _ ← clock
  let _ ← liftM (reconciliationFields scope)
  let response ← exchangeReconciliation
  let done : Bool := (field response "ok").isTrue &&
    (field response "state").isText "RECONCILED_EFFECT_OBSERVED"
  transact fun store => (store.closeFence now actionId done, ())

/-- The loop of `_reconcile_executor` over the unresolved scopes. -/
def reconcileScopes (now : Instant) (endpoint : Option Endpoint) (pending : List Action) :
    List Fields → Process Unit
  | [] => return ()
  | scope :: rest => do
    match ← liftM (pendingAction pending scope) with
    | none => reconcileScopes now endpoint pending rest
    | some actionId =>
      if !(field scope "state").isText "EFFECT_OBSERVED_AWAITING_VERIFICATION" then
        reconcileScopes now endpoint pending rest
      else
        let network ← mayProbe endpoint.isSome
        if network.all fun network => network.networkDown || !network.ingestOk then
          audit now (.executorReconciliation actionId "DEFERRED_NETWORK")
        else
          closeFence now actionId scope
          reconcileScopes now endpoint pending rest

/-- `_reconcile_executor`. -/
def reconcileExecutor (now : Instant) (obs : Observation) : Process Unit := do
  if (← memory).lastReconcileAttempt.any fun last => seconds (now - last) < 30 then return ()
  else
    let pending ← query fun store =>
      store.resumedEnforceActions.filter fun row => !store.reconciled.contains row.id
    if pending = [] then return ()
    else
      remember fun memory => { memory with lastReconcileAttempt := some now }
      let scopes ← handle unresolvedScopes fun error =>
        if isExchangeError error then return [] else throw error
      reconcileScopes now (config.endpoint obs) pending scopes

/-- `_finish` with the policy and the stop file as they are now. -/
def finishStep (now : Instant) : Process Unit := do
  let policy ← readPolicy config
  let _ ← stopFileExists
  finish now policy

/-- The fences are looked at while a request is in flight. -/
def mayReconcile (now : Instant) (policy : Policy) (obs : Observation) : Process Unit :=
  if policy.mode = .enforce ∧ 0 < obs.inFlightCount then reconcileExecutor config now obs
  else return ()

/-- The end of `step`: verification on a fresh observation, and the records. -/
def conclude (policy : Policy) (decision : Decision) (found : Evidence) : Process Decision := do
  let now ← clock
  match ← readObservation config now with
  | .ok latest =>
    verifyActions config now policy latest
    mayReconcile config now policy latest
    recordDecision now decision policy (some found)
    finishStep config now
    return decision
  | .error why =>
    remember fun memory => { memory with tracker := .new, recoverySamples := fun _ => none }
    let final := if decision.outcome = .none then .none why [] else decision
    recordDecision now final policy (some found)
    finishStep config now
    return final

/-- The part of `step` on an observation. -/
def stepOn (now : Instant) (policy : Policy) (stop : Bool) (obs : Observation) :
    Process Decision := do
  let (_, streak) ← updateTracker config obs policy
  let endpoint := config.endpoint obs
  let duration := stallDuration (← memory).tracker obs.observedAt
  let pastGrace : Bool := policy.stallConfirmSamples ≤ streak && policy.stallGraceSec ≤ duration
  let network ← mayProbe (endpoint.isSome && pastGrace)
  let networkCheckedAt ← clock
  let history ← query fun store => store.history now obs.generationKey policy.actionMode
  let decided := decide now obs streak duration network history policy config.producerId
    config.producerGeneration stop
  let decision := if endpoint.isNone && obs.ffmpegRunning && obs.ffmpegGeneration ≠ "" then
      .none "TARGET_MISMATCH" ["INGEST_ENDPOINT_UNMAPPED"] else decided
  let found := evidence config obs streak network
  if decision.outcome = .none then conclude config policy decision found
  else
    let acted ← actOn config decision policy obs streak network networkCheckedAt
    conclude config policy acted found

/-- `step`. -/
def step : Process Decision := do
  let now ← clock
  let policy ← readPolicy config
  let stop ← stopFileExists
  match ← readObservation config now with
  | .error why =>
    remember fun memory => { memory with tracker := .new, recoverySamples := fun _ => none }
    recordDecision now (.none why []) policy none
    finish now policy
    return .none why []
  | .ok obs => stepOn config now policy stop obs

/-- `_close_interrupted_actions`. -/
def closeInterruptedActions : List Action → Process Unit
  | [] => return ()
  | row :: rest => do
    if row.state = .reserved then
      let now ← clock
      transact fun store => (store.completeAction now row.id .outcomeUnknown
        ⟨[("error", .str "AGENT_RESTARTED")], none, none⟩, ())
      closeInterruptedActions rest
    else closeInterruptedActions rest

/-- `Agent(config)`. -/
def initial : Process Unit := do
  let now ← clock
  remember fun _ => .new now
  closeInterruptedActions (← query fun store => store.unverifiedActions)

/-- One round of the loop of `run`: an exception in a step does not end it. -/
def round : Process (Unit ⊕ Unit) := do
  if ← cancelled then
    let now ← clock
    audit now .agentStop
    return .inr ()
  else
    handle (do let _ ← step config; return .inl ()) fun error =>
      if isException error then return .inl () else throw error

/-- `run(config)`: the life of one process. -/
def run : Process Unit := do
  initial
  let now ← clock
  audit now .agentStart
  loop (fun _ => round config) ()

end Methods

end LiveStream.Recovery

import LiveStream.Boundary.Tables

/-! The operations of `EffectLedger`. Each is one transaction: it returns the
ledger it leaves and what it returns or raises. -/

namespace LiveStream.Boundary

open LiveStream.Support

/-- The reasons of an `accept` reply. -/
inductive AcceptReason where
  | idempotencyConflict | idempotentReplay | producerNotActive | producerGenerationMismatch
  | effectScopeAlreadyClaimed | logicalGenerationPidInvariantBroken | targetEffectUnresolved
  | acceptedDurable
  deriving DecidableEq

def AcceptReason.text : AcceptReason → String
  | .idempotencyConflict => "IDEMPOTENCY_CONFLICT"
  | .idempotentReplay => "IDEMPOTENT_REPLAY"
  | .producerNotActive => "PRODUCER_NOT_ACTIVE"
  | .producerGenerationMismatch => "PRODUCER_GENERATION_MISMATCH"
  | .effectScopeAlreadyClaimed => "EFFECT_SCOPE_ALREADY_CLAIMED"
  | .logicalGenerationPidInvariantBroken => "LOGICAL_GENERATION_PID_INVARIANT_BROKEN"
  | .targetEffectUnresolved => "TARGET_EFFECT_UNRESOLVED"
  | .acceptedDurable => "ACCEPTED_DURABLE"

structure AcceptReply where
  accepted : Bool
  reason : AcceptReason
  state : EffectState
  replay : Bool
  result : Option Fields
  effectScopeId : Option ScopeId
  ownerRequestId : Option String

/-- The columns of an existing row that a replay answers from. -/
structure ExistingRequest where
  requestDigest : RequestDigest
  state : EffectState
  resultJson : Option Fields

/-- `WHERE request_id=? OR idempotency_key=?`, first on one index, then the other. -/
def EffectLedger.existingLegacy? (ledger : EffectLedger) (request : EffectRequest) :
    Option ExistingRequest :=
  ((ledger.effectRequests.find? fun row => row.requestId = request.requestId).or
    (ledger.effectRequests.find? fun row => row.idempotencyKey = request.idempotencyKey)).map
    fun row => ⟨row.requestDigest, row.state, row.resultJson⟩

def EffectLedger.existingTyped? (ledger : EffectLedger) (request : EffectRequest) :
    Option ExistingRequest :=
  ((ledger.typedEffectRequests.find? fun row => row.requestId = request.requestId).or
    (ledger.typedEffectRequests.find? fun row =>
      row.idempotencyKey = request.idempotencyKey)).map
    fun row => ⟨row.requestDigest, row.state, row.resultJson⟩

/-- The answer to a request whose id or idempotency key is already recorded. -/
def ExistingRequest.reply (existing : ExistingRequest) (digest : RequestDigest) : AcceptReply :=
  if existing.requestDigest ≠ digest then
    ⟨false, .idempotencyConflict, existing.state, true, none, none, none⟩
  else
    ⟨existing.state = .accepted, .idempotentReplay, existing.state, true, existing.resultJson,
      none, none⟩

/-- The answer to a request that `fence` keeps out. -/
def EffectScopeFence.claimedReply (fence : EffectScopeFence) (reason : AcceptReason) :
    AcceptReply :=
  ⟨false, reason, fence.state, true, fence.resultJson, some fence.effectScopeId,
    some fence.ownerRequestId⟩

/-- The fence that already holds the request's generation, or else its scope. -/
def EffectLedger.claimingFence? (ledger : EffectLedger) (request : EffectRequest)
    (effectScopeId : ScopeId) : Option EffectScopeFence :=
  (request.logicalGenerationScopeId.bind fun logicalId =>
      ledger.effectScopeFences.find? fun fence =>
        fence.logicalGenerationScopeId = some logicalId).or
    (ledger.scope effectScopeId)

/-- The request row that `accept` inserts. -/
def TypedEffectRequest.admitted (request : EffectRequest) (now : Nat) : TypedEffectRequest where
  requestId := request.requestId
  idempotencyKey := request.idempotencyKey
  requestDigest := request.digest
  producerId := request.producerId
  producerGeneration := request.producerGeneration
  operation := request.operation
  correlationId := request.correlationId
  identity := request.fenceIdentity
  requestJson := request.canonical
  state := .accepted
  resultJson := none
  acceptedAt := now
  executionStartedAt := none
  finishedAt := none

/-- The fence that `accept` inserts. -/
def EffectScopeFence.admitted (request : EffectRequest) (effectScopeId : ScopeId) (now : Nat) :
    EffectScopeFence where
  effectScopeId := effectScopeId
  logicalGenerationScopeId := request.logicalGenerationScopeId
  action := request.operation
  identity := request.fenceIdentity
  ownerRequestId := request.requestId
  ownerRequestDigest := request.digest
  state := .accepted
  effectBoundaryReached := false
  physicalAttemptCount := 0
  resultJson := none
  createdAt := now
  updatedAt := now

/-- The largest integer that SQLite stores. -/
def maxSqliteInteger : Int := 2 ^ 63 - 1

def sqliteOverflow : PyError := overflowError "Python int too large to convert to SQLite INTEGER"

/-- Whether a row with this scope, generation or owner is already there. -/
def EffectLedger.fenceConflict (ledger : EffectLedger) (effectScopeId : ScopeId)
    (logicalId : Option LogicalScopeId) (ownerRequestId : String) : Bool :=
  ledger.effectScopeFences.any fun fence =>
    fence.effectScopeId = effectScopeId || fence.ownerRequestId = ownerRequestId ||
      (logicalId.isSome && fence.logicalGenerationScopeId = logicalId)

/-- The bindings and constraints of the two inserts of `accept`. -/
def EffectLedger.checkAdmission (ledger : EffectLedger) (request : EffectRequest)
    (effectScopeId : ScopeId) : Except PyError Unit := do
  rejectIf (maxSqliteInteger < request.producerGeneration ∨
    maxSqliteInteger < request.projectionSequence) sqliteOverflow
  rejectIf (ledger.typedEffectRequests.any (fun row => row.requestId = request.requestId ||
      row.idempotencyKey = request.idempotencyKey) = true)
    (integrityError "UNIQUE constraint failed: typed_effect_requests")
  rejectIf (ledger.fenceConflict effectScopeId request.logicalGenerationScopeId
      request.requestId = true)
    (integrityError "UNIQUE constraint failed: effect_scope_fences")

/-- The ledger with a new request and its fence. -/
def EffectLedger.insertRequest (ledger : EffectLedger) (request : EffectRequest)
    (effectScopeId : ScopeId) (now : Nat) : EffectLedger :=
  { ledger with
    typedEffectRequests := ledger.typedEffectRequests ++ [.admitted request now]
    effectScopeFences := ledger.effectScopeFences ++ [.admitted request effectScopeId now]
    runtimeAuthority := ledger.runtimeAuthority.map fun authority =>
      { authority with
        projectionHighWater := max authority.projectionHighWater request.projectionSequence
        updatedAt := now } }

/-- The last part of `accept`, for a request that no row and no authority check stops. -/
def EffectLedger.claim (ledger : EffectLedger) (request : EffectRequest) (now : Nat) :
    EffectLedger × Except PyError AcceptReply :=
  match request.effectScopeId with
  | .error error => (ledger, .error error)
  | .ok effectScopeId =>
    match ledger.claimingFence? request effectScopeId with
    | some fence =>
      (ledger, .ok (fence.claimedReply
        (if fence.effectScopeId = effectScopeId then .effectScopeAlreadyClaimed
          else .logicalGenerationPidInvariantBroken)))
    | none =>
      match ledger.unresolvedScopes.head? with
      | some fence => (ledger, .ok (fence.claimedReply .targetEffectUnresolved))
      | none =>
        match ledger.checkAdmission request effectScopeId with
        | .error error => (ledger, .error error)
        | .ok () =>
          (ledger.insertRequest request effectScopeId now,
            .ok ⟨true, .acceptedDurable, .accepted, false, none, some effectScopeId, none⟩)

/-- `accept`. -/
def EffectLedger.accept (ledger : EffectLedger) (request : EffectRequest) (now : Nat) :
    EffectLedger × Except PyError AcceptReply :=
  match ledger.runtimeAuthority with
  | none => (ledger, .error (runtimeError "AUTHORITY_MISSING"))
  | some authority =>
    match (ledger.existingLegacy? request).or (ledger.existingTyped? request) with
    | some existing => (ledger, .ok (existing.reply request.digest))
    | none =>
      if authority.producerId ≠ request.producerId then
        (ledger, .ok ⟨false, .producerNotActive, .rejected, false, none, none, none⟩)
      else if authority.producerGeneration ≠ request.producerGeneration then
        (ledger, .ok ⟨false, .producerGenerationMismatch, .rejected, false, none, none, none⟩)
      else ledger.claim request now

/-- `SET state=?,result_json=?` and the time column of the new state. -/
def TypedEffectRequest.moved (row : TypedEffectRequest) (state : EffectState)
    (result : Option Fields) (now : Nat) : TypedEffectRequest :=
  if state = .executionStarted then
    { row with state, resultJson := result, executionStartedAt := some now }
  else { row with state, resultJson := result, finishedAt := some now }

def LegacyEffectRequest.moved (row : LegacyEffectRequest) (state : EffectState)
    (result : Option Fields) (now : Nat) : LegacyEffectRequest :=
  if state = .executionStarted then
    { row with state, resultJson := result, executionStartedAt := some now }
  else { row with state, resultJson := result, finishedAt := some now }

/-- `SET state=?,result_json=coalesce(?,result_json)`: the fence follows its request. -/
def EffectScopeFence.moved (fence : EffectScopeFence) (state : EffectState)
    (result : Option Fields) (now : Nat) : EffectScopeFence :=
  { fence with state, resultJson := result.or fence.resultJson, updatedAt := now }

/-- The arguments of `transition`. -/
structure Transition where
  requestId : String
  expected : EffectState
  state : EffectState
  result : Option Fields
  scopeState : Option EffectState

/-- `json.dumps(result) if result is not None else None`. -/
def encodeResult : Option Fields → Except PyError (Option Fields)
  | none => .ok none
  | some result => result.dumps.map some

/-- `transition`: the fence is found by its owner and moved whatever its state. -/
def EffectLedger.transition (ledger : EffectLedger) (arguments : Transition) (now : Nat) :
    EffectLedger × Except PyError Bool :=
  match encodeResult arguments.result with
  | .error error => (ledger, .error error)
  | .ok result =>
    let typedHit : TypedEffectRequest → Bool := fun row =>
      row.requestId = arguments.requestId && row.state = arguments.expected
    let legacyHit : LegacyEffectRequest → Bool := fun row =>
      row.requestId = arguments.requestId && row.state = arguments.expected
    let fences := updateWhere (fun fence => fence.ownerRequestId = arguments.requestId)
      (·.moved (arguments.scopeState.getD arguments.state) result now) ledger.effectScopeFences
    if ledger.typedEffectRequests.countP typedHit = 1 then
      ({ ledger with
          typedEffectRequests := updateWhere typedHit (·.moved arguments.state result now)
            ledger.typedEffectRequests
          effectScopeFences := fences }, .ok true)
    else if ledger.effectRequests.countP legacyHit = 1 then
      ({ ledger with
          effectRequests := updateWhere legacyHit (·.moved arguments.state result now)
            ledger.effectRequests
          effectScopeFences := fences }, .ok true)
    else (ledger, .ok false)

/-- Whether the sole physical attempt of the fence can still be reserved. -/
def EffectScopeFence.reservable (fence : EffectScopeFence) : Bool :=
  fence.state = .executionStarted && !fence.effectBoundaryReached &&
    fence.physicalAttemptCount = 0

def EffectScopeFence.reserved (fence : EffectScopeFence) (now : Nat) : EffectScopeFence :=
  { fence with
    state := .effectBoundaryReached
    effectBoundaryReached := true
    physicalAttemptCount := 1
    updatedAt := now }

/-- `mark_effect_boundary`. -/
def EffectLedger.markEffectBoundary (ledger : EffectLedger) (requestId : String) (now : Nat) :
    EffectLedger × Except PyError Bool :=
  let hit : EffectScopeFence → Bool := fun fence =>
    fence.ownerRequestId = requestId && fence.reservable
  ({ ledger with
      effectScopeFences := updateWhere hit (·.reserved now) ledger.effectScopeFences },
    .ok (ledger.effectScopeFences.countP hit = 1))

/-- `int(evidence.get(name, -1))`. -/
def evidenceCount (evidence : Fields) (name : String) : Except PyError Int :=
  ((evidence.get? name).getD (.int (-1))).toInt

/-- What both conclusions require: an open fence and the attempt count they claim. -/
def EffectScopeFence.checkConclusion (fence : EffectScopeFence) (evidence : Fields)
    (count : Int) (error : PyError) : Except PyError Unit := do
  rejectIf (fence.state.unresolved = false) (valueError "RECONCILIATION_SCOPE_ALREADY_RESOLVED")
  let claimed ← evidenceCount evidence "physical_effect_count"
  rejectIf (claimed ≠ count) error

/-- The arguments of `record_reconciliation`. -/
structure ReconciliationRequest where
  reconciliationId : String
  effectScopeId : ScopeId
  resolution : String
  evidence : Fields
  ownerRequestId : Option String
  ownerRequestDigest : Option RequestDigest

structure ReconciliationReply where
  replay : Bool
  reconciliationId : String
  effectScopeId : ScopeId
  resolution : String
  evidence : Fields

/-- The checks of `record_reconciliation` for a new reconciliation id. -/
def EffectLedger.checkReconciliation (ledger : EffectLedger) (arguments : ReconciliationRequest)
    (resolution : Resolution) : Except PyError Unit := do
  let scope ← orReject (valueError "effect scope is not present")
    (ledger.scope arguments.effectScopeId)
  rejectIf (arguments.ownerRequestId.any (· ≠ scope.ownerRequestId) = true)
    (valueError "RECONCILIATION_OWNER_REQUEST_MISMATCH")
  rejectIf (arguments.ownerRequestDigest.any (· ≠ scope.ownerRequestDigest) = true)
    (valueError "RECONCILIATION_OWNER_DIGEST_MISMATCH")
  match resolution with
  | .effectObserved =>
    scope.checkConclusion arguments.evidence 1
      (valueError "EFFECT_OBSERVED requires physical_effect_count=1 evidence")
  | .noEffectProven =>
    scope.checkConclusion arguments.evidence 0
      (valueError "NO_EFFECT_PROVEN requires physical_effect_count=0 evidence")
  | .remainsUnknown => .ok ()

/-- The fence after a reconciliation of its scope. -/
def EffectScopeFence.reconciled (fence : EffectScopeFence) (resolution : Resolution)
    (evidence : Fields) (now : Nat) : EffectScopeFence :=
  match resolution with
  | .effectObserved =>
    { fence with
      state := .reconciledEffectObserved
      effectBoundaryReached := true
      physicalAttemptCount := 1
      resultJson := some evidence
      updatedAt := now }
  | .noEffectProven =>
    { fence with
      state := .releasedNoEffect
      effectBoundaryReached := false
      physicalAttemptCount := 0
      resultJson := some evidence
      updatedAt := now }
  | .remainsUnknown => fence

/-- The answer to a reconciliation id that is already recorded. -/
def EffectReconciliation.reply (existing : EffectReconciliation)
    (arguments : ReconciliationRequest) (resolution : Resolution) :
    Except PyError ReconciliationReply := do
  rejectIf (existing.effectScopeId ≠ arguments.effectScopeId ∨
      existing.resolution ≠ resolution ∨ existing.evidence.sameJson arguments.evidence = false)
    (valueError "RECONCILIATION_ID_CONFLICT")
  return ⟨true, arguments.reconciliationId, arguments.effectScopeId, resolution.text,
    arguments.evidence⟩

/-- The part of `record_reconciliation` after its arguments are read and encoded. -/
def EffectLedger.conclude (ledger : EffectLedger) (arguments : ReconciliationRequest)
    (resolution : Resolution) (now : Nat) : EffectLedger × Except PyError ReconciliationReply :=
  match ledger.effectReconciliations.find? fun row =>
      row.reconciliationId = arguments.reconciliationId with
  | some existing => (ledger, existing.reply arguments resolution)
  | none =>
    match ledger.checkReconciliation arguments resolution with
    | .error error => (ledger, .error error)
    | .ok () =>
      ({ ledger with
          effectReconciliations := ledger.effectReconciliations ++
            [⟨arguments.reconciliationId, arguments.effectScopeId, resolution,
              arguments.evidence, now⟩]
          effectScopeFences :=
            updateWhere (fun fence => fence.effectScopeId = arguments.effectScopeId)
              (·.reconciled resolution arguments.evidence now) ledger.effectScopeFences },
        .ok ⟨false, arguments.reconciliationId, arguments.effectScopeId, resolution.text,
          arguments.evidence⟩)

/-- `record_reconciliation`. -/
def EffectLedger.recordReconciliation (ledger : EffectLedger)
    (arguments : ReconciliationRequest) (now : Nat) :
    EffectLedger × Except PyError ReconciliationReply :=
  match Resolution.ofText? arguments.resolution, arguments.evidence.dumps with
  | none, _ => (ledger, .error (valueError "unsupported effect reconciliation resolution"))
  | some _, .error error => (ledger, .error error)
  | some resolution, .ok _ => ledger.conclude arguments resolution now

/-- The arguments of `record_target_retirement`. -/
structure RetirementRequest where
  reconciliationId : String
  effectScopeId : ScopeId
  evidence : Fields
  ownerRequestId : String
  ownerRequestDigest : RequestDigest

/-- `evidence.get("physical_effect_outcome") == "EFFECT_OBSERVED"`. -/
def retiresObserved (evidence : Fields) : Bool :=
  match evidence.get? "physical_effect_outcome" with
  | some (.str text) => text = "EFFECT_OBSERVED"
  | _ => false

/-- The fence states from which a target can retire. -/
def EffectScopeFence.retirable (fence : EffectScopeFence) (evidence : Fields) : Bool :=
  if retiresObserved evidence then fence.state = .effectObservedAwaitingVerification
  else fence.state = .effectBoundaryReached || fence.state = .executionStarted ||
    fence.state = .outcomeUnknown

def EffectLedger.checkRetirement (ledger : EffectLedger) (arguments : RetirementRequest) :
    Except PyError Unit := do
  let scope ← orReject (valueError "effect scope is not present")
    (ledger.scope arguments.effectScopeId)
  rejectIf (scope.ownerRequestId ≠ arguments.ownerRequestId)
    (valueError "RECONCILIATION_OWNER_REQUEST_MISMATCH")
  rejectIf (scope.ownerRequestDigest ≠ arguments.ownerRequestDigest)
    (valueError "RECONCILIATION_OWNER_DIGEST_MISMATCH")
  rejectIf (scope.retirable arguments.evidence = false)
    (valueError "RECONCILIATION_SCOPE_ALREADY_RESOLVED")
  rejectIf (scope.physicalAttemptCount ≠ 1)
    (valueError "TARGET_RETIREMENT_REQUIRES_ONE_PHYSICAL_ATTEMPT")
  rejectIf (ledger.effectScopeRetirements.any
      (fun row => row.effectScopeId = arguments.effectScopeId) = true)
    (integrityError "UNIQUE constraint failed: effect_scope_retirements.effect_scope_id")

def EffectScopeFence.retired (fence : EffectScopeFence) (evidence : Fields) (now : Nat) :
    EffectScopeFence :=
  { fence with
    state := .retiredTargetOutcomeUnknown
    effectBoundaryReached := true
    physicalAttemptCount := 1
    resultJson := some evidence
    updatedAt := now }

def EffectScopeRetirement.reply (existing : EffectScopeRetirement)
    (arguments : RetirementRequest) : Except PyError ReconciliationReply := do
  rejectIf (existing.effectScopeId ≠ arguments.effectScopeId ∨
      existing.evidence.sameJson arguments.evidence = false)
    (valueError "RECONCILIATION_ID_CONFLICT")
  return ⟨true, arguments.reconciliationId, arguments.effectScopeId, "TARGET_RETIRED",
    arguments.evidence⟩

/-- The part of `record_target_retirement` after the evidence is encoded. -/
def EffectLedger.retire (ledger : EffectLedger) (arguments : RetirementRequest) (now : Nat) :
    EffectLedger × Except PyError ReconciliationReply :=
  match ledger.effectScopeRetirements.find? fun row =>
      row.reconciliationId = arguments.reconciliationId with
  | some existing => (ledger, existing.reply arguments)
  | none =>
    match ledger.checkRetirement arguments with
    | .error error => (ledger, .error error)
    | .ok () =>
      ({ ledger with
          effectScopeRetirements := ledger.effectScopeRetirements ++
            [⟨arguments.reconciliationId, arguments.effectScopeId, arguments.evidence, now⟩]
          effectScopeFences :=
            updateWhere (fun fence => fence.effectScopeId = arguments.effectScopeId)
              (·.retired arguments.evidence now) ledger.effectScopeFences },
        .ok ⟨false, arguments.reconciliationId, arguments.effectScopeId, "TARGET_RETIRED",
          arguments.evidence⟩)

/-- `record_target_retirement`. -/
def EffectLedger.recordTargetRetirement (ledger : EffectLedger) (arguments : RetirementRequest)
    (now : Nat) : EffectLedger × Except PyError ReconciliationReply :=
  match arguments.evidence.dumps with
  | .error error => (ledger, .error error)
  | .ok _ => ledger.retire arguments now

inductive HandoffReason where
  | expectedAuthorityMismatch | unresolvedExecutionExists | authoritySwitched
  deriving DecidableEq

structure HandoffDecision where
  accepted : Bool
  reason : HandoffReason
  producerId : String
  producerGeneration : Int
  authorityVersion : Nat
  deriving DecidableEq

def Authority.refuse (authority : Authority) (reason : HandoffReason) : HandoffDecision :=
  ⟨false, reason, authority.producerId, authority.producerGeneration, authority.authorityVersion⟩

/-- The arguments of `switch_authority`. -/
structure Handoff where
  expectedProducerId : String
  expectedGeneration : Int
  newProducerId : String
  newGeneration : Int
  deriving DecidableEq

/-- The update of `switch_authority`, with the constraint on the generation. -/
def EffectLedger.handOver (ledger : EffectLedger) (authority : Authority) (arguments : Handoff)
    (now : Nat) : EffectLedger × Except PyError HandoffDecision :=
  if maxSqliteInteger < arguments.newGeneration ∨
      arguments.newGeneration < -maxSqliteInteger - 1 then (ledger, .error sqliteOverflow)
  else if arguments.newGeneration ≤ 0 then
    (ledger, .error (integrityError "CHECK constraint failed: producer_generation > 0"))
  else
    ({ ledger with
        runtimeAuthority := some
          { authority with
            producerId := arguments.newProducerId
            producerGeneration := arguments.newGeneration
            authorityVersion := authority.authorityVersion + 1
            updatedAt := now } },
      .ok ⟨true, .authoritySwitched, arguments.newProducerId, arguments.newGeneration,
        authority.authorityVersion + 1⟩)

/-- `switch_authority`. -/
def EffectLedger.switchAuthority (ledger : EffectLedger) (arguments : Handoff) (now : Nat) :
    EffectLedger × Except PyError HandoffDecision :=
  match ledger.runtimeAuthority with
  | none => (ledger, .error (runtimeError "AUTHORITY_MISSING"))
  | some authority =>
    if authority.producerId ≠ arguments.expectedProducerId ∨
        authority.producerGeneration ≠ arguments.expectedGeneration then
      (ledger, .ok (authority.refuse .expectedAuthorityMismatch))
    else if ledger.unresolvedCount ≠ 0 then
      (ledger, .ok (authority.refuse .unresolvedExecutionExists))
    else ledger.handOver authority arguments now

end LiveStream.Boundary

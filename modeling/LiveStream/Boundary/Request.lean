import LiveStream.Boundary.Identity

/-! `EffectRequest` of `runtime_boundary/model.py`: parsing, the canonical form
and the fence identities. A SHA-256 identifier is kept as the canonical content
it is computed from, so distinct contents have distinct identifiers. -/

namespace LiveStream.Boundary

open LiveStream.Support

/-- A request mapping as `from_mapping` reads it: every text is
`str(value.get(name) or "")`. The fields of all three schema versions. -/
structure RequestFields where
  schemaVersion : String
  operation : String
  requestId : String
  producerId : String
  producerGeneration : IntReading
  intentType : String
  reason : String
  failureDomain : String
  issuedAt : TimestampText
  expiresAt : TimestampText
  targetIdentity : MappingField TargetFields
  ffmpegTargetIdentity : MappingField TargetFields
  runtimeIdentity : MappingField RuntimeIdentity
  expectedFfmpegGeneration : String
  idempotencyKey : String
  correlationId : String
  targetSnapshotId : String
  runtimeSnapshotId : String
  runtimeObservationId : String
  expectedExecutorInstanceId : String
  maintenanceEvidenceStatus : String
  projectionId : String
  projectionSequence : IntReading
  routeTransition : MappingField RouteFields
  deriving DecidableEq

structure EffectRequest where
  schemaVersion : SchemaVersion
  requestId : String
  producerId : String
  producerGeneration : Int
  intentType : Intent
  reason : String
  failureDomain : String
  issuedAt : TimestampText
  expiresAt : TimestampText
  ffmpegTargetIdentity : Option TargetIdentity
  runtimeIdentity : Option RuntimeIdentity
  expectedFfmpegGeneration : String
  idempotencyKey : String
  correlationId : String
  targetSnapshotId : String
  runtimeSnapshotId : String
  runtimeObservationId : String
  expectedExecutorInstanceId : String
  maintenanceEvidenceStatus : EvidenceStatus
  projectionId : String
  projectionSequence : Int
  routeTransition : Option RouteTransition
  deriving DecidableEq

/-- `_required_text`. -/
def requiredText (text : String) : Except PyError String :=
  if strip text = "" then .error (protocolError "REQUIRED_IDENTITY_MISSING") else .ok (strip text)

/-- `MAX_EFFECT_REQUEST_LIFETIME_SECONDS`, in microseconds. -/
def maxEffectRequestLifetime : Int := 5000000

def reasonInvalid (reason : String) : Bool :=
  reason = "" || 512 < reason.length || reason.toList.contains (Char.ofNat 10) ||
    reason.toList.contains (Char.ofNat 13)

/-- The fields that `_common` checks and returns. -/
structure CommonFields where
  requestId : String
  producerId : String
  producerGeneration : Int
  reason : String
  issuedAt : TimestampText
  expiresAt : TimestampText
  idempotencyKey : String
  correlationId : String
  expectedExecutorInstanceId : String
  maintenanceEvidenceStatus : EvidenceStatus
  projectionId : String
  projectionSequence : Int

/-- `EffectRequest._common`. -/
def commonFields (value : RequestFields) : Except PyError CommonFields := do
  let issued ← parseUtc value.issuedAt
  let expires ← parseUtc value.expiresAt
  rejectIf (expires ≤ issued) (protocolError "EXPIRY_NOT_AFTER_ISSUE")
  rejectIf (maxEffectRequestLifetime < expires - issued) (protocolError "REQUEST_LIFETIME_TOO_LONG")
  let producerGeneration ← value.producerGeneration.read "GENERATION_INVALID"
  let projectionSequence ← value.projectionSequence.read "GENERATION_INVALID"
  rejectIf (producerGeneration ≤ 0 ∨ projectionSequence < 0) (protocolError "GENERATION_INVALID")
  rejectIf (reasonInvalid (strip value.reason) = true) (protocolError "REASON_INVALID")
  let maintenanceEvidenceStatus ← orReject (protocolError "MAINTENANCE_EVIDENCE_STATUS_INVALID")
    (EvidenceStatus.ofText? (strip value.maintenanceEvidenceStatus))
  rejectIf (maintenanceEvidenceStatus = .available ∧
      (strip value.projectionId = "" ∨ projectionSequence ≤ 0))
    (protocolError "MAINTENANCE_EVIDENCE_IDENTITY_MISSING")
  let requestId ← requiredText value.requestId
  let producerId ← requiredText value.producerId
  let idempotencyKey ← requiredText value.idempotencyKey
  let correlationId ← requiredText value.correlationId
  let expectedExecutorInstanceId ← requiredText value.expectedExecutorInstanceId
  return { requestId, producerId, producerGeneration, reason := strip value.reason,
           issuedAt := value.issuedAt, expiresAt := value.expiresAt, idempotencyKey,
           correlationId, expectedExecutorInstanceId, maintenanceEvidenceStatus,
           projectionId := strip value.projectionId, projectionSequence }

/-- `EffectRequest._from_v1`. -/
def fromV1 (value : RequestFields) : Except PyError EffectRequest := do
  rejectIf (value.operation ≠ "restart_ffmpeg") (protocolError "OPERATION_NOT_ALLOWED")
  let common ← commonFields value
  let generation ← requiredText value.expectedFfmpegGeneration
  let target ← validateTarget value.targetIdentity
  let targetSnapshotId ← requiredText value.targetSnapshotId
  let runtimeObservationId ← requiredText value.runtimeObservationId
  return { schemaVersion := .effectRequestV1
           requestId := common.requestId
           producerId := common.producerId
           producerGeneration := common.producerGeneration
           intentType := .restartFfmpeg
           reason := common.reason
           failureDomain := "FFMPEG_LOCAL"
           issuedAt := common.issuedAt
           expiresAt := common.expiresAt
           ffmpegTargetIdentity := some target
           runtimeIdentity := none
           expectedFfmpegGeneration := generation
           idempotencyKey := common.idempotencyKey
           correlationId := common.correlationId
           targetSnapshotId
           runtimeSnapshotId := ""
           runtimeObservationId
           expectedExecutorInstanceId := common.expectedExecutorInstanceId
           maintenanceEvidenceStatus := common.maintenanceEvidenceStatus
           projectionId := common.projectionId
           projectionSequence := common.projectionSequence
           routeTransition := none }

/-- The `route_transition` part of `_from_v2`. -/
def routeTransitionField (value : RequestFields) (intent : Intent) :
    Except PyError (Option RouteTransition) :=
  if intent = .switchStreamRoute then
    if value.schemaVersion ≠ SchemaVersion.typedEffectRequestV3.text then
      .error (protocolError "ROUTE_REQUIRES_PROTOCOL_V3")
    else (validateRouteTransition value.routeTransition).map some
  else if value.routeTransition = .none then .ok none
  else .error (protocolError "ROUTE_FIELDS_FORBIDDEN")

/-- The identities a typed request carries, by intent. -/
structure TypedIdentity where
  ffmpegTarget : Option TargetIdentity
  runtimeIdentity : Option RuntimeIdentity

/-- The identity part of `_from_v2` for the delivery intents. -/
def deliveryIdentity (value : RequestFields) : Except PyError TypedIdentity := do
  let target ← validateTarget value.ffmpegTargetIdentity
  rejectIf (value.runtimeIdentity.isPresent = true)
    (protocolError "RESTART_RUNTIME_IDENTITY_FORBIDDEN")
  rejectIf (strip value.expectedFfmpegGeneration = "" ∨ strip value.targetSnapshotId = "" ∨
      strip value.runtimeObservationId = "")
    (protocolError "RESTART_IDENTITY_MISSING")
  return ⟨some target, none⟩

/-- The identity part of `_from_v2` for the runtime intents. -/
def runtimeIntentIdentity (value : RequestFields) (intent : Intent) :
    Except PyError TypedIdentity := do
  let identity ← validateRuntimeIdentity value.runtimeIdentity
  rejectIf (value.ffmpegTargetIdentity.isPresent = true)
    (protocolError "RUNTIME_INTENT_FFMPEG_TARGET_FORBIDDEN")
  rejectIf (strip value.expectedFfmpegGeneration ≠ "" ∨ strip value.runtimeSnapshotId = "")
    (protocolError "RUNTIME_INTENT_IDENTITY_INVALID")
  rejectIf (intent = .reconcileFfmpeg ∧ strip value.runtimeObservationId = "")
    (protocolError "RECONCILE_OBSERVATION_ID_MISSING")
  return ⟨none, some identity⟩

def typedIdentity (value : RequestFields) (intent : Intent) : Except PyError TypedIdentity :=
  if intent.isDelivery then deliveryIdentity value else runtimeIntentIdentity value intent

/-- `EffectRequest._from_v2`, for the v2 and v3 schemas. -/
def fromV2 (value : RequestFields) : Except PyError EffectRequest := do
  let common ← commonFields value
  let intent ← orReject (protocolError "INTENT_NOT_ALLOWED")
    (Intent.ofText? (strip value.intentType))
  rejectIf (value.schemaVersion = SchemaVersion.typedEffectRequestV3.text ∧
      intent ≠ .switchStreamRoute)
    (protocolError "V3_ROUTE_INTENT_REQUIRED")
  let routeTransition ← routeTransitionField value intent
  rejectIf (strip value.failureDomain = "") (protocolError "FAILURE_DOMAIN_MISSING")
  let identity ← typedIdentity value intent
  return { schemaVersion :=
             if routeTransition.isSome then .typedEffectRequestV3 else .typedEffectRequestV2
           requestId := common.requestId
           producerId := common.producerId
           producerGeneration := common.producerGeneration
           intentType := intent
           reason := common.reason
           failureDomain := strip value.failureDomain
           issuedAt := common.issuedAt
           expiresAt := common.expiresAt
           ffmpegTargetIdentity := identity.ffmpegTarget
           runtimeIdentity := identity.runtimeIdentity
           expectedFfmpegGeneration := strip value.expectedFfmpegGeneration
           idempotencyKey := common.idempotencyKey
           correlationId := common.correlationId
           targetSnapshotId := strip value.targetSnapshotId
           runtimeSnapshotId := strip value.runtimeSnapshotId
           runtimeObservationId := strip value.runtimeObservationId
           expectedExecutorInstanceId := common.expectedExecutorInstanceId
           maintenanceEvidenceStatus := common.maintenanceEvidenceStatus
           projectionId := common.projectionId
           projectionSequence := common.projectionSequence
           routeTransition }

/-- `EffectRequest.from_mapping`. -/
def EffectRequest.fromMapping (value : RequestFields) : Except PyError EffectRequest :=
  if value.schemaVersion = SchemaVersion.effectRequestV1.text then fromV1 value
  else if value.schemaVersion = SchemaVersion.typedEffectRequestV2.text ∨
      value.schemaVersion = SchemaVersion.typedEffectRequestV3.text then fromV2 value
  else .error (protocolError "SCHEMA_VERSION_UNSUPPORTED")

namespace EffectRequest

def operation (request : EffectRequest) : Operation :=
  match request.intentType with
  | .restartFfmpeg => .restartFfmpeg
  | .switchStreamRoute => .switchStreamRoute
  | .reconcileFfmpeg => .reconcileFfmpeg
  | .escalateRuntimeRecovery => .escalateRuntimeRecovery

/-- `canonical`: the mapping that `request_json` stores and the digest covers. -/
def canonical (request : EffectRequest) : RequestFields where
  schemaVersion :=
    if request.routeTransition.isSome then SchemaVersion.typedEffectRequestV3.text
    else SchemaVersion.typedEffectRequestV2.text
  operation := ""
  requestId := request.requestId
  producerId := request.producerId
  producerGeneration := .value request.producerGeneration
  intentType := request.intentType.text
  reason := request.reason
  failureDomain := request.failureDomain
  issuedAt := request.issuedAt
  expiresAt := request.expiresAt
  targetIdentity := .none
  ffmpegTargetIdentity :=
    match request.ffmpegTargetIdentity with
    | some target => .exact target.fields
    | none => .none
  runtimeIdentity :=
    match request.runtimeIdentity with
    | some identity => .exact identity
    | none => .none
  expectedFfmpegGeneration := request.expectedFfmpegGeneration
  idempotencyKey := request.idempotencyKey
  correlationId := request.correlationId
  targetSnapshotId := request.targetSnapshotId
  runtimeSnapshotId := request.runtimeSnapshotId
  runtimeObservationId := request.runtimeObservationId
  expectedExecutorInstanceId := request.expectedExecutorInstanceId
  maintenanceEvidenceStatus := request.maintenanceEvidenceStatus.text
  projectionId := request.projectionId
  projectionSequence := .value request.projectionSequence
  routeTransition :=
    match request.routeTransition with
    | some transition => .exact transition.fields
    | none => .none

end EffectRequest

/-- `digest`: SHA-256 of the canonical mapping. -/
abbrev RequestDigest := RequestFields

def EffectRequest.digest (request : EffectRequest) : RequestDigest := request.canonical

/-- `fence_identity`: the mapping that names what the effect acts on. -/
inductive FenceIdentity where
  | target (identity : TargetIdentity)
  | runtime (identity : RuntimeIdentity)
  | empty
  deriving DecidableEq

def EffectRequest.fenceIdentity (request : EffectRequest) : FenceIdentity :=
  if request.intentType.isDelivery then
    match request.ffmpegTargetIdentity with
    | some target => .target target
    | none => .empty
  else
    match request.runtimeIdentity with
    | some identity => .runtime identity
    | none => .empty

/-- `effect_scope_id`: a target fence is shared by both delivery intents. -/
inductive ScopeId where
  | exactTarget (target : TargetIdentity)
  | typed (intent : Intent) (identity : FenceIdentity)
  deriving DecidableEq

/-- `logical_generation_scope_id`: the target without its PID. -/
structure LogicalScopeId where
  hostId : String
  hostBootId : String
  podNamespace : String
  podUid : String
  containerName : String
  containerId : String
  ffmpegGeneration : String
  deriving DecidableEq

/-- The largest integer that RFC 8785 canonicalization accepts. -/
def maxCanonicalInteger : Int := 2 ^ 53 - 1

/-- `effect_scope.effect_scope_id("restart_ffmpeg", target)`. -/
def TargetIdentity.effectScopeId (target : TargetIdentity) : Except PyError ScopeId :=
  if maxCanonicalInteger < target.ffmpegPid then .error (valueError "IntegerDomainError")
  else .ok (.exactTarget target)

/-- `effect_scope.logical_generation_scope_id("restart_ffmpeg", target)`. -/
def TargetIdentity.logicalGenerationScopeId (target : TargetIdentity) : LogicalScopeId where
  hostId := target.hostId
  hostBootId := target.hostBootId
  podNamespace := target.podNamespace
  podUid := target.podUid
  containerName := target.containerName
  containerId := target.containerId
  ffmpegGeneration := target.ffmpegGeneration

def EffectRequest.effectScopeId (request : EffectRequest) : Except PyError ScopeId :=
  match request.intentType.isDelivery, request.ffmpegTargetIdentity with
  | true, some target => target.effectScopeId
  | _, _ => .ok (.typed request.intentType request.fenceIdentity)

def EffectRequest.logicalGenerationScopeId (request : EffectRequest) : Option LogicalScopeId :=
  match request.intentType.isDelivery, request.ffmpegTargetIdentity with
  | true, some target => some target.logicalGenerationScopeId
  | _, _ => none

end LiveStream.Boundary

import LiveStream.Support.Checks
import LiveStream.Support.Value

/-! The enumerations and exact identities of `runtime_boundary/model.py`, with
the validators that accept them. -/

namespace LiveStream.Boundary

open LiveStream.Support

/-- `ProtocolError` is a `ValueError` whose text is the reason. -/
def protocolError (reason : String) : PyError := valueError reason

inductive Intent where
  | restartFfmpeg | switchStreamRoute | reconcileFfmpeg | escalateRuntimeRecovery
  deriving DecidableEq

def Intent.text : Intent → String
  | .restartFfmpeg => "RESTART_FFMPEG"
  | .switchStreamRoute => "SWITCH_STREAM_ROUTE"
  | .reconcileFfmpeg => "RECONCILE_FFMPEG"
  | .escalateRuntimeRecovery => "ESCALATE_RUNTIME_RECOVERY"

/-- Membership of `ALL_EFFECT_INTENTS`. -/
def Intent.ofText? (text : String) : Option Intent :=
  [Intent.restartFfmpeg, .switchStreamRoute, .reconcileFfmpeg, .escalateRuntimeRecovery].find?
    fun intent => intent.text = text

@[simp] theorem Intent.ofText?_text (intent : Intent) : ofText? intent.text = some intent := by
  cases intent <;> decide

/-- `DELIVERY_TARGET_INTENTS`: the intents that act on one delivery child. -/
def Intent.isDelivery : Intent → Bool
  | .restartFfmpeg | .switchStreamRoute => true
  | .reconcileFfmpeg | .escalateRuntimeRecovery => false

inductive Operation where
  | restartFfmpeg | switchStreamRoute | reconcileFfmpeg | escalateRuntimeRecovery
  deriving DecidableEq

inductive SchemaVersion where
  | effectRequestV1 | typedEffectRequestV2 | typedEffectRequestV3
  deriving DecidableEq

def SchemaVersion.text : SchemaVersion → String
  | .effectRequestV1 => "runtime.effect_request.v1"
  | .typedEffectRequestV2 => "runtime.typed_effect_request.v2"
  | .typedEffectRequestV3 => "runtime.typed_effect_request.v3"

inductive EvidenceStatus where
  | available | unknown | stale | invalid
  deriving DecidableEq

def EvidenceStatus.text : EvidenceStatus → String
  | .available => "AVAILABLE"
  | .unknown => "UNKNOWN"
  | .stale => "STALE"
  | .invalid => "INVALID"

def EvidenceStatus.ofText? (text : String) : Option EvidenceStatus :=
  [EvidenceStatus.available, .unknown, .stale, .invalid].find? fun status => status.text = text

@[simp] theorem EvidenceStatus.ofText?_text (status : EvidenceStatus) :
    ofText? status.text = some status := by
  cases status <;> decide

/-- What `datetime.fromisoformat` makes of a text; instants are UTC microseconds. -/
inductive TimestampReading where
  | invalid | naive | instant (micros : Int)
  deriving DecidableEq

/-- A timestamp as it is stored, with the reading of its text. -/
structure TimestampText where
  text : String
  reading : TimestampReading
  deriving DecidableEq

def parseUtc (value : TimestampText) : Except PyError Int :=
  match value.reading with
  | .invalid => .error (protocolError "INVALID_TIMESTAMP")
  | .naive => .error (protocolError "TIMESTAMP_TZ_REQUIRED")
  | .instant micros => .ok micros

/-- What `int(value or 0)` makes of a field: an infinite number overflows. -/
inductive IntReading where
  | value (number : Int) | malformed | infinite
  deriving DecidableEq

/-- `int(...)` inside a `try` that turns `TypeError` and `ValueError` into `reason`. -/
def IntReading.read (reason : String) : IntReading → Except PyError Int
  | .value number => .ok number
  | .malformed => .error (protocolError reason)
  | .infinite => .error (overflowError "cannot convert float infinity to integer")

@[simp] theorem IntReading.read_value (reason : String) (number : Int) :
    (IntReading.value number).read reason = .ok number := rfl

/-- A field that should hold a mapping: missing, `""`, a mapping with exactly
the expected keys, or anything else. -/
inductive MappingField (α : Type) where
  | none | emptyText | inexact | exact (fields : α)
  deriving DecidableEq

/-- `value is not None and value != ""`. -/
def MappingField.isPresent {α : Type} : MappingField α → Bool
  | .none | .emptyText => false
  | .inexact | .exact _ => true

/-- `EXACT_TARGET_FIELDS`, as `validate_target` reads them. -/
structure TargetFields where
  hostId : String
  hostBootId : String
  podNamespace : String
  podUid : String
  containerName : String
  containerId : String
  ffmpegGeneration : String
  ffmpegPid : IntReading
  deriving DecidableEq

/-- An exact FFmpeg target, as `validate_target` returns it. -/
structure TargetIdentity where
  hostId : String
  hostBootId : String
  podNamespace : String
  podUid : String
  containerName : String
  containerId : String
  ffmpegGeneration : String
  ffmpegPid : Int
  deriving DecidableEq

/-- A text field of the target is kept as it stands, but may not be blank. -/
def targetText (field text : String) : Except PyError String :=
  if strip text = "" then .error (protocolError ("TARGET_" ++ field ++ "_MISSING")) else .ok text

def validateTarget : MappingField TargetFields → Except PyError TargetIdentity
  | .none | .emptyText | .inexact => .error (protocolError "TARGET_IDENTITY_NOT_EXACT")
  | .exact value => do
    let hostId ← targetText "HOST_ID" value.hostId
    let hostBootId ← targetText "HOST_BOOT_ID" value.hostBootId
    let podNamespace ← targetText "NAMESPACE" value.podNamespace
    let podUid ← targetText "POD_UID" value.podUid
    let containerName ← targetText "CONTAINER_NAME" value.containerName
    let containerId ← targetText "CONTAINER_ID" value.containerId
    let ffmpegGeneration ← targetText "FFMPEG_GENERATION" value.ffmpegGeneration
    let ffmpegPid ← value.ffmpegPid.read "TARGET_PID_INVALID"
    rejectIf (ffmpegPid ≤ 1) (protocolError "TARGET_PID_INVALID")
    rejectIf (containerName ≠ "stream-engine") (protocolError "TARGET_CONTAINER_NOT_STREAM_ENGINE")
    return { hostId, hostBootId, podNamespace, podUid, containerName, containerId,
             ffmpegGeneration, ffmpegPid }

/-- The conditions that `validate_target` establishes. -/
structure TargetIdentity.WellFormed (target : TargetIdentity) : Prop where
  hostId : strip target.hostId ≠ ""
  hostBootId : strip target.hostBootId ≠ ""
  podNamespace : strip target.podNamespace ≠ ""
  podUid : strip target.podUid ≠ ""
  containerName : target.containerName = "stream-engine"
  containerId : strip target.containerId ≠ ""
  ffmpegGeneration : strip target.ffmpegGeneration ≠ ""
  ffmpegPid : 1 < target.ffmpegPid

/-- A stored target read back from JSON. -/
def TargetIdentity.fields (target : TargetIdentity) : TargetFields where
  hostId := target.hostId
  hostBootId := target.hostBootId
  podNamespace := target.podNamespace
  podUid := target.podUid
  containerName := target.containerName
  containerId := target.containerId
  ffmpegGeneration := target.ffmpegGeneration
  ffmpegPid := .value target.ffmpegPid

theorem targetText_eq {field text : String} (present : strip text ≠ "") :
    targetText field text = .ok text := by
  simp [targetText, present]

/-- A well-formed target passes its own validation unchanged. -/
theorem validateTarget_fields {target : TargetIdentity} (formed : target.WellFormed) :
    validateTarget (.exact target.fields) = .ok target := by
  rcases target with ⟨_, _, _, _, name, _, _, _⟩
  obtain rfl : name = "stream-engine" := formed.containerName
  have container : strip "stream-engine" ≠ "" := by decide
  have pid := not_le.mpr formed.ffmpegPid
  simp [validateTarget, TargetIdentity.fields, targetText_eq, formed.hostId, formed.hostBootId,
    formed.podNamespace, formed.podUid, container, formed.containerId, formed.ffmpegGeneration,
    pid, rejectIf, pure, Except.pure]

/-- `EXACT_RUNTIME_FIELDS`, as `validate_runtime_identity` reads them and, once
stripped and checked, as it returns them. -/
structure RuntimeIdentity where
  hostId : String
  hostBootId : String
  podNamespace : String
  podUid : String
  streamEngineContainerName : String
  streamEngineContainerId : String
  runtimeGeneration : String
  deriving DecidableEq

def runtimeText (field text : String) : Except PyError String :=
  if strip text = "" then .error (protocolError ("RUNTIME_" ++ field ++ "_MISSING"))
  else .ok (strip text)

def isContainerdId (text : String) : Bool := "containerd://".toList.isPrefixOf text.toList

def validateRuntimeIdentity : MappingField RuntimeIdentity → Except PyError RuntimeIdentity
  | .none | .emptyText | .inexact => .error (protocolError "RUNTIME_IDENTITY_NOT_EXACT")
  | .exact value => do
    let hostId ← runtimeText "HOST_ID" value.hostId
    let hostBootId ← runtimeText "HOST_BOOT_ID" value.hostBootId
    let podNamespace ← runtimeText "NAMESPACE" value.podNamespace
    let podUid ← runtimeText "POD_UID" value.podUid
    let streamEngineContainerName ←
      runtimeText "STREAM_ENGINE_CONTAINER_NAME" value.streamEngineContainerName
    let streamEngineContainerId ←
      runtimeText "STREAM_ENGINE_CONTAINER_ID" value.streamEngineContainerId
    let runtimeGeneration ← runtimeText "RUNTIME_GENERATION" value.runtimeGeneration
    rejectIf (streamEngineContainerName ≠ "stream-engine")
      (protocolError "RUNTIME_CONTAINER_NOT_STREAM_ENGINE")
    rejectIf (isContainerdId streamEngineContainerId = false)
      (protocolError "RUNTIME_CONTAINER_ID_INVALID")
    return { hostId, hostBootId, podNamespace, podUid, streamEngineContainerName,
             streamEngineContainerId, runtimeGeneration }

/-- A text that was stripped and found not to be empty. -/
structure Stripped (text : String) : Prop where
  stripped : strip text = text
  nonempty : text ≠ ""

structure RuntimeIdentity.WellFormed (identity : RuntimeIdentity) : Prop where
  hostId : Stripped identity.hostId
  hostBootId : Stripped identity.hostBootId
  podNamespace : Stripped identity.podNamespace
  podUid : Stripped identity.podUid
  containerName : identity.streamEngineContainerName = "stream-engine"
  containerId : Stripped identity.streamEngineContainerId
  containerd : isContainerdId identity.streamEngineContainerId = true
  runtimeGeneration : Stripped identity.runtimeGeneration

theorem runtimeText_eq {field text : String} (formed : Stripped text) :
    runtimeText field text = .ok text := by
  simp [runtimeText, formed.stripped, formed.nonempty]

theorem validateRuntimeIdentity_self {identity : RuntimeIdentity} (formed : identity.WellFormed) :
    validateRuntimeIdentity (.exact identity) = .ok identity := by
  rcases identity with ⟨_, _, _, _, name, _, _⟩
  obtain rfl : name = "stream-engine" := formed.containerName
  have container : Stripped "stream-engine" := ⟨by decide, by decide⟩
  simp [validateRuntimeIdentity, runtimeText_eq, formed.hostId, formed.hostBootId,
    formed.podNamespace, formed.podUid, container, formed.containerId, formed.runtimeGeneration,
    formed.containerd, rejectIf, pure, Except.pure]

inductive Route where
  | primary | fallback
  deriving DecidableEq

def Route.text : Route → String
  | .primary => "PRIMARY"
  | .fallback => "FALLBACK"

/-- A route transition: the two routes differ and the rest is typed. -/
structure RouteTransition where
  fromRoute : Route
  expectedRouteGeneration : Int
  operatorGrantId : String
  deriving DecidableEq

def RouteTransition.toRoute (transition : RouteTransition) : Route :=
  match transition.fromRoute with
  | .primary => .fallback
  | .fallback => .primary

/-- The four route fields with their types checked: a text where the value is a
`str`, a number where its type is exactly `int`. -/
structure RouteFields where
  fromRoute : Option String
  toRoute : Option String
  expectedRouteGeneration : Option Int
  operatorGrantId : Option String
  deriving DecidableEq

def RouteTransition.fields (transition : RouteTransition) : RouteFields where
  fromRoute := some transition.fromRoute.text
  toRoute := some transition.toRoute.text
  expectedRouteGeneration := some transition.expectedRouteGeneration
  operatorGrantId := some transition.operatorGrantId

structure RouteTransition.WellFormed (transition : RouteTransition) : Prop where
  generation : 0 < transition.expectedRouteGeneration
  grant : 1 ≤ transition.operatorGrantId.length ∧ transition.operatorGrantId.length ≤ 128

/-- `{from_route, to_route} == {"PRIMARY", "FALLBACK"}`. -/
def routeEnds? (fromRoute toRoute : Option String) : Option Route :=
  if fromRoute = some "PRIMARY" ∧ toRoute = some "FALLBACK" then some .primary
  else if fromRoute = some "FALLBACK" ∧ toRoute = some "PRIMARY" then some .fallback
  else none

def validateRouteTransition : MappingField RouteFields → Except PyError RouteTransition
  | .none | .emptyText | .inexact => .error (protocolError "ROUTE_TRANSITION_NOT_EXACT")
  | .exact route => do
    let fromRoute ← orReject (protocolError "ROUTE_TRANSITION_INVALID")
      (routeEnds? route.fromRoute route.toRoute)
    let expectedRouteGeneration ← orReject (protocolError "ROUTE_GENERATION_INVALID")
      (route.expectedRouteGeneration.filter (0 < ·))
    let operatorGrantId ← orReject (protocolError "OPERATOR_GRANT_ID_INVALID")
      (route.operatorGrantId.filter fun grant => 1 ≤ grant.length ∧ grant.length ≤ 128)
    return { fromRoute, expectedRouteGeneration, operatorGrantId }

theorem validateRouteTransition_fields {transition : RouteTransition}
    (formed : transition.WellFormed) :
    validateRouteTransition (.exact transition.fields) = .ok transition := by
  have ends : routeEnds? transition.fields.fromRoute transition.fields.toRoute =
      some transition.fromRoute := by
    rcases transition with ⟨fromRoute, _, _⟩
    cases fromRoute <;> rfl
  simp only [validateRouteTransition, ends, orReject_some, ok_bind]
  simp [RouteTransition.fields, formed.generation, formed.grant, Option.filter, pure, Except.pure]

end LiveStream.Boundary

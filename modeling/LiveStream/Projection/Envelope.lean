import LiveStream.Support.Operators

/-! The envelope of a maintenance snapshot: how a projector publishes it under a sequence of its
own, and how a reader checks what stands in the projection file. -/

namespace LiveStream.Projection

open LiveStream.Support

/-- The reading of a text as a time in UTC: none, one that leaves the range of the calendar, or an
instant in microseconds. -/
inductive Stamp where
  | invalid
  | outOfRange
  | at (instant : Int)

/-- The texts and digests of the interpreter. A text of Python is a text here in which some
characters stand for the lone surrogates, which no encoder accepts. -/
structure Platform where
  surrogate : Char → Bool
  /-- `str` of a number with a point, of a list and of a mapping. -/
  repr : Value → String
  /-- `datetime.fromisoformat(text)`, a naive one taken as UTC. -/
  fromisoformat : String → Stamp
  nowText : Int → String
  /-- The digest of the canonical JSON. -/
  sha256 : Fields → String

def field (fields : Fields) (name : String) : Value := (fields.get? name).getD .none

/-- `text.replace("Z", "+00:00")`. -/
def zuluReplaced (text : String) : String :=
  String.ofList (text.toList.flatMap fun letter => if letter = 'Z' then "+00:00".toList else [letter])

/-- `value` if it is a mapping. -/
def mapping? : Value → Option Fields
  | .dict fields => some fields
  | .none | .bool _ | .int _ | .float _ | .str _ | .list _ | .foreign => none

/-- `int(value or 0)`. -/
def intOr0 (value : Value) : Except PyError Int := if value.truthy then value.toInt else .ok 0

namespace Platform

variable (platform : Platform)

/-- `str(value)`. -/
def str : Value → String
  | .none => "None"
  | .bool flag => if flag then "True" else "False"
  | .int number => toString number
  | .str text => text
  | value@(.float _) | value@(.list _) | value@(.dict _) | value@.foreign => platform.repr value

/-- `str(value or other)`. -/
def textOr (other : String) (value : Value) : String :=
  if value.truthy then platform.str value else other

/-- `_utc`. -/
def utc (value : Value) : Except PyError (Option Int) :=
  match platform.fromisoformat (zuluReplaced (platform.str value)) with
  | .invalid => .ok none
  | .outOfRange => .error (overflowError "date value out of range")
  | .at instant => .ok (some instant)

def encodesText (text : String) : Bool := text.toList.all fun letter => !platform.surrogate letter

mutual

/-- Whether the JSON text of the value can be written. -/
def encodes : Value → Bool
  | .str text => platform.encodesText text
  | .list items => encodesItems items
  | .dict fields => encodesFields fields
  | .none | .bool _ | .int _ | .float _ | .foreign => true

def encodesItems : List Value → Bool
  | [] => true
  | item :: rest => encodes item && encodesItems rest

def encodesFields : List (String × Value) → Bool
  | [] => true
  | (name, value) :: rest => platform.encodesText name && encodes value && encodesFields rest

end

def encodeError : PyError := valueError "surrogates not allowed"

/-- `canonical_sha256`. -/
def canonicalSha256 (fields : Fields) : Except PyError String :=
  if platform.encodesFields fields then .ok (platform.sha256 fields) else .error encodeError

end Platform

/-- What `json.loads` finds in a file: nothing that is an object, a document that is nested beyond
the limit of the interpreter, or an object. -/
inductive Content where
  | missing
  | tooDeep
  | object (fields : Fields)

/-- `_read_object`. -/
def Content.read : Content → Except PyError (Option Fields)
  | .missing => .ok none
  | .tooDeep => .error (runtimeError "maximum recursion depth exceeded")
  | .object fields => .ok (some fields)

/-! ### The projector -/

/-- A `ProjectionProjector`; its time to live in microseconds, at least a tenth of a second. -/
structure Projector where
  producerId : String
  producerInstanceId : String
  expectedSourceProducerId : String
  ttl : Int
  alive : 100000 ≤ ttl

section Publish

variable (platform : Platform) (projector : Projector)

/-- The checks of `publish` before a sequence is reserved: the snapshot, and how long it is fresh. -/
def Projector.admitted (current : Int) (source : Content) : Except PyError (Fields × Int) := do
  let snapshot ← orReject (valueError "SOURCE_SNAPSHOT_MISSING_OR_CORRUPT") (← source.read)
  rejectIf (platform.textOr "" (field snapshot "schema_version") ≠
    "maintenance.audit_state_snapshot.v2") (valueError "SOURCE_SCHEMA_UNSUPPORTED")
  rejectIf (platform.textOr "" (field snapshot "producer_id") ≠ projector.expectedSourceProducerId)
    (valueError "SOURCE_PRODUCER_MISMATCH")
  rejectIf (!(field snapshot "production_behavior_modified").isFalse)
    (valueError "SOURCE_AUDIT_ONLY_BOUNDARY_VIOLATION")
  rejectIf ((← intOr0 (field snapshot "physical_effect_count")) ≠ 0)
    (valueError "SOURCE_AUDIT_ONLY_BOUNDARY_VIOLATION")
  let observed ← platform.utc (field snapshot "observed_at")
  let freshUntil ← platform.utc (field snapshot "fresh_until")
  let observed ← orReject (valueError "SOURCE_SNAPSHOT_STALE_OR_FUTURE") observed
  let freshUntil ← orReject (valueError "SOURCE_SNAPSHOT_STALE_OR_FUTURE") freshUntil
  rejectIf (current < observed ∨ freshUntil ≤ current) (valueError "SOURCE_SNAPSHOT_STALE_OR_FUTURE")
  return (snapshot, freshUntil)

/-- The envelope of a snapshot. -/
def Projector.envelope (current : Int) (projectionId : String) (sequence : Int) (snapshot : Fields)
    (sourceFreshUntil : Int) : Except PyError Fields := do
  let generation ← intOr0 (field snapshot "maintenance_generation")
  let digest ← platform.canonicalSha256 snapshot
  return [
    ("schema_version", .str "maintenance.snapshot_projection.v1"),
    ("projection_id", .str ("maintenance-projection-" ++ projectionId)),
    ("projection_sequence", .int sequence),
    ("producer_id", .str projector.producerId),
    ("producer_instance_id", .str projector.producerInstanceId),
    ("published_at", .str (platform.nowText current)),
    ("fresh_until", .str (platform.nowText (min sourceFreshUntil (current + projector.ttl)))),
    ("source_snapshot_id", .str (platform.textOr "" (field snapshot "snapshot_id"))),
    ("source_producer_id", .str (platform.textOr "" (field snapshot "producer_id"))),
    ("source_producer_instance_id",
      .str (platform.textOr "" (field snapshot "producer_instance_id"))),
    ("source_observed_at", .str (platform.textOr "" (field snapshot "observed_at"))),
    ("source_fresh_until", .str (platform.textOr "" (field snapshot "fresh_until"))),
    ("maintenance_generation", .int generation),
    ("target_snapshot_id", .str (platform.textOr "" (field snapshot "target_snapshot_id"))),
    ("target_snapshot_status",
      .str (platform.textOr "MISSING" (field snapshot "target_snapshot_status"))),
    ("payload", .dict snapshot),
    ("payload_sha256", .str digest),
    ("production_behavior_modified", .bool false),
    ("physical_effect_count", .int 0)]

/-- `_next_sequence`: the record of a reservation can be written. -/
def Projector.reserves : Bool :=
  platform.encodesText projector.producerId && platform.encodesText projector.producerInstanceId

end Publish

/-! ### The reader -/

structure Reader where
  expectedProducerId : String
  expectedSourceProducerId : String

/-- The arguments of a `read`. -/
structure Request where
  current : Int
  expectedTargetIdentity : Option Fields := none
  expectedMaintenanceGeneration : Option Int := none

structure Decision where
  available : Bool
  reasonCode : String
  snapshot : Option Fields
  projectionId : String := ""
  projectionSequence : Int := 0

/-- The record of the high water. -/
structure HighWater where
  producerId : String
  producerInstanceId : String
  projectionSequence : Int
  maintenanceGeneration : Int
  projectionId : String

/-- How the checks of `read` end early. -/
inductive Exit where
  | rejects (reason : String)
  | raises (error : PyError)

/-- An exception that no handler catches. -/
def uncaught {α : Type} (outcome : Except PyError α) : Except Exit α := outcome.mapError .raises

/-- A check of `read`. -/
def require (condition : Prop) [Decidable condition] (reason : String) : Except Exit Unit :=
  rejectIf (¬ condition) (.rejects reason)

/-- `projection_sequence`, where what is no number counts as zero. -/
def sequenceOf (envelope : Fields) : Except PyError Int :=
  match intOr0 (field envelope "projection_sequence") with
  | .ok sequence => .ok sequence
  | .error error => if error.kind = .type ∨ error.kind = .value then .ok 0 else .error error

section Read

variable (platform : Platform) (reader : Reader) (request : Request) (envelope : Fields)

def projectionIdOf : String := platform.textOr "" (field envelope "projection_id")

def instanceOf : String := platform.textOr "" (field envelope "producer_instance_id")

/-- Schema and identities. -/
def checkHeader (sequence : Int) : Except Exit Unit := do
  require (platform.textOr "" (field envelope "schema_version") =
    "maintenance.snapshot_projection.v1") "PROJECTION_SCHEMA_UNSUPPORTED"
  require (projectionIdOf platform envelope ≠ "" ∧ 0 < sequence) "PROJECTION_IDENTITY_INVALID"
  require (platform.textOr "" (field envelope "producer_id") = reader.expectedProducerId)
    "PROJECTION_PRODUCER_MISMATCH"
  require (platform.textOr "" (field envelope "source_producer_id") = reader.expectedSourceProducerId)
    "SOURCE_PRODUCER_MISMATCH"

/-- The times of the projection. -/
def checkTimes : Except Exit Unit := do
  let publishedAt ← uncaught (platform.utc (field envelope "published_at"))
  let freshUntil ← uncaught (platform.utc (field envelope "fresh_until"))
  require ((publishedAt.any fun published => published ≤ request.current) ∧
    freshUntil.any fun until_ => request.current < until_) "PROJECTION_STALE_OR_FUTURE"

/-- The payload and its digest. -/
def checkPayload : Except Exit Fields := do
  let payload ← orReject (.rejects "PROJECTION_PAYLOAD_MISSING") (mapping? (field envelope "payload"))
  let digest ← uncaught (platform.canonicalSha256 payload)
  require (digest = platform.textOr "" (field envelope "payload_sha256"))
    "PROJECTION_INTEGRITY_FAILURE"
  require (platform.textOr "" (field payload "snapshot_id") =
    platform.textOr "" (field envelope "source_snapshot_id")) "SOURCE_SNAPSHOT_ID_MISMATCH"
  require (platform.textOr "" (field payload "producer_id") = reader.expectedSourceProducerId)
    "SOURCE_PAYLOAD_PRODUCER_MISMATCH"
  return payload

/-- The time of the source. -/
def checkSource (payload : Fields) : Except Exit Unit := do
  let freshUntil ← uncaught (platform.utc (field payload "fresh_until"))
  require (freshUntil.any fun until_ => request.current < until_) "SOURCE_SNAPSHOT_STALE"

/-- The generation, which payload and envelope agree on. -/
def checkGeneration (payload : Fields) : Except Exit Int := do
  let generation ← uncaught (intOr0 (field payload "maintenance_generation"))
  let stated ← uncaught (intOr0 (field envelope "maintenance_generation"))
  require (generation = stated) "MAINTENANCE_GENERATION_ENVELOPE_MISMATCH"
  require (∀ expected ∈ request.expectedMaintenanceGeneration, generation = expected)
    "MAINTENANCE_GENERATION_MISMATCH"
  return generation

/-- The target. -/
def checkTarget (payload : Fields) : Except Exit Unit := do
  require (platform.textOr "MISSING" (field payload "target_snapshot_status") = "VALID")
    "TARGET_SNAPSHOT_NOT_VALID"
  let target ← orReject (.rejects "TARGET_IDENTITY_MISSING")
    (mapping? (field payload "target_identity"))
  require (∀ expected ∈ request.expectedTargetIdentity,
    (Value.dict target).same (.dict expected) = true) "TARGET_IDENTITY_MISMATCH"

/-- The checks of `read` before the high water: the payload and its generation. -/
def Reader.check (sequence : Int) : Except Exit (Fields × Int) := do
  checkHeader platform reader envelope sequence
  checkTimes platform request envelope
  let payload ← checkPayload platform reader envelope
  checkSource platform request payload
  let generation ← checkGeneration request envelope payload
  checkTarget platform request payload
  return (payload, generation)

/-- `int(high_water.get(...) or 0)` and `str(high_water.get(...) or "")`, also where there is no
record yet. -/
def previousSequence (highWater : Option HighWater) : Int :=
  (highWater.map HighWater.projectionSequence).getD 0

def previousGeneration (highWater : Option HighWater) : Int :=
  (highWater.map HighWater.maintenanceGeneration).getD 0

def previousInstance (highWater : Option HighWater) : String :=
  (highWater.map HighWater.producerInstanceId).getD ""

/-- The comparison with the high water. -/
def checkHighWater (highWater : Option HighWater) (sequence generation : Int) :
    Except Exit Unit := do
  require (¬ (previousInstance highWater = instanceOf platform envelope ∧
    sequence < previousSequence highWater)) "PROJECTION_SEQUENCE_REGRESSION"
  require (previousGeneration highWater ≤ generation) "MAINTENANCE_GENERATION_REGRESSION"

/-- The new record. -/
def Reader.record (sequence generation : Int) : HighWater where
  producerId := reader.expectedProducerId
  producerInstanceId := instanceOf platform envelope
  projectionSequence := sequence
  maintenanceGeneration := generation
  projectionId := projectionIdOf platform envelope

/-- Whether the record can be written. -/
def HighWater.writes (record : HighWater) : Bool :=
  platform.encodesText record.producerId && platform.encodesText record.producerInstanceId &&
    platform.encodesText record.projectionId

/-- All checks of an object, and the record that is written when they pass. -/
def Reader.admits (highWater : Option HighWater) (sequence : Int) :
    Except Exit (Fields × HighWater) := do
  let (payload, generation) ← reader.check platform request envelope sequence
  checkHighWater platform envelope highWater sequence generation
  let record := reader.record platform envelope sequence generation
  uncaught (rejectIf (record.writes platform = false) Platform.encodeError)
  return (payload, record)

/-- `read`: the decision, and the record if a new one was written. -/
def Reader.read (highWater : Option HighWater) (content : Content) :
    Except PyError (Decision × Option HighWater) := do
  match ← content.read with
  | none => return (⟨false, "PROJECTION_MISSING_OR_CORRUPT", none, "", 0⟩, none)
  | some envelope =>
    let sequence ← sequenceOf envelope
    let projectionId := projectionIdOf platform envelope
    match reader.admits platform request envelope highWater sequence with
    | .error (.raises error) => throw error
    | .error (.rejects reason) => return (⟨false, reason, none, projectionId, sequence⟩, none)
    | .ok (payload, record) =>
      return (⟨true, "PROJECTION_VALID", some payload, projectionId, sequence⟩, some record)

end Read

end LiveStream.Projection

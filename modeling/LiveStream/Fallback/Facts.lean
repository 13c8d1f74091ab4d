import LiveStream.Fallback.Clock

/-! `copy_route_sample` and `observe`: from the answer of the facts producer to a
sample that the controller compares with the one before. -/

namespace LiveStream.Fallback

open LiveStream.Support

/-- `EXPECTED_HOST_ID`, `EXPECTED_MACHINE`, `EXPECTED_DESTINATION`, and the boot id of
this host. -/
structure Settings where
  expectedHostId : String
  expectedMachine : String
  expectedDestination : String
  localBoot : String

def MAX_SAMPLE_GAP : ℚ := 45

def MAX_FACT_AGE : ℚ := 20

/-- The identity tuple of a copy route: boot, relay pid, connection (`none` for one
that is no text), copy process and session, destination. -/
structure RouteIdentity where
  bootId : String
  relayPid : Nat
  connection : Option String
  copyId : String
  destination : String
  deriving DecidableEq

/-- The keys that only a sample of a copy route has, and has together. -/
structure RouteBinding where
  identity : RouteIdentity
  sourceMonotonic : ℚ
  copyUpdatedAt : String
  copyObservationNew : Bool
  copyObservationFresh : Bool
  deriving DecidableEq

/-- The `youtube` mapping of a sample; a counter is `none` where its key is missing. -/
structure Youtube where
  state : Option String
  error : Bool
  outbound : Option Int
  videoPackets : Option Int
  audioPackets : Option Int
  deriving DecidableEq

structure Sample where
  ready : Bool
  bytesReceived : Int
  receivedMonotonic : ℚ
  receivedBoottime : Option ℚ
  route : Option RouteBinding
  youtube : Option Youtube
  relayUnavailable : Bool
  copyUnavailable : Option String
  deriving DecidableEq

/-- `sample.get('received_boottime', sample['received_monotonic'])`. -/
def Sample.boottime (sample : Sample) : ℚ :=
  sample.receivedBoottime.getD sample.receivedMonotonic

/-- A sample of a process that is not running or stalled. -/
def Sample.stopped (received : ℚ) (relayUnavailable : Bool) (copyUnavailable : Option String) :
    Sample where
  ready := false
  bytesReceived := 0
  receivedMonotonic := received
  receivedBoottime := none
  route := none
  youtube := none
  relayUnavailable := relayUnavailable
  copyUnavailable := copyUnavailable

/-- `require(a and b and …, reason)`. -/
def require (checks : List (Except PyError Bool)) (reason : String) : Facts Unit :=
  requireAll checks (.observation reason)

/-- `datetime.fromisoformat`: no date, a date without a time zone, or a timestamp. -/
inductive IsoReading where
  | invalid | naive
  | aware (timestamp : ℚ)

/-- `check_timestamp`, with `clock.capture()` as it is read for the age bounds. -/
def checkTimestamp (fromisoformat : String → IsoReading) (value : Value) (name : String)
    (model : Estimate) (reading : ClockReading) : Facts Unit := do
  require [.ok (value.isTextWithin 40)] "timestamp_invalid"
  let text ← orReject (.python (typeError "")) value.text?
  match fromisoformat (text.replace "Z" "+00:00") with
  | .invalid => .error (.python (valueError "Invalid isoformat string"))
  | .naive => .error (.observation "timestamp_invalid")
  | .aware stamp =>
    let (_, high) ← model.ageBounds stamp (← capture reading)
    require [.ok (-EPSILON ≤ high)] (name ++ "_future")
    require [.ok (high ≤ MAX_FACT_AGE)] (name ++ "_stale")

/-- The branch of `copy_route_sample` for `relay_availability`. -/
def stoppedRelay (availability raw cp : Value) (received : ℚ) : Facts (Sample × String) := do
  require [.ok ((Value.dict [("schema", .str "stream_v3.relay_availability.v1"),
    ("state", .str "STOPPED"), ("reason", .str "unit_not_running")]).same availability)]
    "relay_availability_invalid"
  require [(raw.index "relay").map
      (Value.dict [("active", .bool false), ("pid", .int 0)]).same,
    (raw.path ["relay", "active"]).map (·.isFalse), (raw.path ["relay", "pid"]).map (·.isInt),
    .ok cp.isNone,
    (raw.index "input").map (Value.dict [("available", .bool false), ("ready", .bool false),
      ("online", .bool false), ("content_state", .str "OFFLINE"), ("connection_id", .none),
      ("bytes", .int 0)]).same,
    (raw.path ["input", "available"]).map (·.isFalse),
    (raw.path ["input", "ready"]).map (·.isFalse), (raw.path ["input", "online"]).map (·.isFalse),
    (raw.path ["input", "bytes"]).map (·.isInt),
    (raw.index "destinations").map (Value.dict []).same,
    (raw.index "boot_id").map (·.isNonemptyText)] "relay_availability_invalid"
  let _ ← requireNumber (← raw.index "monotonic_seconds") (0 ≤ ·)
    (.observation "relay_availability_invalid")
  return (.stopped received true none, "relay_unit_not_running")

/-- What stopped the copy process, by a `copy_availability` in one of two states. -/
def copyFault (destination : String) (availability raw cp state pid : Value) : Facts String := do
  if state.isText "STOPPED" then
    require [.ok pid.isInt, .ok ((Value.int 0).same pid), .ok cp.isNone,
      (availability.index "reason").map (·.isText "unit_not_running")] "copy_availability_invalid"
    return "copy_unit_not_running"
  else
    let age ← availability.index "unobserved_for_sec"
    require [.ok (state.isText "STALLED")] "copy_availability_invalid"
    let _ ← requireNumber age (20 < ·) (.observation "copy_availability_invalid")
    require [(availability.index "reason").map (·.isText "heartbeat_not_advancing"),
      .ok pid.isPositiveCount, .ok cp.isDict,
      (cp.index "schema").map (·.isText "stream_v3.youtube_forward.v1"),
      (cp.index "pid").map (·.isInt), (cp.index "pid").map (·.same pid),
      do return (← cp.index "boot_id").same (← raw.index "boot_id"),
      (cp.index "destination_fingerprint").map (·.isText destination),
      (cp.index "session").map (·.isPositiveCount),
      (availability.index "session").map (·.isInt),
      do return (← cp.index "session").same (← availability.index "session"),
      (cp.index "state").map (·.isOneOf ["FLOWING", "CONNECTING", "ERROR"]),
      (cp.index "output_bytes").map (·.count?.isSome),
      (cp.index "video_packets").map (·.count?.isSome),
      (cp.index "audio_packets").map (·.count?.isSome)] "copy_availability_invalid"
    return "copy_heartbeat_stalled"

/-- The branch of `copy_route_sample` for `copy_availability`. -/
def unavailableCopy (destination : String) (availability raw cp : Value) (received : ℚ) :
    Facts (Sample × String) := do
  require [(availability.index "schema").map (·.isText "stream_v3.copy_availability.v1"),
    (availability.index "destination_fingerprint").map (·.isText destination),
    (raw.path ["relay", "active"]).map (·.isTrue),
    (raw.path ["relay", "pid"]).map (·.isPositiveCount)] "copy_availability_invalid"
  let state ← availability.index "state"
  let pid ← availability.index "pid"
  let reason ← copyFault destination availability raw cp state pid
  require [(raw.index "boot_id").map (·.isNonemptyText)] "copy_availability_invalid"
  let _ ← requireNumber (← raw.index "monotonic_seconds") (0 ≤ ·)
    (.observation "copy_availability_invalid")
  return (.stopped received false (some reason), reason)

/-- The freshness that `copy_observation` proves, and whether it is a new one. -/
def copyFreshness (observation : Value) (sourceAge : ℚ) : Facts (Bool × Bool) := do
  if observation.isNone then return (false, false)
  let age ← observation.index "age_seconds"
  require [(observation.index "schema").map (·.isText "stream_v3.copy_observation.v1")]
    "copy_observation_invalid"
  let age ← requireNumber age (0 ≤ ·) (.observation "copy_observation_invalid")
  require [(observation.index "confirmed").map (·.isBool),
    (observation.index "new_observation").map (·.isBool)] "copy_observation_invalid"
  let confirmed ← observation.index "confirmed"
  let new ← observation.index "new_observation"
  let fresh : Bool := confirmed.isTrue && age + max 0 sourceAge ≤ MAX_FACT_AGE
  return (fresh, fresh && new.isTrue)

/-- `f"youtube-forward-(pid)-(session)"`. -/
def copyIdentity (pid session : Nat) : String :=
  "youtube-forward-" ++ toString pid ++ "-" ++ toString session

/-- The counter of a mapping, whose type was checked. -/
def readCount (value : Value) (reason : String) : Facts Nat :=
  orReject (.observation reason) value.count?

/-- The last branch of `copy_route_sample`: a copy route that was observed. -/
def observedRoute (destination : String) (observation raw cp : Value)
    (received boottime sourceAge : ℚ) : Facts (Sample × String) := do
  require [.ok cp.isDict] "copy_facts_missing"
  let (fresh, new) ← copyFreshness observation sourceAge
  require [.ok fresh] "copy_freshness_unavailable"
  require [(cp.index "updated_at").map (·.isTextWithin 40),
    (cp.index "last_progress_at").map (·.isTextWithin 40)] "facts_invalid"
  require [(cp.index "schema").map (·.isText "stream_v3.youtube_forward.v1"),
    do return (← cp.index "boot_id").same (← raw.index "boot_id"),
    (cp.index "destination_fingerprint").map (·.isText destination)] "copy_binding_mismatch"
  require [(cp.index "state").map (·.isOneOf ["FLOWING", "CONNECTING", "ERROR"])] "facts_invalid"
  require [(cp.index "pid").map (·.isPositiveCount),
    (cp.index "session").map (·.isPositiveCount)] "copy_identity_invalid"
  let incoming ← raw.index "input"
  let yt ← raw.path ["destinations", "youtube"]
  let pid ← readCount (← cp.index "pid") "copy_identity_invalid"
  let session ← readCount (← cp.index "session") "copy_identity_invalid"
  require [(yt.index "id").map (·.isText (copyIdentity pid session)),
    (yt.index "state").map (·.isOneOf ["forwarding", "unknown", "idle", "connecting"])]
    "copy_binding_mismatch"
  require [(raw.index "boot_id").map (·.isNonemptyText),
    (raw.path ["relay", "pid"]).map (·.isPositiveCount),
    (raw.path ["relay", "active"]).map (·.isBool)] "facts_invalid"
  require [(incoming.index "ready").map (·.isBool), (incoming.index "available").map (·.isBool)]
    "facts_invalid"
  let active ← raw.path ["relay", "active"]
  let inputReady ← incoming.index "ready"
  let available ← incoming.index "available"
  let ready := active.isTrue && inputReady.isTrue && available.isTrue
  let contentState ← incoming.getD "content_state" (.str "LIVE")
  let online ← incoming.getD "online" (.bool true)
  let live := contentState.isText "LIVE" && online.isTrue
  let connection ← incoming.index "connection_id"
  require [.ok (connection.isNonemptyText || !ready || !live)] "facts_invalid"
  let bytes ← incoming.index "bytes"
  let output ← cp.index "output_bytes"
  let video ← cp.index "video_packets"
  let audio ← cp.index "audio_packets"
  let bytes ← readCount bytes "facts_invalid"
  let output ← readCount output "facts_invalid"
  let video ← readCount video "facts_invalid"
  let audio ← readCount audio "facts_invalid"
  let monotonic ← requireNumber (← raw.index "monotonic_seconds") (0 ≤ ·)
    (.observation "facts_invalid")
  let bootId ← raw.index "boot_id"
  let relayPid ← readCount (← raw.path ["relay", "pid"]) "facts_invalid"
  let updatedAt ← cp.index "updated_at"
  let youtubeState ← yt.index "state"
  let copyState ← cp.index "state"
  return ({
    ready := ready && live
    bytesReceived := bytes
    receivedMonotonic := received
    receivedBoottime := some boottime
    route := some {
      identity := ⟨bootId.text?.getD "", relayPid, connection.text?, copyIdentity pid session,
        destination⟩
      sourceMonotonic := monotonic
      copyUpdatedAt := updatedAt.text?.getD ""
      copyObservationNew := new
      copyObservationFresh := fresh }
    youtube := some {
      state := youtubeState.text?
      error := !copyState.isText "FLOWING"
      outbound := some output
      videoPackets := some video
      audioPackets := some audio }
    relayUnavailable := false
    copyUnavailable := none }, "baseline_required")

/-- The `try` block of `copy_route_sample`, with the reason of the sample. -/
def readCopyRoute (settings : Settings) (value : Value) (received boottime sourceAge : ℚ) :
    Facts (Sample × String) := do
  let relayAvailability ← value.getD "relay_availability" .none
  let copyAvailability ← value.getD "copy_availability" .none
  require [.ok (0 ≤ sourceAge && sourceAge ≤ MAX_FACT_AGE)] "source_freshness_unavailable"
  let raw ← value.index "relay"
  let cp ← value.index "youtube_copy"
  require [(value.index "schema").map (·.isText "stream_v3.route_facts.v1"),
    (raw.index "schema").map (·.isText "stream.relay_raw.v1")] "schema_invalid"
  require [(raw.index "host_id").map (·.isText settings.expectedHostId),
    .ok (settings.expectedMachine.length = 64),
    (raw.index "machine_id_sha256").map (·.isText settings.expectedMachine),
    .ok (settings.expectedDestination.length = 64)] "host_binding_mismatch"
  require [(raw.index "observed_at").map (·.isTextWithin 64)] "facts_invalid"
  if relayAvailability.isNone = false then
    stoppedRelay relayAvailability raw cp received
  else if copyAvailability.isNone = false then
    unavailableCopy settings.expectedDestination copyAvailability raw cp received
  else
    let observation ← value.getD "copy_observation" .none
    observedRoute settings.expectedDestination observation raw cp received boottime sourceAge

/-- `copy_route_sample`: the sample, and the reason in the diagnostic. Of the other
exceptions it only meets those that its last clause ignores. -/
def copyRouteSample (settings : Settings) (value : Value) (received boottime sourceAge : ℚ) :
    Option Sample × String :=
  match readCopyRoute settings value received boottime sourceAge with
  | .ok (sample, reason) => (some sample, reason)
  | .error (.observation reason) => (none, reason)
  | .error (.clock _) => (none, "clock_unavailable")
  | .error (.python _) => (none, "facts_invalid")

/-- How `get_url` can fail, as the clauses of `observe` tell it apart. -/
inductive FetchError where
  | http | timeout
  | transport (timedOut : Bool)
  | other

/-- The reason that `observe` gives for a failed request. -/
def FetchError.reason : FetchError → String
  | .http => "facts_http_unavailable"
  | .timeout | .transport true => "facts_timeout"
  | .transport false => "facts_transport_error"
  | .other => "facts_invalid"

/-- What one call of `observe` reads on the facts path: the clocks, each where it is
read, the nonce and the answer of the producer. -/
structure FactsExchange where
  started : ClockReading
  nonce : String
  fetched : Except FetchError Value
  completed : ClockReading
  modelReading : ClockReading
  sourceReading : ClockReading
  copyReading : ClockReading
  progressReading : ClockReading
  received : ℚ
  boottime : ℚ

/-- One of the three labels that `observe` looks at, if its section is there. -/
def checkLabel (fromisoformat : String → IsoReading) (value : Value)
    (part field name : String) (model : Estimate) (reading : ClockReading) : Facts Unit := do
  let found ← value.getD part .none
  if found.isNone then return ()
  checkTimestamp fromisoformat (← value.path [part, field]) name model reading

/-- The UTC diagnostics of `observe`. -/
def utcDiagnostics (settings : Settings) (fromisoformat : String → IsoReading) (value : Value)
    (exchange : FactsExchange) (started completed : Instant) : Facts Unit := do
  let exchanged ← value.getD "clock" (.dict [])
  let bootId ← value.path ["relay", "boot_id"]
  let model ← estimate exchanged exchange.nonce started completed settings.expectedMachine
    (some bootId) settings.localBoot
  let _ ← model.diagnostic (← capture exchange.modelReading)
  checkLabel fromisoformat value "relay" "observed_at" "source" model exchange.sourceReading
  checkLabel fromisoformat value "youtube_copy" "updated_at" "copy" model exchange.copyReading
  checkLabel fromisoformat value "youtube_copy" "last_progress_at" "progress" model
    exchange.progressReading

/-- Whether one of the two `except` clauses after the UTC diagnostics takes the error. -/
def FactsError.swallowed : FactsError → Bool
  | .observation _ | .clock _ => true
  | .python error => error.kind = .key || error.kind = .value || error.kind = .type

/-- The part of `observe` after the UTC diagnostics. -/
def sampleOfFacts (settings : Settings) (value : Value) (exchange : FactsExchange)
    (started completed : Instant) : Option Sample × String :=
  let age : Facts ℚ := do
    let exchanged ← value.index "clock"
    let bootId ← value.path ["relay", "boot_id"]
    let sourceMono ← value.path ["relay", "observed_boottime_seconds"]
    monotonicSourceAge exchanged exchange.nonce started completed settings.expectedMachine bootId
      sourceMono MAX_FACT_AGE
  match age with
  | .ok age => copyRouteSample settings value exchange.received exchange.boottime age
  | .error (.clock _) => (none, "clock_unavailable")
  | .error (.observation _) | .error (.python _) => (none, "facts_invalid")

/-- `observe` with a facts URL: the sample, and the reason in the diagnostic. -/
def observe (settings : Settings) (fromisoformat : String → IsoReading)
    (exchange : FactsExchange) : Option Sample × String :=
  match capture exchange.started, capture exchange.completed, exchange.fetched with
  | .error _, _, _ | _, .error _, _ => (none, "clock_unavailable")
  | .ok _, .ok _, .error failure => (none, failure.reason)
  | .ok started, .ok completed, .ok value =>
    match utcDiagnostics settings fromisoformat value exchange started completed with
    | .ok () => sampleOfFacts settings value exchange started completed
    | .error error =>
      if error.swallowed then sampleOfFacts settings value exchange started completed
      else (none, "facts_invalid")

end LiveStream.Fallback

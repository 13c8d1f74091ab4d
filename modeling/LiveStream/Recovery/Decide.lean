import LiveStream.Recovery.Observation

/-! `StallTracker` and `decide`: when a stall is confirmed, and what speaks against a restart. -/

namespace LiveStream.Recovery

open LiveStream.Support

/-- The thresholds that a streak was counted under. -/
structure Criteria where
  lastsndMs : Nat
  notsentBytes : Nat
  unacked : Nat
  confirmSamples : Nat
  deriving DecidableEq

def Policy.criteria (policy : Policy) : Criteria where
  lastsndMs := policy.stallLastsndMs
  notsentBytes := policy.stallNotsentBytes
  unacked := policy.stallUnacked
  confirmSamples := policy.stallConfirmSamples

structure StallTracker where
  generationKey : String
  lastSequence : Int
  lastBytesSent : Int
  lastBytesAcked : Option Int
  streak : Nat
  stallStartedAt : Option Instant
  lastObservedAt : Option Instant
  identity : Option TransportIdentity
  criteria : Option Criteria

/-- `StallTracker()`, and what `reset` makes of a tracker. -/
def StallTracker.new : StallTracker where
  generationKey := ""
  lastSequence := 0
  lastBytesSent := -1
  lastBytesAcked := none
  streak := 0
  stallStartedAt := none
  lastObservedAt := none
  identity := none
  criteria := none

/-- `stall_sample`: nothing acknowledged while data is still queued. -/
def stallSample (tcp : TcpMetrics) (lastBytesSent : Int) (lastBytesAcked : Option Int)
    (policy : Policy) : Bool :=
  let pressure : Bool := policy.stallNotsentBytes ≤ tcp.notsent || policy.stallUnacked ≤ tcp.unacked
  match tcp.bytesAcked, lastBytesAcked with
  | some acked, some last => pressure && acked = last
  | some _, none | none, some _ | none, none =>
    pressure && 0 ≤ lastBytesSent && tcp.bytesSent = lastBytesSent &&
      policy.stallLastsndMs ≤ tcp.lastsndMs

namespace StallTracker

/-- A tracker that starts over with an observation. -/
def restart (tracker : StallTracker) (obs : Observation) (policy : Policy) : StallTracker :=
  { tracker with
    generationKey := obs.generationKey
    identity := some obs.transportIdentity
    criteria := some policy.criteria
    lastObservedAt := some obs.observedAt
    lastSequence := obs.sequence
    lastBytesSent := (obs.tcp.map (·.bytesSent)).getD (-1)
    lastBytesAcked := obs.tcp.bind (·.bytesAcked)
    streak := 0
    stallStartedAt := none }

/-- The seconds since the last observation; 0 without one. -/
def gap (tracker : StallTracker) (obs : Observation) : ℚ :=
  match tracker.lastObservedAt with
  | some last => seconds (obs.observedAt - last)
  | none => 0

/-- The observation does not continue the one before. -/
def breaks (tracker : StallTracker) (obs : Observation) (policy : Policy) (maxGapSec : ℚ) : Bool :=
  !(tracker.identity.any obs.transportIdentity.same) || obs.sequence < tracker.lastSequence ||
    tracker.gap obs < 0 || maxGapSec < tracker.gap obs || tracker.criteria ≠ some policy.criteria

/-- The stall test on a distinct sample. -/
def stalls (tracker : StallTracker) (obs : Observation) (policy : Policy) : Bool :=
  obs.tcp.any fun tcp => stallSample tcp tracker.lastBytesSent tracker.lastBytesAcked policy

/-- The bookkeeping of a distinct sample. -/
def count (tracker : StallTracker) (obs : Observation) (stalled : Bool) : StallTracker :=
  { tracker with
    stallStartedAt :=
      if stalled && tracker.streak = 0 then tracker.lastObservedAt
      else if !stalled then none else tracker.stallStartedAt
    lastSequence := obs.sequence
    lastObservedAt := some obs.observedAt
    lastBytesSent := (obs.tcp.map (·.bytesSent)).getD (-1)
    lastBytesAcked := obs.tcp.bind (·.bytesAcked)
    streak := if stalled then tracker.streak + 1 else 0 }

/-- `StallTracker.update`: the tracker after it, `stalled_now` and the streak. -/
def update (tracker : StallTracker) (obs : Observation) (policy : Policy) (maxGapSec : ℚ) :
    StallTracker × Bool × Nat :=
  if tracker.breaks obs policy maxGapSec then (tracker.restart obs policy, false, 0)
  else if obs.sequence = tracker.lastSequence then (tracker, 0 < tracker.streak, tracker.streak)
  else
    let stalled := tracker.stalls obs policy
    let after := tracker.count obs stalled
    (after, stalled, after.streak)

end StallTracker

/-- `stall_duration`. -/
def stallDuration (tracker : StallTracker) (now : Instant) : ℚ :=
  match tracker.stallStartedAt with
  | none => 0
  | some started => if tracker.streak = 0 then 0 else max 0 (seconds (now - started))

/-- Facts from the agent's own durable store. -/
structure History where
  generationAlreadyActed : Bool
  lastActionAt : Option Instant
  actionsLastHour : Nat
  actionsLastDay : Nat

inductive Outcome where
  | restart | wouldRestart | none
  deriving DecidableEq

structure Decision where
  outcome : Outcome
  reason : String
  blockers : List String
  deriving DecidableEq

def Outcome.text : Outcome → String
  | .restart => "RESTART"
  | .wouldRestart => "WOULD_RESTART"
  | .none => "NONE"

/-- `Decision.summary`. -/
def Decision.summary (decision : Decision) : String :=
  decision.outcome.text ++ ":" ++ decision.reason ++ ":" ++ String.intercalate "," decision.blockers

/-- `Decision(NONE, reason, blockers)`. -/
def Decision.none (reason : String) (blockers : List String) : Decision :=
  ⟨.none, reason, blockers⟩

/-- `if condition: blockers.append(name)`. -/
def blockedIf (condition : Bool) (name : String) : List String := if condition then [name] else []

/-- What the probe says against a restart. -/
def networkBlockers : Option Network → List String
  | .none => ["NETWORK_NOT_PROBED"]
  | some network =>
    if network.timedOut then ["NETWORK_PROBE_TIMEOUT"]
    else if network.networkDown then ["NETWORK_DOWN"]
    else if !network.ingestOk then ["INGEST_UNREACHABLE"]
    else []

/-- What the observation says against a restart. -/
def observationBlockers (obs : Observation) (policy : Policy) : List String :=
  blockedIf (!obs.ffmpegRunning || obs.ffmpegGeneration = "" || obs.podUid = "")
      "FFMPEG_NOT_RUNNING" ++
    blockedIf (!obs.targetValid) "TARGET_UNAVAILABLE" ++
    blockedIf (!((obs.get "runtime_lifecycle_state").isNone ||
      (obs.get "runtime_lifecycle_state").isText "FFMPEG_RUNNING")) "FFMPEG_NOT_IN_RUNNING_STATE" ++
    blockedIf (obs.ffmpegUptimeSec < policy.minFfmpegUptimeSec) "FFMPEG_TOO_YOUNG" ++
    blockedIf (obs.inFlightCount ≠ 0) "EXECUTOR_IN_FLIGHT"

/-- What the past actions say against a restart. -/
def historyBlockers (history : History) (policy : Policy) (now : Instant) : List String :=
  blockedIf history.generationAlreadyActed "GENERATION_ALREADY_ACTED" ++
    blockedIf (history.lastActionAt.any fun last => seconds (now - last) < policy.cooldownSec)
      "COOLDOWN" ++
    blockedIf (policy.maxPerHour ≤ history.actionsLastHour) "HOURLY_LIMIT" ++
    blockedIf (policy.maxPerDay ≤ history.actionsLastDay) "DAILY_LIMIT"

/-- The runtime context that an enforced restart needs. -/
def contextMissing (obs : Observation) : Bool :=
  obs.executorInstanceId = "" || !(obs.get "delivery_route").truthy ||
    !(obs.get "delivery_route_generation").isPositiveCount

/-- What the stop file and the mode say against a restart. -/
def authorityBlockers (obs : Observation) (policy : Policy) (producerId : String)
    (producerGeneration : Int) (stopFilePresent : Bool) : List String :=
  blockedIf stopFilePresent "LOCAL_STOP" ++ blockedIf (policy.mode = .off) "MODE_OFF" ++
    blockedIf (policy.mode = .enforce && (obs.activeProducerId ≠ producerId ||
      obs.activeProducerGeneration ≠ producerGeneration)) "NOT_EXECUTOR_AUTHORITY" ++
    blockedIf (policy.mode = .enforce && contextMissing obs) "RUNTIME_CONTEXT_UNAVAILABLE"

/-- Why a stall is not confirmed. -/
def unconfirmed (obs : Observation) (stallStreak : Nat) : Decision :=
  if !obs.ffmpegRunning || obs.ffmpegGeneration = "" || obs.podUid = "" then
    .none "FFMPEG_NOT_RUNNING" []
  else if !obs.targetValid then .none "TARGET_UNAVAILABLE" []
  else
    .none (if stallStreak ≠ 0 then "STALL_UNCONFIRMED"
      else if obs.tcp.isNone then "NO_TCP_METRICS" else "HEALTHY") []

/-- `decide`. -/
def decide (now : Instant) (obs : Observation) (stallStreak : Nat) (stallDurationSec : ℚ)
    (network : Option Network) (history : History) (policy : Policy) (producerId : String)
    (producerGeneration : Int) (stopFilePresent : Bool) : Decision :=
  if stallStreak < policy.stallConfirmSamples then unconfirmed obs stallStreak
  else if stallDurationSec < policy.stallGraceSec then
    .none "STALL_CONFIRMED" ["WITHIN_ENGINE_GRACE"]
  else
    let blockers := networkBlockers network ++ observationBlockers obs policy ++
      historyBlockers history policy now ++
      authorityBlockers obs policy producerId producerGeneration stopFilePresent
    if blockers ≠ [] then .none "STALL_CONFIRMED" blockers
    else ⟨if policy.mode = .enforce then .restart else .wouldRestart, "STALL_CONFIRMED", []⟩

end LiveStream.Recovery

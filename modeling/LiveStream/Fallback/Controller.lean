import LiveStream.Fallback.Facts
import LiveStream.Support.Streams

/-! `Controller` and `ProgressDeadline`, and the loop of `main` that polls them. A
sample is assessed against the one before, and two timers decide. -/

namespace LiveStream.Fallback

open LiveStream.Support

def START_AFTER : ℚ := 30

def STOP_AFTER : ℚ := 300

inductive Domain where
  | healthy | mediaFailure | clockFault | observationLost | initializing
  deriving DecidableEq

inductive Health where
  | unknown | unhealthy | healthy
  deriving DecidableEq

inductive Action where
  | start | stop
  deriving DecidableEq

/-- `domain_for_missing`. -/
def domainForMissing (reason : String) : Domain :=
  if reason = "baseline_required" then .initializing else .observationLost

/-- `Controller`. -/
structure Controller where
  unhealthySince : Option ℚ
  healthySince : Option ℚ
  last : Option Sample
  domain : Domain
  health : Health
  reason : String
  healthyResetsTotal : Nat
  lastResetAt : Option String
  lastResetReason : Option String
  routeProgress : Bool
  observationGap : Bool
  transportConflict : Bool
  deriving DecidableEq

def Controller.new : Controller where
  unhealthySince := none
  healthySince := none
  last := none
  domain := .initializing
  health := .unknown
  reason := "baseline_required"
  healthyResetsTotal := 0
  lastResetAt := none
  lastResetReason := none
  routeProgress := false
  observationGap := false
  transportConflict := false

/-- `sample.get('youtube') or {}`. -/
def Sample.yt (sample : Sample) : Youtube :=
  sample.youtube.getD ⟨none, false, none, none, none⟩

/-- `counter(value)` on an entry of a sample. -/
def isCounter (value : Option Int) : Bool := value.any (0 ≤ ·)

/-- `counter(yt.get(k)) and counter(before.get(k)) and yt[k] > before[k]`. -/
def advances (current before : Option Int) : Bool :=
  isCounter current && isCounter before && current.any fun new => before.any (· < new)

/-- The checks of `healthy` for a sample with an identity, in their order. -/
def routeBreak (sample prev : Sample) : Option String :=
  match sample.route, prev.route with
  | none, _ => none
  | some _, none => some "connection_changed"
  | some route, some before =>
    let sourceGap := route.sourceMonotonic - before.sourceMonotonic
    let receivedGap := sample.boottime - prev.boottime
    if route.identity ≠ before.identity then some "connection_changed"
    else if ¬(0 < sourceGap ∧ sourceGap ≤ MAX_SAMPLE_GAP) then some "sample_gap"
    else if ¬(0 < receivedGap ∧ receivedGap ≤ MAX_SAMPLE_GAP) then some "sample_gap"
    else if route.copyUpdatedAt = before.copyUpdatedAt ∧ route.copyObservationNew = false ∧
        ¬(route.copyObservationFresh = true ∧
          advances sample.yt.outbound prev.yt.outbound = true ∧
          advances sample.yt.videoPackets prev.yt.videoPackets = true ∧
          advances sample.yt.audioPackets prev.yt.audioPackets = true) then some "copy_stale"
    else none

/-- One round of the loop over the counters: a lost observation, or a check to make
unless the key may be missing and is. -/
def counterCheck (optional : Bool) (current before : Option Int) (reason : String) :
    Except String (List (Bool × String)) :=
  if optional && current.isNone && before.isNone then .ok []
  else if isCounter current = false ∨ isCounter before = false then .error "counter_invalid"
  else if current.any (fun new => before.any (new < ·)) then .error "counter_regressed"
  else .ok [(current.any fun new => before.any (· < new), reason)]

def counterChecks (yt before : Youtube) : Except String (List (Bool × String)) := do
  let output ← counterCheck false yt.outbound before.outbound "output_not_advancing"
  let video ← counterCheck true yt.videoPackets before.videoPackets "video_not_advancing"
  let audio ← counterCheck true yt.audioPackets before.audioPackets "audio_not_advancing"
  return output ++ video ++ audio

/-- What `healthy` makes of an observation. -/
structure Assessment where
  health : Health
  domain : Domain
  reason : String
  routeProgress : Bool
  deriving DecidableEq

def Assessment.lost (reason : String) : Assessment := ⟨.unknown, .observationLost, reason, false⟩

def Assessment.failed (reason : String) : Assessment := ⟨.unhealthy, .mediaFailure, reason, false⟩

/-- The first two of the `checks` of `healthy`. -/
def inputChecks (sample prev : Sample) : List (Bool × String) :=
  [(sample.ready, "input_not_ready"),
    (isCounter sample.bytesReceived && isCounter prev.bytesReceived &&
      decide (prev.bytesReceived < sample.bytesReceived), "input_not_advancing")]

/-- The end of `healthy`: the first check that fails decides. -/
def Sample.confirm (sample : Sample) (checks : List (Bool × String)) (resumed : Bool) :
    Assessment :=
  match checks.find? fun check => !check.1 with
  | some check => .failed check.2
  | none =>
    if sample.yt.state ≠ some "forwarding" ∨ sample.yt.error = true then
      .failed "output_not_forwarding"
    else if resumed then ⟨.unknown, .initializing, "observation_resumed", true⟩
    else ⟨.healthy, .healthy, "progress_confirmed", true⟩

/-- The comparison with the sample before; `resumed` after a missing observation. -/
def Sample.compare (sample prev : Sample) (resumed : Bool) : Assessment :=
  match routeBreak sample prev, counterChecks sample.yt prev.yt with
  | some reason, _ => .lost reason
  | none, .error reason => .lost reason
  | none, .ok counters => sample.confirm (inputChecks sample prev ++ counters) resumed

/-- The body of `healthy` without its updates. -/
def Controller.assess (controller : Controller) (sample : Option Sample)
    (observationReason : String) : Assessment :=
  match sample, controller.last with
  | none, _ => ⟨.unknown, domainForMissing observationReason, observationReason, false⟩
  | some sample, prev =>
    if sample.ready = false then
      .failed (sample.copyUnavailable.getD
        (if sample.relayUnavailable then "relay_unit_not_running" else "input_not_live"))
    else
      match prev with
      | none => ⟨.unknown, .initializing, "baseline_required", false⟩
      | some prev => sample.compare prev controller.observationGap

/-- `Controller.healthy`. -/
def Controller.healthy (controller : Controller) (sample : Option Sample)
    (observationReason : String) : Controller × Bool :=
  let assessment := controller.assess sample observationReason
  ({ controller with
      last := sample.or controller.last
      observationGap := sample.isNone
      transportConflict := false
      health := assessment.health
      domain := assessment.domain
      reason := assessment.reason
      routeProgress := assessment.routeProgress }, assessment.health = .healthy)

inductive WitnessStatus where
  | flowing | unknown | stopped
  deriving DecidableEq

/-- The verdict of the transport witness. -/
structure Witness where
  status : WitnessStatus
  reason : String

/-- The controller that `combine_transport` leaves. -/
def Controller.combined (controller : Controller) (witness : Witness) : Controller :=
  let conflict : Bool := witness.status = .stopped && controller.routeProgress
  if witness.status = .stopped ∧ controller.routeProgress = false then
    { controller with
      transportConflict := conflict
      health := .unhealthy, domain := .mediaFailure, reason := witness.reason
      routeProgress := false }
  else { controller with transportConflict := conflict }

/-- `Controller.combine_transport`. -/
def Controller.combineTransport (controller : Controller) (witness : Witness) :
    Controller × Bool :=
  (controller.combined witness, (controller.combined witness).health = .healthy)

/-- `ProgressDeadline`. -/
structure ProgressDeadline where
  started : Option ℚ
  lastRouteProgress : Option ℚ
  deriving DecidableEq

def ProgressDeadline.new : ProgressDeadline := ⟨none, none⟩

def AFTER : ℚ := 90

/-- `round(number, 3)`: to the nearest thousandth, ties to the even one. -/
def roundMillis (number : ℚ) : ℚ :=
  let scaled := number * 1000
  let below := ⌊scaled⌋
  let above : Bool := 1 / 2 < scaled - below || (scaled - below = 1 / 2 && below % 2 = 1)
  (if above then below + 1 else below) / 1000

/-- The answer of `ProgressDeadline.observe`. -/
structure Uncertainty where
  unconfirmedForSec : ℚ
  routeProgressConfirmed : Bool
  afterSec : ℚ
  expired : Bool
  deriving DecidableEq

/-- `ProgressDeadline.observe`. -/
def ProgressDeadline.observe (deadline : ProgressDeadline) (now : ℚ)
    (routeProgress inhibited : Bool) : ProgressDeadline × Uncertainty :=
  let renewed : ProgressDeadline :=
    if deadline.started.isNone || inhibited then ⟨some now, none⟩ else deadline
  let confirmed : ProgressDeadline :=
    if routeProgress && !inhibited then { renewed with lastRouteProgress := some now }
    else renewed
  let since := (confirmed.lastRouteProgress.or confirmed.started).getD now
  let age := max 0 (now - since)
  (confirmed, ⟨roundMillis age, routeProgress && !inhibited, AFTER, AFTER ≤ age⟩)

/-- The bookkeeping of a healthy window that ends. -/
def Controller.resetHealthy (controller : Controller) (utcNow : String) : Controller :=
  if controller.healthySince.isSome then
    { controller with
      healthyResetsTotal := controller.healthyResetsTotal + 1
      lastResetAt := some utcNow
      lastResetReason := some controller.reason }
  else controller

/-- `Controller.decide`; `utcNow` is the label of a reset. -/
def Controller.decide (controller : Controller) (now : ℚ) (healthy : Bool)
    (fallbackReplicas : Option Int) (inhibited : Bool) (uncertainty : Uncertainty)
    (utcNow : String) : Controller × Option Action :=
  if inhibited then ({ controller with healthySince := none, unhealthySince := none }, none)
  else if healthy = false ∧ controller.domain ≠ .mediaFailure then
    let reset : Controller :=
      { controller.resetHealthy utcNow with healthySince := none, unhealthySince := none }
    if uncertainty.expired then
      ({ reset with reason := "youtube_observation_timeout" },
        if fallbackReplicas = some 0 then some .start else none)
    else (reset, none)
  else
    let timed : Controller :=
      if healthy then
        { controller with
          unhealthySince := none
          healthySince := some (controller.healthySince.getD now) }
      else
        { controller.resetHealthy utcNow with
          healthySince := none
          unhealthySince := some (controller.unhealthySince.getD now) }
    (timed,
      match fallbackReplicas with
      | none => none
      | some replicas =>
        if replicas = 0 ∧ healthy = false ∧ timed.unhealthySince.any (START_AFTER ≤ now - ·) then
          some .start
        else if 1 ≤ replicas ∧ healthy = true ∧ timed.healthySince.any (STOP_AFTER ≤ now - ·) then
          some .stop
        else none)

/-- What one round of the loop reads. -/
structure Poll where
  sample : Option Sample
  observationReason : String
  witness : Witness
  now : ℚ
  replicas : Option Int
  inhibited : Bool
  utcNow : String

/-- What a round decides, and the assessment it is based on. -/
structure Outcome where
  domain : Domain
  healthy : Bool
  routeProgress : Bool
  uncertainty : Uncertainty
  action : Option Action

structure LoopState where
  controller : Controller
  deadline : ProgressDeadline

def LoopState.new : LoopState := ⟨.new, .new⟩

/-- The controller of one round after `combine_transport`. -/
def LoopState.observed (state : LoopState) (poll : Poll) : Controller × Bool :=
  (state.controller.healthy poll.sample poll.observationReason).1.combineTransport poll.witness

/-- One round of the loop of `main`. -/
def LoopState.poll (state : LoopState) (poll : Poll) : LoopState × Outcome :=
  let (controller, healthy) := state.observed poll
  let (deadline, uncertainty) :=
    state.deadline.observe poll.now controller.routeProgress poll.inhibited
  let (decided, action) := controller.decide poll.now healthy poll.replicas poll.inhibited
    uncertainty poll.utcNow
  (⟨decided, deadline⟩,
    ⟨controller.domain, healthy, controller.routeProgress, uncertainty, action⟩)

/-- The state of the loop before the n-th poll. -/
def loopAt (polls : ℕ → Poll) (n : ℕ) : LoopState :=
  stateBefore (fun state poll => (state.poll poll).1) .new polls n

/-- What the n-th poll decides. -/
def outcomeAt (polls : ℕ → Poll) (n : ℕ) : Outcome := ((loopAt polls n).poll (polls n)).2

end LiveStream.Fallback

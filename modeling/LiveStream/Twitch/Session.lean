import Mathlib

/-! The reducer that renews a Twitch session: it stops the writer of Twitch, waits until the provider
is offline, starts a new writer, and verifies the new broadcast. -/

namespace LiveStream.Twitch

def TWITCH_MAX_BROADCAST_SECONDS : Int := 48 * 3600

/-- `re.fullmatch(r"[0-9]+", value)`. -/
def isId (value : String) : Bool := value ≠ "" ∧ value.toList.all Char.isDigit

/-- A policy with the checks of `__post_init__`; the time of day is `renew_time_jst`. -/
structure RenewalPolicy where
  hour : Fin 24
  minute : Fin 60
  renewAfterSeconds : Int
  offlineWaitSeconds : Int
  renewalTimeoutSeconds : Int
  evidenceMaxAgeSeconds : Int
  clockSkewSeconds : Int
  age : 3600 ≤ renewAfterSeconds
  wait : 90 < offlineWaitSeconds
  timeout : offlineWaitSeconds < renewalTimeoutSeconds
  evidence : 0 < evidenceMaxAgeSeconds
  skew : 0 < clockSkewSeconds
  safe : renewAfterSeconds + renewalTimeoutSeconds + clockSkewSeconds < TWITCH_MAX_BROADCAST_SECONDS

/-- The first scheduled time of day in Japan after a broadcast began. -/
def nextDailyRenewalAt (startedAt : ℚ) (policy : RenewalPolicy) : ℚ :=
  let local' := startedAt + 32400
  let scheduled : ℚ := 86400 * ⌊local' / 86400⌋ + (3600 * policy.hour.val + 60 * policy.minute.val)
  (if scheduled ≤ local' then scheduled + 86400 else scheduled) - 32400

inductive BroadcastStatus where
  | live | offline | unknown
  deriving DecidableEq

inductive WriterStatus where
  | running | stopped | unknown
  deriving DecidableEq

inductive Phase where
  | tracking | waitStop | waitOffline | waitStart | verifying | cancelled | unknown
  deriving DecidableEq

inductive Action where
  | stopTwitch | startTwitch
  deriving DecidableEq

structure Clock where
  utc : ℚ
  elapsedSeconds : ℚ
  bootId : String
  deriving DecidableEq

structure Session where
  streamId : String
  startedAt : ℚ
  deriving DecidableEq

structure BroadcastFacts where
  broadcasterId : String
  observedAt : ℚ
  status : BroadcastStatus
  session : Option Session

/-- `progress_age_seconds` is absent where it is no number. -/
structure WriterFacts where
  observedAt : ℚ
  relayInstanceId : String
  generation : Int
  status : WriterStatus
  progressAgeSeconds : Option ℚ

/-- `lease_expires_elapsed` is absent where it is no number. -/
structure RouteContext where
  broadcasterId : String
  routeState : String
  routeGeneration : Int
  authorityEpoch : Int
  relayInstanceId : String
  leaseBootId : String
  leaseExpiresElapsed : Option ℚ
  inputFresh : Bool
  maintenanceAuthorized : Bool
  effectsEnabled : Bool
  routeChangePending : Bool

structure Binding where
  broadcasterId : String
  routeGeneration : Int
  authorityEpoch : Int
  relayInstanceId : String
  bootId : String
  writerGeneration : Int
  deriving DecidableEq

/-- What an operation id is the digest of. -/
structure Operation where
  binding : Binding
  session : Session
  deriving DecidableEq

/-- An operation id with its suffix, or the id of a stop after a fault. -/
inductive RequestId where
  | renewal (operation : Operation) (action : Action)
  | faultStop (relayInstance handlerId : String)
  deriving DecidableEq

structure Command where
  action : Action
  requestId : RequestId
  binding : Binding
  deriving DecidableEq

inductive OutcomeStatus where
  | accepted | stopped | started | unknown
  deriving DecidableEq

structure Outcome where
  action : Action
  requestId : RequestId
  binding : Binding
  status : OutcomeStatus
  observedAt : ℚ
  deriving DecidableEq

structure RenewalState where
  revision : Nat
  phase : Phase
  session : Option Session
  binding : Option Binding
  operation : Option Operation
  beganAt : Option ℚ
  stoppedClock : Option Clock
  startRequestedAt : Option ℚ
  lastClock : Option Clock
  lastCompletedOperation : Option Operation
  deriving DecidableEq

def RenewalState.initial : RenewalState :=
  ⟨0, .tracking, none, none, none, none, none, none, none, none⟩

inductive Status where
  | tracking | stopRequested | waiting | startRequested | renewed | blocked | cancelled | unknown
  deriving DecidableEq

structure Decision where
  state : RenewalState
  status : Status
  reason : String
  command : Option Command

/-- What an owner gives to a call of `advance`. -/
structure Tick where
  now : Clock
  context : RouteContext
  broadcast : BroadcastFacts
  writer : WriterFacts
  outcome : Option Outcome
  validationAuthorized : Bool

variable (policy : RenewalPolicy) (state : RenewalState) (tick : Tick)

def fresh (observedAt : ℚ) (now : Clock) : Bool :=
  0 ≤ now.utc - observedAt ∧ now.utc - observedAt ≤ policy.evidenceMaxAgeSeconds

def writerProgress (writer : WriterFacts) : Bool :=
  writer.status = .running ∧
    writer.progressAgeSeconds.any fun age => 0 ≤ age ∧ age ≤ (policy.evidenceMaxAgeSeconds : ℚ)

/-- `provider_fresh`. -/
def Tick.providerFresh : Bool :=
  fresh policy tick.broadcast.observedAt tick.now ∧ tick.broadcast.broadcasterId = tick.context.broadcasterId

/-- The state that a result starts from. -/
def RenewalState.ticked (now : Clock) : RenewalState :=
  { state with revision := state.revision + 1, lastClock := some now }

/-- A result without other changes. -/
def settle (status : Status) (reason : String) : Decision :=
  ⟨state.ticked tick.now, status, reason, none⟩

/-- A result that ends the renewal. -/
def conclude (phase : Phase) (status : Status) (reason : String) : Decision :=
  ⟨{ state.ticked tick.now with phase := phase }, status, reason, none⟩

/-- The fields of a binding that `advance` checks. -/
def Binding.wellFormed (binding : Binding) : Bool :=
  isId binding.broadcasterId ∧ 0 < binding.writerGeneration ∧ 0 < binding.routeGeneration ∧
    0 < binding.authorityEpoch

/-- The binding is of the present route and boot. -/
def Binding.current (binding : Binding) : Bool :=
  binding.broadcasterId = tick.context.broadcasterId ∧
    binding.routeGeneration = tick.context.routeGeneration ∧
    binding.authorityEpoch = tick.context.authorityEpoch ∧
    binding.relayInstanceId = tick.context.relayInstanceId ∧ binding.bootId = tick.now.bootId

/-- What is wrong with the clock since the last result. -/
def clockFault : Option String :=
  state.lastClock.bind fun previous =>
    if previous.bootId ≠ tick.now.bootId then some "CLOCK_BOOT_CHANGED_RECONCILE_REQUIRED"
    else
      let elapsed := tick.now.elapsedSeconds - previous.elapsedSeconds
      let wall := tick.now.utc - previous.utc
      if elapsed < 0 ∨ (policy.clockSkewSeconds : ℚ) < |wall - elapsed| then some "CLOCK_DISCONTINUITY" else none

/-- The exits on what is stored, and on the clock. -/
def storedGate : Option Decision :=
  if state.session.any fun session => ¬ isId session.streamId then
    some (conclude state tick .unknown .unknown "RENEWAL_STATE_CORRUPT")
  else if state.binding.any fun binding => ¬ binding.wellFormed then
    some (conclude state tick .unknown .unknown "RENEWAL_STATE_CORRUPT")
  else if state.phase = .unknown then some ⟨state, .unknown, "OWNER_RECONCILIATION_REQUIRED", none⟩
  else if state.phase = .cancelled then some ⟨state, .cancelled, "OWNER_RECONCILIATION_REQUIRED", none⟩
  else (clockFault policy state tick).map fun reason => ⟨state, .unknown, reason, none⟩

/-- The exits on the route, the binding and the permissions. -/
def routeGate : Option Decision :=
  let context := tick.context
  if context.routeState ∉ ["PRIMARY", "PRIMARY_DEGRADED"] ∨ context.routeChangePending = true then
    if state.binding.isSome then
      some (conclude state tick .cancelled .cancelled "ROUTE_HANDOFF_PREEMPTS_TWITCH_RENEWAL")
    else some (settle state tick .blocked "OCI_ROUTE_INACTIVE")
  else if state.binding.any fun binding => ¬ binding.current tick then
    some (conclude state tick .cancelled .cancelled "RENEWAL_BINDING_SUPERSEDED")
  else if ¬ (context.effectsEnabled ∧ context.maintenanceAuthorized) then
    some (settle state tick .blocked "NO_ACTION_OR_MAINTENANCE_GRANT_MISSING")
  else if context.leaseBootId ≠ tick.now.bootId ∨
      (¬ context.leaseExpiresElapsed.any fun expires => tick.now.elapsedSeconds < expires) ∨
      context.inputFresh = false then
    some (settle state tick .blocked "RELAY_LEASE_OR_INPUT_INVALID")
  else none

/-- The exits on the facts, and on the time that a renewal has. -/
def factsGate : Option Decision :=
  let context := tick.context
  if ¬ isId context.broadcasterId ∨ context.routeGeneration ≤ 0 ∨ context.authorityEpoch ≤ 0 ∨
      context.relayInstanceId = "" ∨ ¬ fresh policy tick.writer.observedAt tick.now ∨
      tick.writer.relayInstanceId ≠ context.relayInstanceId ∨ tick.writer.generation ≤ 0 then
    some (settle state tick .unknown "WRITER_OR_TARGET_FACTS_INVALID")
  else if tick.broadcast.broadcasterId ≠ context.broadcasterId then
    some (settle state tick .unknown "BROADCASTER_ID_MISMATCH")
  else if state.beganAt.any fun began => (policy.renewalTimeoutSeconds : ℚ) ≤ tick.now.utc - began then
    some (conclude state tick .unknown .unknown "TWITCH_RENEWAL_DEADLINE_EXCEEDED")
  else none

/-- The exits that all phases share. -/
def gate : Option Decision :=
  (storedGate policy state tick).or ((routeGate state tick).or (factsGate policy state tick))

/-- The session after a fresh look at the provider, or why it is refused. -/
def trackedSession : Except String (Option Session) :=
  if tick.providerFresh policy ∧ tick.broadcast.status = .live then
    match tick.broadcast.session with
    | none => .error "BROADCAST_SESSION_INVALID"
    | some candidate =>
      if ¬ isId candidate.streamId then .error "BROADCAST_SESSION_INVALID"
      else if state.session.any fun session => candidate ≠ session ∧
          (candidate.streamId = session.streamId ∨ candidate.startedAt ≤ session.startedAt) then
        .error "BROADCAST_SESSION_REGRESSED_OR_INCONSISTENT"
      else .ok (some candidate)
  else .ok state.session

/-- When the renewal of a session is due. -/
def dueAt (session : Session) : ℚ :=
  min (nextDailyRenewalAt session.startedAt policy) (session.startedAt + policy.renewAfterSeconds)

/-- The binding of a renewal that begins now. -/
def Tick.binding : Binding :=
  ⟨tick.context.broadcasterId, tick.context.routeGeneration, tick.context.authorityEpoch,
    tick.context.relayInstanceId, tick.now.bootId, tick.writer.generation⟩

def track : Decision :=
  match trackedSession policy state tick with
  | .error reason => settle state tick .unknown reason
  | .ok none => settle state tick .unknown "BROADCAST_START_UNCONFIRMED"
  | .ok (some session) =>
    if tick.now.utc - session.startedAt < 0 then settle state tick .unknown "BROADCAST_START_IN_FUTURE"
    else
      let tracked := { state.ticked tick.now with session := some session }
      if ¬ writerProgress policy tick.writer then
        ⟨tracked, .unknown, "TWITCH_WRITER_PROGRESS_UNCONFIRMED", none⟩
      else if tick.now.utc < dueAt policy session ∧ tick.validationAuthorized = false then
        ⟨tracked, .tracking, "TWITCH_SESSION_BEFORE_JST_RENEWAL", none⟩
      else
        let scheduled := nextDailyRenewalAt session.startedAt policy
        let reason :=
          if tick.validationAuthorized then "TWITCH_AUTHORIZED_VALIDATION_DUE"
          else if scheduled ≤ session.startedAt + policy.renewAfterSeconds then "TWITCH_DAILY_JST_RENEWAL_DUE"
          else "TWITCH_SESSION_AGE_GUARD_DUE"
        let operation : Operation := ⟨tick.binding, session⟩
        ⟨{ tracked with
            phase := .waitStop
            binding := some tick.binding
            operation := some operation
            beganAt := some tick.now.utc },
          .stopRequested, reason, some ⟨.stopTwitch, .renewal operation .stopTwitch, tick.binding⟩⟩

/-- The outcome of a command that was issued, if it is the one that is waited for. -/
def answered (binding : Binding) (operation : Operation) (action : Action) (issuedAt : Option ℚ) :
    Option Outcome :=
  tick.outcome.filter fun outcome => outcome.action = action ∧
    outcome.requestId = .renewal operation action ∧ outcome.binding = binding ∧
    fresh policy outcome.observedAt tick.now ∧ issuedAt.any (· ≤ outcome.observedAt)

section Renewing

variable (binding : Binding) (session : Session) (operation : Operation)

def waitStop : Decision :=
  match answered policy tick binding operation .stopTwitch state.beganAt with
  | none => settle state tick .waiting "TWITCH_STOP_NOT_CONFIRMED"
  | some outcome =>
    if outcome.status = .unknown then
      conclude state tick .unknown .unknown "TWITCH_COMMAND_OUTCOME_UNKNOWN"
    else if outcome.status ≠ .stopped then settle state tick .waiting "TWITCH_STOP_NOT_CONFIRMED"
    else if tick.writer.status ≠ .stopped ∨ tick.writer.generation ≠ binding.writerGeneration ∨
        tick.writer.observedAt < outcome.observedAt then
      settle state tick .waiting "TWITCH_OLD_WRITER_STILL_UNCONFIRMED"
    else ⟨{ state.ticked tick.now with phase := .waitOffline, stoppedClock := some tick.now },
      .waiting, "TWITCH_WRITER_STOPPED_WAIT_PROVIDER_OFFLINE", none⟩

def waitOffline : Decision :=
  match state.stoppedClock with
  | none => conclude state tick .unknown .unknown "RENEWAL_STATE_CORRUPT"
  | some stopped =>
    if tick.writer.status ≠ .stopped ∨ tick.writer.generation ≠ binding.writerGeneration then
      conclude state tick .unknown .unknown "TWITCH_WRITER_REAPPEARED"
    else if tick.now.elapsedSeconds - stopped.elapsedSeconds < policy.offlineWaitSeconds then
      settle state tick .waiting "TWITCH_OFFLINE_HOLD"
    else if ¬ tick.providerFresh policy ∨ tick.broadcast.status ≠ .offline ∨
        tick.broadcast.observedAt < stopped.utc then
      settle state tick .waiting "TWITCH_PROVIDER_OFFLINE_UNCONFIRMED"
    else ⟨{ state.ticked tick.now with phase := .waitStart, startRequestedAt := some tick.now.utc },
      .startRequested, "TWITCH_PROVIDER_OFFLINE_CONFIRMED",
      some ⟨.startTwitch, .renewal operation .startTwitch, binding⟩⟩

def waitStart : Decision :=
  match answered policy tick binding operation .startTwitch state.startRequestedAt with
  | none => settle state tick .waiting "TWITCH_START_NOT_CONFIRMED"
  | some outcome =>
    if outcome.status = .unknown then
      conclude state tick .unknown .unknown "TWITCH_COMMAND_OUTCOME_UNKNOWN"
    else if outcome.status ≠ .started then settle state tick .waiting "TWITCH_START_NOT_CONFIRMED"
    else if tick.writer.generation ≠ binding.writerGeneration + 1 ∨ ¬ writerProgress policy tick.writer ∨
        tick.writer.observedAt < outcome.observedAt then
      settle state tick .waiting "TWITCH_NEW_WRITER_PROGRESS_UNCONFIRMED"
    else ⟨{ state.ticked tick.now with phase := .verifying },
      .waiting, "TWITCH_WRITER_STARTED_VERIFY_BROADCAST", none⟩

/-- The new broadcast that a tick confirms. -/
def confirmed : Option Session :=
  if tick.writer.generation = binding.writerGeneration + 1 ∧ writerProgress policy tick.writer ∧
      tick.providerFresh policy ∧ tick.broadcast.status = .live then
    tick.broadcast.session.filter fun new =>
      isId new.streamId ∧ new.streamId ≠ session.streamId ∧ session.startedAt < new.startedAt ∧
        (state.startRequestedAt.any fun requested => requested - policy.clockSkewSeconds ≤ new.startedAt) ∧
        new.startedAt ≤ tick.now.utc
  else none

def verify : Decision :=
  match confirmed policy state tick binding session with
  | none => settle state tick .waiting "TWITCH_NEW_BROADCAST_UNCONFIRMED"
  | some new =>
    ⟨{ state.ticked tick.now with
        phase := .tracking
        session := some new
        binding := none
        lastCompletedOperation := some operation
        operation := none
        beganAt := none
        stoppedClock := none
        startRequestedAt := none },
      .renewed, "TWITCH_NEW_BROADCAST_VERIFIED", none⟩

end Renewing

def advance : Decision :=
  match gate policy state tick with
  | some decision => decision
  | none =>
    if state.phase = .tracking then track policy state tick
    else
      match state.binding, state.session, state.operation, state.beganAt with
      | some binding, some session, some operation, some _ =>
        match state.phase with
        | .waitStop => waitStop policy state tick binding operation
        | .waitOffline => waitOffline policy state tick binding operation
        | .waitStart => waitStart policy state tick binding operation
        | .verifying => verify policy state tick binding session operation
        | _ => conclude state tick .unknown .unknown "RENEWAL_STATE_CORRUPT"
      | _, _, _, _ => conclude state tick .unknown .unknown "RENEWAL_STATE_CORRUPT"

/-- An owner that goes on from every decision. -/
def renew (state : RenewalState) (tick : Tick) : RenewalState × Decision :=
  let decision := advance policy state tick
  (decision.state, decision)

end LiveStream.Twitch

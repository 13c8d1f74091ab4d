import LiveStream.Boundary.Server
import LiveStream.Support.Mapping
import LiveStream.Support.Script

/-! `switch_delivery_route` of the stream engine, with the restart effect it performs: what
it checks, what it does to the outside and when, and how it is left. -/

namespace LiveStream.Delivery

open LiveStream.Support LiveStream.Boundary

/-- What the operation does to the outside. -/
inductive Issued where
  | publisherStop (relay : String)
  | signal (name : String)
  | pumpStop
  deriving DecidableEq

/-- The entries of the delivery configuration that a switch reads. -/
structure DeliveryConfig where
  grantId : String
  grantExpiresAt : ℚ
  relayInstance : String
  deriving DecidableEq

/-- A started lease client, by the relay that it renews for. -/
structure RelayLeaseClient where
  relayInstance : String
  deriving DecidableEq

/-- The delivery pipeline, by the process of its producer. -/
structure DeliveryPipeline where
  producerPid : Option Int
  deriving DecidableEq

/-- The attributes of the engine, and what it has issued so far. -/
structure Engine where
  runId : String
  deliveryPipeline : Option DeliveryPipeline
  deliveryConfig : Option DeliveryConfig
  relayLeaseClient : Option RelayLeaseClient
  deliveryRoute : Route
  deliveryRouteGeneration : Int
  ffmpegStopContext : Fields
  issued : List Issued

/-- `pidfd_open` on the process; a failure comes with whether the process has exited. -/
inductive Pidfd where
  | unsupported
  | opened
  | failed (errno : Int) (exited : Bool)

def Pidfd.used : Pidfd → Bool
  | .opened => true
  | .unsupported | .failed _ _ => false

/-- What a switch meets: the settings, the clock, the FFmpeg process, and the answers of what
it calls. An answer of a wait is `none` when the time is over. -/
structure Encounter where
  environ : String → Option String
  renewalEnds : Bool
  stopReply : Except PyError Fields
  receiptAppended : Except PyError Unit
  now : ℚ
  runningPid : Option Int
  restartCount : Int
  pidfd : Pidfd
  termSent : Except PyError Unit
  termExit : Except PyError (Option Int)
  sameProcess : Bool
  laterRestartCount : Int
  killSent : Except PyError Unit
  killExit : Except PyError (Option Int)
  pidfdClosed : Except PyError Unit
  pumpStopped : Except PyError Unit
  changeAppended : Except PyError Unit

/-- A part of the operation. All it meets is given, so it takes no turns. -/
abbrev Part := Script Empty Engine Raised

def ask {α : Type} : Except PyError α → Part α
  | .ok value => pure value
  | .error error => Script.throw (.error error)

/-- Something done to the outside, and what comes of it. -/
def issue {α : Type} (act : Issued) (answer : Except PyError α) : Part α := do
  Script.modify fun engine => { engine with issued := engine.issued ++ [act] }
  ask answer

def reject {α : Type} (reason : String) : Part α := Script.throw (.effectRejected reason)

/-- `OutcomeUnknown(reason, result=…)`. -/
def unknown {α : Type} (reason : String) (result : Fields) : Part α :=
  Script.throw (.outcomeUnknown reason result)

/-- `if condition: raise …`. -/
def raiseWhen (condition : Bool) (raised : Raised) : Part Unit :=
  if condition then Script.throw raised else pure ()

abbrev rejectWhen (condition : Bool) (reason : String) : Part Unit :=
  raiseWhen condition (.effectRejected reason)

/-- `mapping.update(entries)`. -/
def setAll (fields entries : Fields) : Fields :=
  entries.foldl (fun current entry => current.set entry.1 entry.2) fields

def texts (names : List String) : Value := .list (names.map .str)

def Engine.ffmpegGeneration (engine : Engine) (restartCount pid : Int) : String :=
  engine.runId ++ ":" ++ toString restartCount ++ ":" ++ toString pid

/-- `result.get(name)`. -/
def field (result : Fields) (name : String) : Value := (result.get? name).getD .none

section Switch

-- `float(text)`, `none` where it raises `ValueError`.
variable (float : String → Option Double)

/-- `value < 0.001 or value > 10.0`. -/
def waitOutOfRange : Double → Bool
  | .finite value => value < 1 / 1000 || 10 < value
  | .posInf | .negInf => true
  | .nan => false

/-- `_bounded_effect_wait`. -/
def boundedEffectWait (meets : Encounter) (name default : String) : Except Raised Double :=
  match float (strip ((meets.environ name).getD default)) with
  | none => .error (.effectRejected (name ++ "_INVALID"))
  | some value =>
    if waitOutOfRange value then .error (.effectRejected (name ++ "_OUT_OF_RANGE")) else .ok value

def Encounter.forceKillEnabled (meets : Encounter) : Bool :=
  ["1", "true", "yes", "on"].contains
    (strip ((meets.environ "FR_FFMPEG_FORCE_KILL_ENABLED").getD "0")).toLower

/-- `stop_receipt` of the lease client. -/
def RelayLeaseClient.stopReceipt (client : RelayLeaseClient) (meets : Encounter) : Part Fields := do
  raiseWhen (meets.renewalEnds = false) (.error (runtimeError "RELAY_LEASE_THREAD_STOP_UNKNOWN"))
  let reply ← issue (.publisherStop client.relayInstance) meets.stopReply
  raiseWhen ((field reply "instance").isText client.relayInstance = false)
    (.error (valueError "RELAY_INSTANCE_CHANGED"))
  raiseWhen ((field reply "halted").isTrue = false ∨
      (field reply "process_exit_observed").isTrue = false ∨ (field reply "enabled").isFalse = false)
    (.error (runtimeError "RELAY_STOP_OUTCOME_UNKNOWN"))
  return reply

/-- `_open_exact_ffmpeg_pidfd`. -/
def openExactFfmpegPidfd (meets : Encounter) (pid : Int) : Part Unit :=
  match meets.pidfd with
  | .unsupported | .opened => pure ()
  | .failed errno exited =>
    -- `ENOSYS` and `EINVAL` mean that there is no such call.
    if errno = 38 ∨ errno = 22 then pure ()
    else
      unknown "PIDFD_OPEN_FAILED_FAIL_CLOSED"
        [("physical_effect_count", .int 0), ("signal_attempt_count", .int 0),
          ("local_ffmpeg_pid", .int pid), ("exit_observed", .bool exited),
          ("process_still_running_after_dispatch", .bool !exited), ("pidfd_used", .bool false),
          ("pidfd_error_errno", .int errno)]

/-- `self.ffmpeg_stop_context.update(entries)`. -/
def updateStopContext (entries : Fields) : Part Unit :=
  Script.modify fun engine =>
    { engine with ffmpegStopContext := setAll engine.ffmpegStopContext entries }

/-- `result.update` once the exit is observed. -/
def observedExit (result : Fields) (exitCode : Int) : Fields :=
  setAll result [("exit_code", .int exitCode), ("exit_observed", .bool true),
    ("process_still_running_after_dispatch", .bool false)]

/-- The restart effect from the termination signal on. -/
def terminate (meets : Encounter) (request : EffectRequest) (pid : Int) (result : Fields) :
    Part Fields := do
  issue (.signal "SIGTERM") meets.termSent
  let asked : Fields := [("signal_attempt_count", .int 1), ("signals_requested", texts ["SIGTERM"])]
  updateStopContext asked
  let result := setAll result asked
  match ← ask meets.termExit with
  | some exitCode => return observedExit result exitCode
  | none =>
    let result := setAll result [("process_still_running_after_dispatch", .bool true)]
    let engine ← Script.get
    if meets.forceKillEnabled = false then unknown "SIGTERM_SENT_EXIT_NOT_OBSERVED" result
    else if meets.pidfd.used = false then unknown "SIGKILL_REQUIRES_PIDFD" result
    else if meets.sameProcess = false then unknown "FFMPEG_REFERENCE_DRIFT_BEFORE_SIGKILL" result
    else if engine.ffmpegGeneration meets.laterRestartCount pid ≠ request.expectedFfmpegGeneration then
      unknown "FFMPEG_GENERATION_DRIFT_BEFORE_SIGKILL" result
    else
      let counts : Fields := [("signal_attempt_count", .int 2),
        ("signals_requested", texts ["SIGTERM", "SIGKILL"]), ("force_kill_used", .bool true)]
      let result := setAll result (("effect", .str "SIGTERM_THEN_SIGKILL") :: counts)
      updateStopContext (("requested_signal", .str "SIGTERM_THEN_SIGKILL") :: counts)
      issue (.signal "SIGKILL") meets.killSent
      match ← ask meets.killExit with
      | some exitCode => return observedExit result exitCode
      | none => unknown "SIGKILL_SENT_EXIT_NOT_OBSERVED" result

/-- `try: part finally: os.close(pidfd)`. -/
def closingPidfd (meets : Encounter) (part : Part Fields) : Part Fields :=
  if meets.pidfd.used then do
    let result ← Script.handle part fun error => do
      ask meets.pidfdClosed
      Script.throw error
    ask meets.pidfdClosed
    return result
  else part

/-- The numbers of seconds in a result. -/
def seconds (value : Double) : Value := .float value

/-- `perform_fast_recovery_effect` for the intent `RESTART_FFMPEG`. -/
def restartFfmpeg (meets : Encounter) (request : EffectRequest) : Part Fields := do
  match meets.runningPid with
  | none => reject "FFMPEG_NOT_RUNNING_AT_EFFECT_BOUNDARY"
  | some pid =>
    let engine ← Script.get
    rejectWhen (engine.ffmpegGeneration meets.restartCount pid ≠ request.expectedFfmpegGeneration)
      "FFMPEG_GENERATION_DRIFT_AT_EFFECT_BOUNDARY"
    let termGraceSec ← Script.lift (boundedEffectWait float meets "FR_FFMPEG_TERM_GRACE_SEC" "2.0")
    let killWaitSec ← Script.lift (boundedEffectWait float meets "FR_FFMPEG_KILL_WAIT_SEC" "1.0")
    openExactFfmpegPidfd meets pid
    Script.modify fun engine =>
      { engine with
        ffmpegStopContext :=
          [("termination_initiator", .str request.producerId),
            ("controller_id", .str request.producerId), ("stop_reason", .str request.reason),
            ("requested_signal", .str "SIGTERM"), ("recovery_action_id", .str request.requestId),
            ("idempotency_key", .str request.idempotencyKey),
            ("recovery_scope", .str "stream_engine_effect_executor"),
            ("physical_effect_count", .int 1), ("signal_attempt_count", .int 0),
            ("force_kill_enabled", .bool meets.forceKillEnabled),
            ("pidfd_used", .bool meets.pidfd.used)] }
    let hostPid ← ask (orReject (keyError "ffmpeg_pid")
      (request.ffmpegTargetIdentity.map (·.ffmpegPid)))
    closingPidfd meets (terminate meets request pid
      [("physical_effect_count", .int 1), ("effect", .str "SIGTERM"),
        ("local_ffmpeg_pid", .int pid), ("protocol_host_ffmpeg_pid", .int hostPid),
        ("expected_ffmpeg_generation", .str request.expectedFfmpegGeneration),
        ("signal_attempt_count", .int 0), ("signals_requested", .list []),
        ("exit_observed", .bool false), ("process_still_running_after_dispatch", .none),
        ("force_kill_enabled", .bool meets.forceKillEnabled), ("force_kill_used", .bool false),
        ("pidfd_used", .bool meets.pidfd.used), ("term_grace_sec", seconds termGraceSec),
        ("kill_wait_sec", seconds killWaitSec)])

/-- The stop of the primary publisher before a return to the fallback. -/
def stopPrimary (meets : Encounter) : Part Unit := do
  match (← Script.get).relayLeaseClient with
  | none => reject "PRIMARY_STOP_RECEIPT_REQUIRED"
  | some client =>
    let _receipt ← Script.handle (client.stopReceipt meets) fun _ =>
      unknown "PRIMARY_PUBLISHER_STOP_UNKNOWN" []
    ask meets.receiptAppended
    Script.modify fun engine => { engine with relayLeaseClient := none }

/-- `switch_delivery_route` from the look at the expiry of the grant on. -/
def replaceSender (meets : Encounter) (request : EffectRequest) (pipeline : DeliveryPipeline)
    (config : DeliveryConfig) (route : RouteTransition) : Part Fields := do
  rejectWhen (config.grantExpiresAt ≤ meets.now) "DELIVERY_OPERATOR_GRANT_EXPIRED"
  let result ← restartFfmpeg float meets request
  raiseWhen ((field result "exit_observed").isTrue = false)
    (.outcomeUnknown "DELIVERY_OLD_SENDER_STOP_UNKNOWN" result)
  issue .pumpStop meets.pumpStopped
  Script.modify fun engine =>
    { engine with
      deliveryRoute := route.toRoute
      deliveryRouteGeneration := engine.deliveryRouteGeneration + 1 }
  let encoderPid ← ask (orReject (attributeError "pid") pipeline.producerPid)
  ask meets.changeAppended
  let switched ← Script.get
  return setAll result [("route", .str switched.deliveryRoute.text),
    ("route_generation", .int switched.deliveryRouteGeneration), ("encoder_pid", .int encoderPid)]

/-- `switch_delivery_route`, under the lock. -/
def switchDeliveryRoute (meets : Encounter) (request : EffectRequest) : Part Fields := do
  let engine ← Script.get
  match engine.deliveryPipeline, engine.deliveryConfig with
  | some pipeline, some config =>
    match request.routeTransition with
    | none => reject "DELIVERY_OPERATOR_GRANT_MISMATCH"
    | some route =>
      rejectWhen (route.operatorGrantId ≠ config.grantId) "DELIVERY_OPERATOR_GRANT_MISMATCH"
      rejectWhen (route.fromRoute ≠ engine.deliveryRoute ∨
          route.expectedRouteGeneration ≠ engine.deliveryRouteGeneration)
        "DELIVERY_ROUTE_GENERATION_DRIFT"
      if route.toRoute = .fallback then stopPrimary meets else pure ()
      replaceSender float meets request pipeline config route
  | _, _ => reject "DELIVERY_SPLIT_NOT_ENABLED"

end Switch

end LiveStream.Delivery

import LiveStream.Dispatch.Outbox
import LiveStream.Support.Run

/-! The notification dispatcher: any number of runs of `dispatch_once` over one outbox, each cut
into its transactions and the calls of the provider between them. -/

namespace LiveStream.Dispatch

open LiveStream.Support

/-- `NotificationDispatcher`, with what its constructor checks. -/
structure Dispatcher where
  leaseOwner : String
  routes : List String
  leaseTtlSec : Nat
  maxAttempts : Nat
  attemptTimeoutSec : Nat
  ttl : attemptTimeoutSec < leaseTtlSec
  attempts : 1 ≤ maxAttempts
  timeout : 1 ≤ attemptTimeoutSec

/-- `DeliveryResponse`. -/
structure DeliveryResponse where
  success : Bool
  statusCode : Nat
  detail : String
  retryAfterSec : Int
  deliveryUncertain : Bool

/-- How a call of `provider.send` ends. -/
inductive Answer where
  | response (response : DeliveryResponse)
  | deadline
  | timeout
  | exception (name : String)
  | invalid

/-- The response that `dispatch_once` makes of the end of a call. -/
def Answer.taken : Answer → DeliveryResponse
  | .response given => given
  | .deadline => ⟨false, 0, "provider_deadline_exceeded_delivery_uncertain", 0, true⟩
  | .timeout => ⟨false, 0, "provider_timeout_delivery_uncertain", 0, true⟩
  | .exception name => ⟨false, 0, "provider_exception_delivery_uncertain:" ++ name, 0, true⟩
  | .invalid => ⟨false, 0, "provider_invalid_response_delivery_uncertain", 0, true⟩

/-- A route without a provider. -/
def notConfigured : DeliveryResponse := ⟨false, 400, "provider_not_configured", 0, false⟩

/-- `_outcome_state`. -/
def outcomeState (response : DeliveryResponse) : AttemptState :=
  if response.success then .succeeded
  else if response.deliveryUncertain ∨ response.statusCode = 0 then .uncertain
  else if response.statusCode ∈ [408, 425, 429] ∨ 500 ≤ response.statusCode then .retryableFailed
  else .permanentFailed

/-- Where a run of `dispatch_once` stands: what it does next. -/
inductive Stage where
  | quarantine
  | due
  | loop (rest : List NotificationIntent)
  | begin (attemptNow : Int) (intent : NotificationIntent) (rest : List NotificationIntent)
  | send (attempt : Attempt) (intent : NotificationIntent) (rest : List NotificationIntent)
  | await (attempt : Attempt) (rest : List NotificationIntent)
  | finish (attempt : Attempt) (response : DeliveryResponse) (rest : List NotificationIntent)
  | release (pending : Option Nat)

/-- The counts of `DispatchSummary`. -/
structure Counts where
  attempted : Nat
  sent : Nat
  failed : Nat
  uncertain : Nat

def Counts.add (counts : Counts) (outcome : AttemptState) : Counts :=
  if outcome = .succeeded then { counts with sent := counts.sent + 1 }
  else { counts with
    failed := counts.failed + 1
    uncertain := counts.uncertain + if outcome = .uncertain then 1 else 0 }

/-- The variables of a run of `dispatch_once` that holds a lease. -/
structure DispatchRun where
  dispatcher : Dispatcher
  nowTs : Int
  limit : Int
  fenceToken : Nat
  counts : Counts
  stage : Stage

/-- `lease_name`. -/
def LEASE_NAME : String := "notification_dispatcher"

/-- One operation of a run that is `elapsed` seconds old: what it leaves of the outbox, of the run
itself unless it is over, and the attempt for which it calls the provider. -/
def DispatchRun.operate (dispatch : DispatchRun) (outbox : Outbox) (elapsed : Nat) :
    Outbox × Option DispatchRun × Option Attempt :=
  let dispatcher := dispatch.dispatcher
  let operationTs := dispatch.nowTs + elapsed
  let goto (stage : Stage) : Option DispatchRun := some { dispatch with stage := stage }
  match dispatch.stage with
  | .quarantine =>
    (outbox.quarantineStaleDeliveryAttempts dispatch.nowTs dispatcher.attemptTimeoutSec, goto .due, none)
  | .due =>
    (outbox, goto (.loop (outbox.dueIntents dispatch.nowTs dispatcher.maxAttempts dispatch.limit)), none)
  | .loop [] => (outbox, goto (.release (some (outbox.undeliveredIntentCount dispatcher.maxAttempts))), none)
  | .loop (intent :: rest) =>
    match outbox.renewFencedLease LEASE_NAME dispatcher.leaseOwner dispatch.fenceToken operationTs
        dispatcher.leaseTtlSec with
    | (after, true) => (after, goto (.begin operationTs intent rest), none)
    | (after, false) => (after, goto (.loop []), none)
  | .begin attemptNow intent rest =>
    match outbox.beginDeliveryAttempt intent.intentId dispatcher.leaseOwner LEASE_NAME
        dispatch.fenceToken attemptNow with
    | .ok (after, attempt) =>
      (after, some { dispatch with
        counts := { dispatch.counts with attempted := dispatch.counts.attempted + 1 }
        stage := .send attempt intent rest }, none)
    | .error _ => (outbox, goto (.release none), none)
  | .send attempt intent rest =>
    if intent.route ∈ dispatcher.routes then (outbox, goto (.await attempt rest), some attempt)
    else (outbox, goto (.finish attempt notConfigured rest), none)
  | .await .. => (outbox, some dispatch, none)
  | .finish attempt response rest =>
    match outbox.finishDeliveryAttempt attempt response.detail response.retryAfterSec operationTs
        (outcomeState response) with
    | (after, .ok ()) =>
      (after, some { dispatch with
        counts := dispatch.counts.add (outcomeState response), stage := .loop rest }, none)
    | (after, .error raised) =>
      (after, if raised.kind = .runtime then
        some { dispatch with counts := dispatch.counts.add .uncertain, stage := .loop rest }
      else goto (.release none), none)
  | .release _ =>
    (outbox.releaseLease LEASE_NAME dispatcher.leaseOwner (some dispatch.fenceToken), none, none)

/-- The outbox, the runs of `dispatch_once`, the attempts for which a provider was called, and the
fencing tokens of the dispatchers' lease that were returned. -/
structure World where
  outbox : Outbox
  running : Nat → Option DispatchRun
  sent : List (String × Nat)
  granted : List Nat

def World.empty : World := ⟨.empty, fun _ => none, [], []⟩

def World.put (world : World) (who : Nat) (dispatch : Option DispatchRun) : World :=
  { world with running := fun other => if other = who then dispatch else world.running other }

inductive Event where
  /-- A process calls `dispatch_once`. -/
  | start (who : Nat) (dispatcher : Dispatcher) (nowTs limit : Int)
  /-- It does its next operation. -/
  | operate (who elapsed : Nat)
  /-- Its call of the provider ends. -/
  | answer (who : Nat) (answer : Answer)
  /-- Something else is raised in it; what is left is the `finally` clause. -/
  | interrupt (who : Nat)
  | crash (who : Nat)
  | activateEpoch (cutoverTs activatedTs : Int) (policyRevision writerIdentity note : String)
  | closeEpoch (epochId : EpochId) (closedTs : Int)
  | appendIntent (item : NotificationIntent) (epochId : Option EpochId)
  /-- Another user of the lease table. -/
  | acquireLease (name owner : String) (nowTs ttlSec : Int)
  | releaseLease (name owner : String)

/-- What a transaction leaves, rolled back if it raises. -/
def World.commit (world : World) (result : Except PyError Outbox) : World :=
  match result with
  | .ok outbox => { world with outbox := outbox }
  | .error _ => world

/-- A lease that is acquired; the dispatchers' tokens are noted. -/
def World.acquire (world : World) (name owner : String) (nowTs ttlSec : Int) : World × Option Nat :=
  let (outbox, token) := world.outbox.acquireFencedLease name owner nowTs ttlSec
  ({ world with
    outbox := outbox
    granted := if name = LEASE_NAME then world.granted ++ token.toList else world.granted }, token)

def World.step (world : World) : Event → World
  | .start who dispatcher nowTs limit =>
    match world.running who with
    | some _ => world
    | none =>
      match world.acquire LEASE_NAME dispatcher.leaseOwner nowTs dispatcher.leaseTtlSec with
      | (after, none) => after
      | (after, some token) =>
        after.put who (some ⟨dispatcher, nowTs, limit, token, ⟨0, 0, 0, 0⟩, .quarantine⟩)
  | .operate who elapsed =>
    match world.running who with
    | none => world
    | some dispatch =>
      let (outbox, next, called) := dispatch.operate world.outbox elapsed
      { world with
        outbox := outbox
        running := fun other => if other = who then next else world.running other
        sent := world.sent ++ called.toList.map Attempt.key }
  | .answer who answer =>
    match world.running who with
    | some dispatch =>
      match dispatch.stage with
      | .await attempt rest =>
        world.put who (some { dispatch with stage := .finish attempt answer.taken rest })
      | _ => world
    | none => world
  | .interrupt who =>
    world.put who ((world.running who).map fun dispatch => { dispatch with stage := .release none })
  | .crash who => world.put who none
  | .activateEpoch cutoverTs activatedTs policyRevision writerIdentity note =>
    world.commit (world.outbox.activateDeliveryEpoch cutoverTs activatedTs policyRevision writerIdentity note)
  | .closeEpoch epochId closedTs => world.commit (world.outbox.closeDeliveryEpoch epochId closedTs)
  | .appendIntent item epochId => world.commit (world.outbox.appendIntent item epochId)
  | .acquireLease name owner nowTs ttlSec => (world.acquire name owner nowTs ttlSec).1
  | .releaseLease name owner => { world with outbox := world.outbox.releaseLease name owner none }

def World.run (events : List Event) : World := events.foldl World.step .empty

end LiveStream.Dispatch

import LiveStream.Support.Keyed
import LiveStream.Support.Latest
import LiveStream.Support.Value

/-! The notification outbox of the monitoring repository: delivery epochs, intents, attempts,
and the leases with their fencing tokens. Each function is one transaction. -/

namespace LiveStream.Dispatch

open LiveStream.Support

/-- `ATTEMPT_STATES`. -/
inductive AttemptState where
  | inFlight | succeeded | retryableFailed | permanentFailed | uncertain
  deriving DecidableEq

/-- The states of an earlier attempt after which there is no other. -/
def AttemptState.blocks : AttemptState → Bool
  | .retryableFailed => false
  | _ => true

def AttemptState.text : AttemptState → String
  | .inFlight => "in_flight"
  | .succeeded => "succeeded"
  | .retryableFailed => "retryable_failed"
  | .permanentFailed => "permanent_failed"
  | .uncertain => "uncertain"

/-- What a dispatcher reads of `NotificationIntent`. -/
structure NotificationIntent where
  intentId : String
  route : String
  createdTs : Int
  notBeforeTs : Int
  deriving DecidableEq

inductive EpochStatus where
  | planned | active | closed
  deriving DecidableEq

/-- The parts that `stable_id` hashes to the id of an epoch. -/
structure EpochId where
  cutoverTs : Int
  activatedTs : Int
  policyRevision : String
  writerIdentity : String
  deriving DecidableEq

/-- A row of `notification_delivery_epochs`. -/
structure EpochRow where
  epochId : EpochId
  status : EpochStatus
  cutoverTs : Int
  activatedTs : Int
  deriving DecidableEq

/-- A row of `notification_intent_delivery`: shadow mode has no epoch and is not eligible,
production mode has one and is. -/
structure IntentDelivery where
  intentId : String
  epochId : Option EpochId
  deriving DecidableEq

/-- A row of `delivery_attempts` with its row of `delivery_attempt_states`. -/
structure Attempt where
  intentId : String
  attemptNo : Nat
  owner : String
  startedTs : Int
  state : AttemptState
  leaseName : String
  fenceToken : Nat
  nextRetryTs : Int
  completedTs : Int
  detail : String
  deriving DecidableEq

/-- The parts that `stable_id` hashes to the id of an attempt. -/
def Attempt.key (attempt : Attempt) : String × Nat := (attempt.intentId, attempt.attemptNo)

structure LeaseRow where
  leaseName : String
  owner : String
  expiresTs : Int
  deriving DecidableEq

structure FenceRow where
  leaseName : String
  fenceToken : Nat
  deriving DecidableEq

structure Outbox where
  epochs : List EpochRow
  intents : List NotificationIntent
  deliveries : List IntentDelivery
  attempts : List Attempt
  leases : List LeaseRow
  fences : List FenceRow

def Outbox.empty : Outbox := ⟨[], [], [], [], [], []⟩

namespace Outbox

variable (outbox : Outbox)

/-! ### Epochs and intents -/

/-- `activate_delivery_epoch`; one epoch is active at a time. -/
def activateDeliveryEpoch (cutoverTs activatedTs : Int) (policyRevision writerIdentity note : String) :
    Except PyError Outbox := do
  rejectIf (activatedTs < cutoverTs) (valueError "notification cutover cannot be after activation")
  rejectIf (strip policyRevision = "" ∨ strip writerIdentity = "" ∨ strip note = "")
    (valueError "notification delivery epoch audit fields are required")
  let ident : EpochId := ⟨cutoverTs, activatedTs, policyRevision, writerIdentity⟩
  rejectIf (∃ row ∈ outbox.epochs, row.epochId = ident ∨ row.status = .active)
    (integrityError "UNIQUE constraint failed: notification_delivery_epochs")
  return { outbox with epochs := outbox.epochs ++ [⟨ident, .active, cutoverTs, activatedTs⟩] }

/-- `close_delivery_epoch`. -/
def closeDeliveryEpoch (epochId : EpochId) (closedTs : Int) : Except PyError Outbox := do
  let matched (row : EpochRow) : Bool :=
    row.epochId = epochId ∧ row.status = .active ∧ row.activatedTs ≤ closedTs
  rejectIf (outbox.epochs.countP matched ≠ 1) (valueError "notification delivery epoch is not active")
  return { outbox with
    epochs := updateWhere matched (fun row => { row with status := .closed }) outbox.epochs }

/-- `append_intent`: both rows by `INSERT OR IGNORE`. -/
def appendIntent (item : NotificationIntent) (deliveryEpochId : Option EpochId) :
    Except PyError Outbox := do
  rejectIf (∃ ident ∈ deliveryEpochId, ∀ row ∈ outbox.epochs, ¬ (row.epochId = ident ∧ row.status = .active))
    (valueError "notification delivery epoch is not active")
  rejectIf (∃ ident ∈ deliveryEpochId, ∃ row ∈ outbox.epochs, row.epochId = ident ∧
      row.status = .active ∧ item.createdTs < row.cutoverTs)
    (valueError "pre-cutover notification intent cannot become deliverable")
  return { outbox with
    intents := if outbox.intents.any fun row => row.intentId = item.intentId then outbox.intents
      else outbox.intents ++ [item]
    deliveries := if outbox.deliveries.any fun row => row.intentId = item.intentId then outbox.deliveries
      else outbox.deliveries ++ [⟨item.intentId, deliveryEpochId⟩] }

/-! ### Leases -/

/-- The token that was given out last under a name. -/
def fenceToken (name : String) : Nat :=
  ((lookup FenceRow.leaseName outbox.fences name).map FenceRow.fenceToken).getD 0

/-- Whether the upsert of a lease writes its row. -/
def leaseFree (name owner : String) (nowTs : Int) : Bool :=
  (lookup LeaseRow.leaseName outbox.leases name).all fun lease =>
    lease.expiresTs ≤ nowTs || lease.owner = owner

/-- `acquire_fenced_lease`. -/
def acquireFencedLease (name owner : String) (nowTs ttlSec : Int) : Outbox × Option Nat :=
  if outbox.leaseFree name owner nowTs then
    let token := outbox.fenceToken name + 1
    ({ outbox with
      leases := upsert LeaseRow.leaseName outbox.leases ⟨name, owner, nowTs + max 1 ttlSec⟩
      fences := upsert FenceRow.leaseName outbox.fences ⟨name, token⟩ }, some token)
  else (outbox, none)

/-- `renew_fenced_lease`. -/
def renewFencedLease (name owner : String) (token : Nat) (nowTs ttlSec : Int) : Outbox × Bool :=
  let matched (lease : LeaseRow) : Bool :=
    lease.leaseName = name ∧ lease.owner = owner ∧ nowTs < lease.expiresTs
  if (lookup FenceRow.leaseName outbox.fences name).all fun fence => fence.fenceToken ≠ token then
    (outbox, false)
  else
    ({ outbox with
      leases := updateWhere matched (fun lease => { lease with expiresTs := nowTs + max 1 ttlSec })
        outbox.leases }, outbox.leases.countP matched = 1)

/-- `release_lease`; without a token only the owner is compared. -/
def releaseLease (name owner : String) (token : Option Nat) : Outbox :=
  if token.any fun given => (lookup FenceRow.leaseName outbox.fences name).all fun fence =>
      fence.fenceToken ≠ given then outbox
  else
    { outbox with
      leases := updateWhere (fun lease => lease.leaseName = name ∧ lease.owner = owner)
        (fun lease => { lease with expiresTs := 0 }) outbox.leases }

/-- Whether an owner holds the lease under a token that is still the last one. -/
def fenceCurrent (name owner : String) (token : Nat) (nowTs : Int) : Bool :=
  (lookup LeaseRow.leaseName outbox.leases name).any fun lease =>
    (lookup FenceRow.leaseName outbox.fences name).any fun fence =>
      lease.owner = owner ∧ fence.fenceToken = token ∧ nowTs < lease.expiresTs

/-! ### Attempts -/

/-- An eligible production intent of an active epoch, created at or after its cutover. -/
def Eligible (item : NotificationIntent) : Prop :=
  ∃ delivery ∈ outbox.deliveries, delivery.intentId = item.intentId ∧
    ∃ epoch ∈ outbox.epochs, some epoch.epochId = delivery.epochId ∧
      epoch.status = .active ∧ epoch.cutoverTs ≤ item.createdTs

instance (item : NotificationIntent) : Decidable (outbox.Eligible item) :=
  inferInstanceAs (Decidable (∃ _ ∈ _, _ ∧ ∃ _ ∈ _, _))

/-- The attempts for an intent. -/
def attemptsOf (intentId : String) : List Attempt :=
  outbox.attempts.filter fun attempt => attempt.intentId = intentId

/-- `COALESCE(MAX(attempt_no), 0)`. -/
def lastAttemptNo (intentId : String) : Nat :=
  ((outbox.attemptsOf intentId).map Attempt.attemptNo).max?.getD 0

/-- `begin_delivery_attempt`. -/
def beginDeliveryAttempt (intentId owner leaseName : String) (token : Nat) (nowTs : Int) :
    Except PyError (Outbox × Attempt) := do
  rejectIf (outbox.fenceCurrent leaseName owner token nowTs = false)
    (runtimeError "delivery lease fence is not current")
  rejectIf (∀ item ∈ outbox.intents, item.intentId = intentId → ¬ outbox.Eligible item)
    (runtimeError "notification intent is not delivery eligible")
  match (outbox.attemptsOf intentId).find? fun attempt => attempt.state.blocks with
  | some blocker =>
    .error (runtimeError ("notification intent is blocked by " ++ blocker.state.text))
  | none =>
    let attempt : Attempt := ⟨intentId, outbox.lastAttemptNo intentId + 1, owner, nowTs, .inFlight,
      leaseName, token, 0, 0, ""⟩
    return ({ outbox with attempts := outbox.attempts ++ [attempt] }, attempt)

/-- `retry_delay`. -/
def retryDelay (attemptNo : Nat) (outcome : AttemptState) (retryAfterSec : Int) : Int :=
  max (max 0 retryAfterSec) (if outcome = .retryableFailed then 2 ^ min 10 attemptNo else 0)

/-- `text[:500]`. -/
def clip (text : String) : String := String.ofList (text.toList.take 500)

/-- `finish_delivery_attempt`. A lost fence is written down before it raises. -/
def finishDeliveryAttempt (attempt : Attempt) (detail : String) (retryAfterSec nowTs : Int)
    (outcome : AttemptState) : Outbox × Except PyError Unit :=
  if outcome = .inFlight then (outbox, .error (valueError "invalid delivery attempt outcome state"))
  else if outbox.fenceCurrent attempt.leaseName attempt.owner attempt.fenceToken nowTs then
    let matched (row : Attempt) : Bool := row.key = attempt.key ∧ row.state = .inFlight ∧
      row.leaseName = attempt.leaseName ∧ row.fenceToken = attempt.fenceToken
    if outbox.attempts.countP matched = 1 then
      ({ outbox with
        attempts := updateWhere matched (fun row => { row with
          state := outcome
          nextRetryTs := if outcome = .retryableFailed then
            nowTs + retryDelay attempt.attemptNo outcome retryAfterSec else 0
          completedTs := nowTs
          detail := clip detail }) outbox.attempts }, .ok ())
    else (outbox, .error (runtimeError "delivery attempt is no longer in flight"))
  else
    ({ outbox with
      attempts := updateWhere (fun row => row.key = attempt.key ∧ row.state = .inFlight)
        (fun row => { row with
          state := .uncertain
          completedTs := nowTs
          detail := "lease_fence_lost_before_result" }) outbox.attempts },
      .error (runtimeError "delivery lease fence was lost before result persistence"))

/-- `quarantine_stale_delivery_attempts`. -/
def quarantineStaleDeliveryAttempts (nowTs : Int) (attemptTimeoutSec : Nat) : Outbox :=
  { outbox with
    attempts := updateWhere
      (fun row => row.state = .inFlight ∧ row.startedTs ≤ nowTs - max 1 attemptTimeoutSec)
      (fun row => { row with
        state := .uncertain
        completedTs := nowTs
        detail := "writer_lost_before_result" }) outbox.attempts }

/-- The condition that `due_intents` and `undelivered_intent_count` share. -/
def Undelivered (maxAttempts : Nat) (item : NotificationIntent) : Prop :=
  outbox.Eligible item ∧ (outbox.attemptsOf item.intentId).length < max 1 maxAttempts ∧
    ∀ attempt ∈ outbox.attemptsOf item.intentId, attempt.state.blocks = false

instance (maxAttempts : Nat) (item : NotificationIntent) :
    Decidable (outbox.Undelivered maxAttempts item) :=
  inferInstanceAs (Decidable (_ ∧ _ ∧ _))

/-- The first attempt, or the delay after the last one is over. -/
def RetryDue (nowTs : Int) (intentId : String) : Prop :=
  outbox.attemptsOf intentId = [] ∨ ∃ attempt ∈ outbox.attemptsOf intentId,
    attempt.attemptNo = outbox.lastAttemptNo intentId ∧ attempt.state = .retryableFailed ∧
      attempt.nextRetryTs ≤ nowTs

instance (nowTs : Int) (intentId : String) : Decidable (outbox.RetryDue nowTs intentId) :=
  inferInstanceAs (Decidable (_ ∨ _))

/-- `ORDER BY not_before_ts, intent_id`. -/
def NotificationIntent.rank (item : NotificationIntent) : ℤ ×ₗ String :=
  toLex (item.notBeforeTs, item.intentId)

/-- `due_intents`. -/
def dueIntents (nowTs : Int) (maxAttempts : Nat) (limit : Int) : List NotificationIntent :=
  (sortBy NotificationIntent.rank (outbox.intents.filter fun item =>
    outbox.Undelivered maxAttempts item ∧ item.notBeforeTs ≤ nowTs ∧
      outbox.RetryDue nowTs item.intentId)).take (max 1 limit).toNat

/-- `undelivered_intent_count`. -/
def undeliveredIntentCount (maxAttempts : Nat) : Nat :=
  outbox.intents.countP fun item => outbox.Undelivered maxAttempts item

end Outbox

end LiveStream.Dispatch

import LiveStream.Recovery.Evidence

/-! `AgentStore`: the audit log that is only appended to, and one row for each generation and
mode that was acted on. Every operation is one transaction. -/

namespace LiveStream.Recovery

open LiveStream.Support

inductive ActionMode where
  | dryRun | enforce
  deriving DecidableEq

inductive ActionState where
  | reserved | cancelledBeforeSend | dryRun | effectObserved | rejected | effectFailed
  | outcomeUnknown
  deriving DecidableEq

/-- The results of a verification; `RECOVERED` is a label of older agents. -/
inductive VerifyResult where
  | notExecuted | generationChangedUnattributed | deliveryResumed
  | deliveryResumedExecutionUnknown | outcomeUnresolved | notRecovered | selfRecovered
  | generationChangedWithoutAction | stillStalled | recovered
  deriving DecidableEq

/-- `_evidence`. -/
structure Evidence where
  generationKey : String
  observationId : String
  sequence : Int
  uptimeSec : Int
  streak : Nat
  tcp : Option TcpMetrics
  executorInstanceId : String
  deliveryRoute : Value
  transportBindingStatus : String
  transportBinding : Option Fields
  ingestEndpoint : Option Endpoint
  network : Option Network

structure Reservation where
  actionId : Nat
  generationKey : String
  mode : ActionMode
  requestId : String
  policyVersion : Nat
  evidence : Evidence

structure Verification where
  actionId : Nat
  result : VerifyResult
  observedGenerationKey : String
  executionState : ActionState
  sample : DeliverySample
  progressFrom : Option DeliverySample
  executorInstanceId : String
  observedAt : Instant
  uptimeSec : Int

/-- The kinds of audit records with their payloads. -/
inductive Payload where
  | decision (decision : Decision) (policyVersion : Nat) (mode : PolicyMode)
      (evidence : Option Evidence)
  | actionReserved (reservation : Reservation)
  | actionResult (actionId : Nat) (state : ActionState) (response : Response)
  | actionReconciled (actionId : Nat) (state : ActionState) (response : Response)
  | actionVerified (verification : Verification)
  | executorReconciliation (actionId : Nat) (result : String)
  | policyAdopted (version : Nat) (mode : PolicyMode)
  | policyRejected (reason : String)
  | heartbeat (policyVersion : Nat) (mode : PolicyMode)
  | agentStart
  | agentStop

structure AuditRecord where
  ts : Int
  payload : Payload

structure Action where
  id : Nat
  generationKey : String
  mode : ActionMode
  requestId : String
  policyVersion : Nat
  createdAt : Int
  bytesSentAtAction : Int
  state : ActionState
  response : Option Response
  verifyResult : Option VerifyResult
  verifiedAt : Option Int

/-- The response of a row, as `_verify` loads it. -/
def Action.loaded (action : Action) : Response := action.response.getD .empty

/-- The database of an agent. The sequence of a record is its place in the log, and the rows
have consecutive ids. `policy` is the cached policy, and `reconciled` the actions whose fence
was closed. -/
structure AgentStore where
  audit : List AuditRecord
  actions : List Action
  policy : Option Policy
  reconciled : List Nat

namespace AgentStore

def empty : AgentStore := ⟨[], [], none, []⟩

/-- `_append`. -/
def append (store : AgentStore) (now : Instant) (payload : Payload) : AgentStore :=
  { store with audit := store.audit ++ [⟨stamp now, payload⟩] }

/-- The row of a reservation. -/
def reserve (now : Instant) (bytesSent : Int) (reservation : Reservation) : Action where
  id := reservation.actionId
  generationKey := reservation.generationKey
  mode := reservation.mode
  requestId := reservation.requestId
  policyVersion := reservation.policyVersion
  createdAt := stamp now
  bytesSentAtAction := bytesSent
  state := .reserved
  response := none
  verifyResult := none
  verifiedAt := none

/-- A row with that generation and mode. -/
def claimed (store : AgentStore) (generationKey : String) (mode : ActionMode) : Bool :=
  store.actions.any fun action => action.generationKey = generationKey && action.mode = mode

/-- `reserve_action`; the row is refused if the generation is claimed in that mode. -/
def reserveAction (store : AgentStore) (now : Instant) (generationKey : String) (mode : ActionMode)
    (requestId : String) (policyVersion : Nat) (bytesSent : Int) (evidence : Evidence) :
    AgentStore × Option Nat :=
  if store.claimed generationKey mode then (store, none)
  else
    let reservation : Reservation :=
      ⟨store.actions.length + 1, generationKey, mode, requestId, policyVersion, evidence⟩
    ({ store with actions := store.actions ++ [reserve now bytesSent reservation] }.append now
      (.actionReserved reservation), some reservation.actionId)

/-- `UPDATE actions SET … WHERE id = ? AND …`. -/
def updateAction (store : AgentStore) (actionId : Nat) (condition : Action → Bool)
    (change : Action → Action) : AgentStore :=
  { store with
    actions := store.actions.map fun action =>
      if action.id = actionId && condition action then change action else action }

/-- `complete_action`. -/
def completeAction (store : AgentStore) (now : Instant) (actionId : Nat) (state : ActionState)
    (response : Response) : AgentStore :=
  (store.updateAction actionId (·.state = .reserved)
    fun action => { action with state, response := some response }).append now
      (.actionResult actionId state response)

/-- `record_verification`. -/
def recordVerification (store : AgentStore) (now : Instant) (verification : Verification) :
    AgentStore :=
  (store.updateAction verification.actionId (·.verifyResult.isNone) fun action =>
    { action with verifyResult := some verification.result, verifiedAt := some (stamp now) }).append
      now (.actionVerified verification)

/-- `reconcile_observed_action`. -/
def reconcileObservedAction (store : AgentStore) (now : Instant) (actionId : Nat)
    (response : Response) : AgentStore :=
  if store.actions.any fun action => action.id = actionId && action.state = .outcomeUnknown then
    (store.updateAction actionId (·.state = .outcomeUnknown)
      fun action => { action with state := .effectObserved, response := some response }).append now
        (.actionReconciled actionId .effectObserved response)
  else store

/-- `resumed_enforce_actions`. -/
def resumedEnforceActions (store : AgentStore) : List Action :=
  store.actions.filter fun action =>
    action.mode = .enforce && action.verifyResult = some .deliveryResumed

/-- `unverified_actions`. -/
def unverifiedActions (store : AgentStore) : List Action :=
  store.actions.filter (·.verifyResult.isNone)

/-- The rows of one mode. -/
def inMode (store : AgentStore) (mode : ActionMode) : List Action :=
  store.actions.filter (·.mode = mode)

/-- `SELECT MAX(created_at) FROM actions WHERE mode = ?`. -/
def lastCreated (store : AgentStore) (mode : ActionMode) : Option Int :=
  ((store.inMode mode).map (·.createdAt)).max?

/-- The rows since a span before now. -/
def countSince (store : AgentStore) (mode : ActionMode) (now : Instant) (span : Int) : Nat :=
  (store.inMode mode).countP fun action => stamp (now - span) ≤ action.createdAt

def HOUR : Int := 3600000000

def DAY : Int := 86400000000

/-- `history`. -/
def history (store : AgentStore) (now : Instant) (generationKey : String) (mode : ActionMode) :
    History where
  generationAlreadyActed := store.claimed generationKey mode
  lastActionAt := (store.lastCreated mode).map ofStamp
  actionsLastHour := store.countSince mode now HOUR
  actionsLastDay := store.countSince mode now DAY

/-- The record of a reconciliation of the executor; the key of the action is only put if it was
reconciled. -/
def closeFence (store : AgentStore) (now : Instant) (actionId : Nat) (done : Bool) : AgentStore :=
  { store with
    reconciled := if done then actionId :: store.reconciled else store.reconciled }.append now
      (.executorReconciliation actionId (if done then "RECONCILED" else "FAILED"))

/-- The end of `fetch_policy`: a candidate with a valid signature is adopted, or it is the
current one, or it is rejected, which is put on record once in a row (`repeated`). -/
def offerPolicy (store : AgentStore) (now : Instant) (candidate : Policy) (repeated : Bool) :
    AgentStore :=
  match adoptionError store.policy candidate with
  | some reason => if repeated then store else store.append now (.policyRejected reason)
  | none =>
    if store.policy = some candidate then store
    else
      { store with policy := some candidate }.append now
        (.policyAdopted candidate.version candidate.mode)

end AgentStore

end LiveStream.Recovery

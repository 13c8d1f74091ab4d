import LiveStream.Boundary.Request
import LiveStream.Support.Rows

/-! The tables of the effect ledger. Timestamps are milliseconds; integers are
unbounded, and a value that SQLite cannot store is refused where it is bound. -/

namespace LiveStream.Boundary

open LiveStream.Support

/-- The states of a request row and of its fence, and the state of a refusal. -/
inductive EffectState where
  | accepted | executionStarted | effectBoundaryReached | effectObserved | effectFailed
  | outcomeUnknown | effectObservedAwaitingVerification
  | reconciledEffectObserved | releasedNoEffect | retiredTargetOutcomeUnknown | rejected
  deriving DecidableEq

def EffectState.text : EffectState → String
  | .accepted => "ACCEPTED"
  | .executionStarted => "EXECUTION_STARTED"
  | .effectBoundaryReached => "EFFECT_BOUNDARY_REACHED"
  | .effectObserved => "EFFECT_OBSERVED"
  | .effectFailed => "EFFECT_FAILED"
  | .outcomeUnknown => "OUTCOME_UNKNOWN"
  | .effectObservedAwaitingVerification => "EFFECT_OBSERVED_AWAITING_VERIFICATION"
  | .reconciledEffectObserved => "RECONCILED_EFFECT_OBSERVED"
  | .releasedNoEffect => "RELEASED_NO_EFFECT"
  | .retiredTargetOutcomeUnknown => "RETIRED_TARGET_OUTCOME_UNKNOWN"
  | .rejected => "REJECTED"

/-- The fence states that keep every other effect out. -/
def EffectState.unresolved : EffectState → Bool
  | .accepted | .executionStarted | .effectBoundaryReached | .outcomeUnknown
  | .effectObservedAwaitingVerification => true
  | .effectObserved | .effectFailed | .reconciledEffectObserved | .releasedNoEffect
  | .retiredTargetOutcomeUnknown | .rejected => false

/-- The fence states that a reconciliation or a retirement concluded. -/
def EffectState.resolved : EffectState → Bool
  | .reconciledEffectObserved | .releasedNoEffect | .retiredTargetOutcomeUnknown => true
  | .accepted | .executionStarted | .effectBoundaryReached | .effectObserved | .effectFailed
  | .outcomeUnknown | .effectObservedAwaitingVerification | .rejected => false

/-- The row of `runtime_authority`. -/
structure Authority where
  producerId : String
  producerGeneration : Int
  authorityVersion : Nat
  projectionHighWater : Int
  updatedAt : Nat
  deriving DecidableEq

/-- A row of `typed_effect_requests`; columns that no query reads are left out. -/
structure TypedEffectRequest where
  requestId : String
  idempotencyKey : String
  requestDigest : RequestDigest
  producerId : String
  producerGeneration : Int
  operation : Operation
  correlationId : String
  identity : FenceIdentity
  requestJson : RequestFields
  state : EffectState
  resultJson : Option Fields
  acceptedAt : Nat
  executionStartedAt : Option Nat
  finishedAt : Option Nat

/-- A row of `effect_requests`, written before requests were typed. The target
is `none` where `target_identity_json` does not hold an exact target. -/
structure LegacyEffectRequest where
  requestId : String
  idempotencyKey : String
  requestDigest : RequestDigest
  correlationId : String
  target : Option TargetIdentity
  state : EffectState
  resultJson : Option Fields
  acceptedAt : Nat
  executionStartedAt : Option Nat
  finishedAt : Option Nat

/-- A row of `effect_scope_fences`. -/
structure EffectScopeFence where
  effectScopeId : ScopeId
  logicalGenerationScopeId : Option LogicalScopeId
  action : Operation
  identity : FenceIdentity
  ownerRequestId : String
  ownerRequestDigest : RequestDigest
  state : EffectState
  effectBoundaryReached : Bool
  physicalAttemptCount : Nat
  resultJson : Option Fields
  createdAt : Nat
  updatedAt : Nat

/-- The resolutions of `record_reconciliation`. -/
inductive Resolution where
  | effectObserved | noEffectProven | remainsUnknown
  deriving DecidableEq

def Resolution.text : Resolution → String
  | .effectObserved => "EFFECT_OBSERVED"
  | .noEffectProven => "NO_EFFECT_PROVEN"
  | .remainsUnknown => "REMAINS_UNKNOWN"

def Resolution.ofText? (text : String) : Option Resolution :=
  [Resolution.effectObserved, .noEffectProven, .remainsUnknown].find?
    fun resolution => resolution.text = text

/-- A row of `effect_reconciliations`; the digest is a digest of the evidence. -/
structure EffectReconciliation where
  reconciliationId : String
  effectScopeId : ScopeId
  resolution : Resolution
  evidence : Fields
  recordedAt : Nat

/-- A row of `effect_scope_retirements`. -/
structure EffectScopeRetirement where
  reconciliationId : String
  effectScopeId : ScopeId
  evidence : Fields
  recordedAt : Nat

/-- The ledger database. -/
structure EffectLedger where
  runtimeAuthority : Option Authority
  effectRequests : List LegacyEffectRequest
  typedEffectRequests : List TypedEffectRequest
  effectScopeFences : List EffectScopeFence
  effectReconciliations : List EffectReconciliation
  effectScopeRetirements : List EffectScopeRetirement

namespace EffectLedger

/-- A database file that was just created. -/
def empty : EffectLedger where
  runtimeAuthority := none
  effectRequests := []
  typedEffectRequests := []
  effectScopeFences := []
  effectReconciliations := []
  effectScopeRetirements := []

/-- The fence that a request owns; the owner is unique. -/
def fenceOf? (ledger : EffectLedger) (requestId : String) : Option EffectScopeFence :=
  ledger.effectScopeFences.find? fun fence => fence.ownerRequestId = requestId

/-- `scope`. -/
def scope (ledger : EffectLedger) (effectScopeId : ScopeId) : Option EffectScopeFence :=
  ledger.effectScopeFences.find? fun fence => fence.effectScopeId = effectScopeId

/-- The state of a request row, in either table. -/
def requestState? (ledger : EffectLedger) (requestId : String) : Option EffectState :=
  ((ledger.typedEffectRequests.find? fun row => row.requestId = requestId).map (·.state)).or
    ((ledger.effectRequests.find? fun row => row.requestId = requestId).map (·.state))

end EffectLedger

/-- Whether a request with its joined fence counts as unresolved. -/
def countsUnresolved (requestState : EffectState) (fence : Option EffectScopeFence) : Bool :=
  (requestState = .accepted || requestState = .executionStarted ||
      requestState = .outcomeUnknown ||
      (requestState = .effectObserved &&
        fence.any fun fence => fence.state = .effectObservedAwaitingVerification)) &&
    !(fence.any fun fence => fence.state.resolved)

/-- `unresolved_count`: both request tables, left-joined with the fences. -/
def EffectLedger.unresolvedCount (ledger : EffectLedger) : Nat :=
  ledger.effectRequests.countP
      (fun row => countsUnresolved row.state (ledger.fenceOf? row.requestId)) +
    ledger.typedEffectRequests.countP
      (fun row => countsUnresolved row.state (ledger.fenceOf? row.requestId))

/-- `unresolved_scopes`, oldest first; fences of one instant keep their table order. -/
def EffectLedger.unresolvedScopes (ledger : EffectLedger) : List EffectScopeFence :=
  (ledger.effectScopeFences.filter (·.state.unresolved)).insertionSort
    fun left right => left.createdAt ≤ right.createdAt

end LiveStream.Boundary

import LiveStream.Boundary.Ledger

/-! Opening a ledger database: the migrations of `_migrate`, the two backfills
and `reconcile_started`. -/

namespace LiveStream.Boundary

open LiveStream.Support

/-- One fence that `_backfill_effect_scope_fences` re-derives from a request. -/
structure BackfillCandidate where
  effectScopeId : ScopeId
  action : Operation
  identity : FenceIdentity
  requestId : String
  requestDigest : RequestDigest
  boundary : Bool
  resultJson : Option Fields
  state : EffectState

/-- `except (KeyError, TypeError, ValueError): continue`. -/
def skipsRow : ErrorKind → Bool
  | .key | .type | .value => true
  | .attribute | .overflow | .os | .runtime | .database | .interrupt => false

/-- The candidate of a request row. The scope id is computed outside the `try`. -/
def TypedEffectRequest.candidate (row : TypedEffectRequest) :
    Except PyError (Option BackfillCandidate) :=
  match EffectRequest.fromMapping row.requestJson with
  | .error error => if skipsRow error.kind then .ok none else .error error
  | .ok request =>
    request.effectScopeId.map fun effectScopeId => some
      { effectScopeId
        action := row.operation
        identity := row.identity
        requestId := row.requestId
        requestDigest := row.requestDigest
        boundary := row.state ≠ .accepted
        resultJson := row.resultJson
        state := row.state }

/-- The candidate of a legacy row; a target without a scope id is skipped. -/
def LegacyEffectRequest.candidate (row : LegacyEffectRequest) : Option BackfillCandidate :=
  row.target.bind fun target =>
    target.effectScopeId.toOption.map fun effectScopeId =>
      { effectScopeId
        action := .restartFfmpeg
        identity := .target target
        requestId := row.requestId
        requestDigest := row.requestDigest
        boundary := row.state ≠ .accepted
        resultJson := row.resultJson
        state := row.state }

/-- The rows of both tables, oldest first in each. -/
def EffectLedger.backfillCandidates (ledger : EffectLedger) :
    Except PyError (List BackfillCandidate) := do
  let typed ← (ledger.typedEffectRequests.insertionSort
    fun left right => left.acceptedAt ≤ right.acceptedAt).mapM (·.candidate)
  let legacy := (ledger.effectRequests.insertionSort
    fun left right => left.acceptedAt ≤ right.acceptedAt).filterMap (·.candidate)
  return typed.reduceOption ++ legacy

def BackfillCandidate.fence (candidate : BackfillCandidate) (now : Nat) : EffectScopeFence where
  effectScopeId := candidate.effectScopeId
  logicalGenerationScopeId := none
  action := candidate.action
  identity := candidate.identity
  ownerRequestId := candidate.requestId
  ownerRequestDigest := candidate.requestDigest
  state := candidate.state
  effectBoundaryReached := candidate.boundary
  physicalAttemptCount := if candidate.boundary then 1 else 0
  resultJson := candidate.resultJson
  createdAt := now
  updatedAt := now

/-- The update for a request that is no longer `ACCEPTED`: its attempt is spent. -/
def EffectScopeFence.consumed (fence : EffectScopeFence) (now : Nat) : EffectScopeFence :=
  { fence with
    effectBoundaryReached := true
    physicalAttemptCount := 1
    state := if fence.state = .accepted then .outcomeUnknown else fence.state
    updatedAt := now }

/-- `INSERT OR IGNORE`, then the update of a spent candidate. -/
def backfillFence (now : Nat) (fences : List EffectScopeFence) (candidate : BackfillCandidate) :
    List EffectScopeFence :=
  let present :=
    if fences.any fun fence => fence.effectScopeId = candidate.effectScopeId ||
        fence.ownerRequestId = candidate.requestId then fences
    else fences ++ [candidate.fence now]
  if candidate.boundary then
    updateWhere (fun fence => fence.effectScopeId = candidate.effectScopeId) (·.consumed now)
      present
  else present

/-- `_backfill_effect_scope_fences`. -/
def EffectLedger.backfillEffectScopeFences (ledger : EffectLedger) (now : Nat) :
    EffectLedger × Except PyError Unit :=
  match ledger.backfillCandidates with
  | .error error => (ledger, .error error)
  | .ok candidates =>
    ({ ledger with
        effectScopeFences := candidates.foldl (backfillFence now) ledger.effectScopeFences },
      .ok ())

def Operation.isDelivery : Operation → Bool
  | .restartFfmpeg | .switchStreamRoute => true
  | .reconcileFfmpeg | .escalateRuntimeRecovery => false

/-- The generation that a fence belongs to, and the owner it records for it. -/
def EffectScopeFence.generation? (fence : EffectScopeFence) :
    Option (LogicalScopeId × ScopeId × FenceIdentity) :=
  match fence.action.isDelivery, fence.identity with
  | true, .target target =>
    some (target.logicalGenerationScopeId, fence.effectScopeId, fence.identity)
  | _, _ => none

/-- The check that no generation has two owners. -/
def checkGenerations (owners : List (LogicalScopeId × ScopeId × FenceIdentity)) :
    List (LogicalScopeId × ScopeId × FenceIdentity) → Except PyError Unit
  | [] => .ok ()
  | (logicalId, owner) :: rest =>
    if (owners.lookup logicalId).any (· ≠ owner) then
      .error (runtimeError "RUNTIME_LOGICAL_GENERATION_PID_INVARIANT_BROKEN")
    else checkGenerations ((logicalId, owner) :: owners) rest

/-- `UPDATE … WHERE effect_scope_id=? AND logical_generation_scope_id IS NULL`, one
statement a row, under the unique index on the generation. -/
def assignGenerations (fences : List EffectScopeFence) :
    List (LogicalScopeId × ScopeId × FenceIdentity) →
      List EffectScopeFence × Except PyError Unit
  | [] => (fences, .ok ())
  | (logicalId, effectScopeId, _) :: rest =>
    let hit : EffectScopeFence → Bool := fun fence =>
      fence.effectScopeId = effectScopeId && fence.logicalGenerationScopeId = none
    if fences.any hit && fences.any (fun fence =>
        fence.logicalGenerationScopeId = some logicalId) then
      (fences, .error (integrityError "UNIQUE constraint failed: effect_scope_fences"))
    else
      assignGenerations
        (updateWhere hit (fun fence => { fence with logicalGenerationScopeId := some logicalId })
          fences) rest

def EffectLedger.plannedGenerations (ledger : EffectLedger) :
    List (LogicalScopeId × ScopeId × FenceIdentity) :=
  (ledger.effectScopeFences.insertionSort
    fun left right => left.createdAt ≤ right.createdAt).filterMap (·.generation?)

/-- `_backfill_logical_generation_scopes`. -/
def EffectLedger.backfillLogicalGenerationScopes (ledger : EffectLedger) :
    EffectLedger × Except PyError Unit :=
  match checkGenerations [] ledger.plannedGenerations with
  | .error error => (ledger, .error error)
  | .ok () =>
    let (fences, outcome) := assignGenerations ledger.effectScopeFences ledger.plannedGenerations
    ({ ledger with effectScopeFences := fences }, outcome)

/-- `INSERT OR IGNORE INTO runtime_authority`: a row that is there stays, and a row
that the check on the generation refuses is not inserted. -/
def EffectLedger.insertAuthority (ledger : EffectLedger) (producerId : String)
    (generation : Int) (now : Nat) : EffectLedger :=
  { ledger with
    runtimeAuthority := ledger.runtimeAuthority.or
      (if 0 < generation then some ⟨producerId, generation, 1, 0, now⟩ else none) }

def TypedEffectRequest.restarted (row : TypedEffectRequest) (now : Nat) : TypedEffectRequest :=
  { row with state := .outcomeUnknown, finishedAt := some now }

def LegacyEffectRequest.restarted (row : LegacyEffectRequest) (now : Nat) :
    LegacyEffectRequest :=
  { row with state := .outcomeUnknown, finishedAt := some now }

def EffectScopeFence.restarted (fence : EffectScopeFence) (now : Nat) : EffectScopeFence :=
  { fence with state := .outcomeUnknown, updatedAt := now }

/-- The fence states that `reconcile_started` gives up on. -/
def EffectState.interrupted : EffectState → Bool
  | .accepted | .executionStarted | .effectBoundaryReached => true
  | .effectObserved | .effectFailed | .outcomeUnknown | .effectObservedAwaitingVerification
  | .reconciledEffectObserved | .releasedNoEffect | .retiredTargetOutcomeUnknown
  | .rejected => false

/-- `reconcile_started`: what was running when the process ended has an unknown outcome. -/
def EffectLedger.reconcileStarted (ledger : EffectLedger) (now : Nat) : EffectLedger :=
  let effectRequests := updateWhere (fun row => row.state = .executionStarted)
    (LegacyEffectRequest.restarted · now) ledger.effectRequests
  let typedEffectRequests := updateWhere (fun row => row.state = .executionStarted)
    (TypedEffectRequest.restarted · now) ledger.typedEffectRequests
  let unknownOwner : String → Bool := fun requestId =>
    typedEffectRequests.any (fun row => row.requestId = requestId && row.state = .outcomeUnknown) ||
      effectRequests.any (fun row => row.requestId = requestId && row.state = .outcomeUnknown)
  { ledger with
    effectRequests
    typedEffectRequests
    effectScopeFences :=
      updateWhere (fun fence => unknownOwner fence.ownerRequestId && fence.state.interrupted)
        (EffectScopeFence.restarted · now) ledger.effectScopeFences }

/-- The last steps of the constructor, after the fences are backfilled. -/
def EffectLedger.finishOpening (ledger : EffectLedger) (now : Nat) :
    EffectLedger × Except PyError Unit :=
  match ledger.backfillLogicalGenerationScopes with
  | (assigned, .error error) => (assigned, .error error)
  | (assigned, .ok ()) =>
    if (assigned.effectScopeFences.filterMap (·.logicalGenerationScopeId)).Nodup then
      (assigned.reconcileStarted now, .ok ())
    else (assigned, .error (integrityError "UNIQUE constraint failed: effect_scope_fences"))

/-- The constructor on a database file: every statement commits on its own, so an
exception keeps what came before it. -/
def EffectLedger.reopen (ledger : EffectLedger) (producerId : String) (generation : Int)
    (now : Nat) : EffectLedger × Except PyError Unit :=
  if maxSqliteInteger < generation ∨ generation < -maxSqliteInteger - 1 then
    (ledger, .error sqliteOverflow)
  else
    match (ledger.insertAuthority producerId generation now).backfillEffectScopeFences now with
    | (backfilled, .error error) => (backfilled, .error error)
    | (backfilled, .ok ()) => backfilled.finishOpening now

end LiveStream.Boundary

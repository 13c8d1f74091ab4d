import LiveStream.Boundary.RoundTrip
import LiveStream.Boundary.Startup

/-! What the ledger is for: a list of effects, each one request with the fence
it owns. An effect keeps the request it was admitted for, so its two rows agree
by construction, and every operation moves the effects one by one. -/

namespace LiveStream.Boundary

open LiveStream.Support

/-- A request together with its fence. -/
structure Effect where
  source : ParsedRequest
  scopeId : ScopeId
  derived : source.1.effectScopeId = .ok scopeId
  admittedAt : Nat
  state : EffectState
  result : Option Fields
  startedAt : Option Nat
  finishedAt : Option Nat
  fenceState : EffectState
  attempted : Bool
  fenceResult : Option Fields
  updatedAt : Nat

namespace Effect

def requestId (effect : Effect) : String := effect.source.1.requestId

def idempotencyKey (effect : Effect) : String := effect.source.1.idempotencyKey

def generationId (effect : Effect) : Option LogicalScopeId :=
  effect.source.1.logicalGenerationScopeId

/-- The request row of the effect. -/
def request (effect : Effect) : TypedEffectRequest :=
  { TypedEffectRequest.admitted effect.source.1 effect.admittedAt with
    state := effect.state
    resultJson := effect.result
    executionStartedAt := effect.startedAt
    finishedAt := effect.finishedAt }

/-- The fence row of the effect. -/
def fence (effect : Effect) : EffectScopeFence :=
  { EffectScopeFence.admitted effect.source.1 effect.scopeId effect.admittedAt with
    state := effect.fenceState
    effectBoundaryReached := effect.attempted
    physicalAttemptCount := if effect.attempted then 1 else 0
    resultJson := effect.fenceResult
    updatedAt := effect.updatedAt }

@[simp] theorem request_requestId (effect : Effect) :
    effect.request.requestId = effect.requestId := rfl

@[simp] theorem request_state (effect : Effect) : effect.request.state = effect.state := rfl

@[simp] theorem fence_ownerRequestId (effect : Effect) :
    effect.fence.ownerRequestId = effect.requestId := rfl

@[simp] theorem fence_effectScopeId (effect : Effect) :
    effect.fence.effectScopeId = effect.scopeId := rfl

@[simp] theorem fence_logicalGenerationScopeId (effect : Effect) :
    effect.fence.logicalGenerationScopeId = effect.generationId := rfl

@[simp] theorem fence_state (effect : Effect) : effect.fence.state = effect.fenceState := rfl

/-- An effect that was just admitted. -/
def admitted (source : ParsedRequest) (scopeId : ScopeId)
    (derived : source.1.effectScopeId = .ok scopeId) (now : Nat) : Effect where
  source := source
  scopeId := scopeId
  derived := derived
  admittedAt := now
  state := .accepted
  result := none
  startedAt := none
  finishedAt := none
  fenceState := .accepted
  attempted := false
  fenceResult := none
  updatedAt := now

theorem request_admitted (source : ParsedRequest) (scopeId : ScopeId)
    (derived : source.1.effectScopeId = .ok scopeId) (now : Nat) :
    (admitted source scopeId derived now).request = .admitted source.1 now := rfl

theorem fence_admitted (source : ParsedRequest) (scopeId : ScopeId)
    (derived : source.1.effectScopeId = .ok scopeId) (now : Nat) :
    (admitted source scopeId derived now).fence = .admitted source.1 scopeId now := rfl

end Effect

/-- How the executor ends an effect: the pairs of states it writes. -/
inductive Ending where
  | observed | awaitingVerification | failed | unknown
  deriving DecidableEq

def Ending.state : Ending → EffectState
  | .observed | .awaitingVerification => .effectObserved
  | .failed => .effectFailed
  | .unknown => .outcomeUnknown

/-- The `scope_state` argument that goes with the ending. -/
def Ending.scopeState : Ending → Option EffectState
  | .observed => some .effectObserved
  | .awaitingVerification => some .effectObservedAwaitingVerification
  | .failed | .unknown => none

def Ending.fenceState (ending : Ending) : EffectState := ending.scopeState.getD ending.state

/-- The operations that clients, the executor and its restarts apply to the ledger. -/
inductive LedgerOp where
  | accept (request : ParsedRequest)
  | start (requestId : String)
  | finish (requestId : String) (ending : Ending) (result : Option Fields)
  | markEffectBoundary (requestId : String)
  | recordReconciliation (arguments : ReconciliationRequest)
  | recordTargetRetirement (arguments : RetirementRequest)
  | switchAuthority (arguments : Handoff)
  | reopen (producerId : String) (generation : Int)

inductive LedgerReply where
  | accepted (reply : AcceptReply)
  | updated (hit : Bool)
  | reconciled (reply : ReconciliationReply)
  | handedOff (decision : HandoffDecision)
  | opened

/-- `transition` from `ACCEPTED` to `EXECUTION_STARTED`. -/
def startTransition (requestId : String) : Transition :=
  ⟨requestId, .accepted, .executionStarted, none, none⟩

/-- `transition` from `EXECUTION_STARTED` to an ending. -/
def finishTransition (requestId : String) (ending : Ending) (result : Option Fields) :
    Transition :=
  ⟨requestId, .executionStarted, ending.state, result, ending.scopeState⟩

/-- One operation at one time. -/
def EffectLedger.step (ledger : EffectLedger) (event : LedgerOp × Nat) :
    EffectLedger × Except PyError LedgerReply :=
  match event.1 with
  | .accept request => (ledger.accept request.1 event.2).map id (·.map .accepted)
  | .start requestId =>
    (ledger.transition (startTransition requestId) event.2).map id (·.map .updated)
  | .finish requestId ending result =>
    (ledger.transition (finishTransition requestId ending result) event.2).map id
      (·.map .updated)
  | .markEffectBoundary requestId =>
    (ledger.markEffectBoundary requestId event.2).map id (·.map .updated)
  | .recordReconciliation arguments =>
    (ledger.recordReconciliation arguments event.2).map id (·.map .reconciled)
  | .recordTargetRetirement arguments =>
    (ledger.recordTargetRetirement arguments event.2).map id (·.map .reconciled)
  | .switchAuthority arguments =>
    (ledger.switchAuthority arguments event.2).map id (·.map .handedOff)
  | .reopen producerId generation =>
    (ledger.reopen producerId generation event.2).map id (·.map fun _ => .opened)

namespace Effect

def started (effect : Effect) (now : Nat) : Effect :=
  { effect with
    state := .executionStarted
    result := none
    startedAt := some now
    fenceState := .executionStarted
    updatedAt := now }

def finished (effect : Effect) (ending : Ending) (result : Option Fields) (now : Nat) : Effect :=
  { effect with
    state := ending.state
    result := result
    finishedAt := some now
    fenceState := ending.fenceState
    fenceResult := result.or effect.fenceResult
    updatedAt := now }

def reserved (effect : Effect) (now : Nat) : Effect :=
  { effect with fenceState := .effectBoundaryReached, attempted := true, updatedAt := now }

/-- The fence concluded as `state`, with the attempt count that the conclusion fixes. -/
def concluded (effect : Effect) (state : EffectState) (attempted : Bool) (evidence : Fields)
    (now : Nat) : Effect :=
  { effect with
    fenceState := state, attempted, fenceResult := some evidence, updatedAt := now }

def reconciled (effect : Effect) (resolution : Resolution) (evidence : Fields) (now : Nat) :
    Effect :=
  match resolution with
  | .effectObserved => effect.concluded .reconciledEffectObserved true evidence now
  | .noEffectProven => effect.concluded .releasedNoEffect false evidence now
  | .remainsUnknown => effect

/-- The backfill of a request that is no longer `ACCEPTED`. -/
def consumed (effect : Effect) (now : Nat) : Effect :=
  if effect.state = .accepted then effect
  else
    { effect with
      attempted := true
      fenceState := if effect.fenceState = .accepted then .outcomeUnknown else effect.fenceState
      updatedAt := now }

/-- The interrupted request and then its interrupted fence become unknown. -/
def restarted (effect : Effect) (now : Nat) : Effect :=
  if effect.state = .executionStarted then
    if effect.fenceState.interrupted then
      { effect with
        state := .outcomeUnknown, finishedAt := some now
        fenceState := .outcomeUnknown, updatedAt := now }
    else { effect with state := .outcomeUnknown, finishedAt := some now }
  else if effect.state = .outcomeUnknown ∧ effect.fenceState.interrupted then
    { effect with fenceState := .outcomeUnknown, updatedAt := now }
  else effect

/-- What opening the database does to an effect. -/
def reopened (effect : Effect) (now : Nat) : Effect := (effect.consumed now).restarted now

end Effect

/-- What an operation does to one effect when it succeeds. -/
def LedgerOp.move (op : LedgerOp) (now : Nat) (effect : Effect) : Effect :=
  match op with
  | .accept _ | .switchAuthority _ => effect
  | .start requestId =>
    if effect.requestId = requestId ∧ effect.state = .accepted then effect.started now else effect
  | .finish requestId ending result =>
    if effect.requestId = requestId ∧ effect.state = .executionStarted then
      effect.finished ending result now
    else effect
  | .markEffectBoundary requestId =>
    if effect.requestId = requestId ∧ effect.fenceState = .executionStarted ∧
        effect.attempted = false then effect.reserved now
    else effect
  | .recordReconciliation arguments =>
    match Resolution.ofText? arguments.resolution with
    | some resolution =>
      if effect.scopeId = arguments.effectScopeId ∧ effect.fenceState.unresolved = true then
        effect.reconciled resolution arguments.evidence now
      else effect
    | none => effect
  | .recordTargetRetirement arguments =>
    if effect.scopeId = arguments.effectScopeId ∧
        effect.fence.retirable arguments.evidence = true ∧ effect.attempted = true then
      effect.concluded .retiredTargetOutcomeUnknown true arguments.evidence now
    else effect
  | .reopen _ _ => effect.reopened now

theorem Effect.consumed_source (effect : Effect) (now : Nat) :
    (effect.consumed now).source = effect.source ∧
      (effect.consumed now).scopeId = effect.scopeId := by
  unfold Effect.consumed
  split <;> exact ⟨rfl, rfl⟩

theorem Effect.restarted_source (effect : Effect) (now : Nat) :
    (effect.restarted now).source = effect.source ∧
      (effect.restarted now).scopeId = effect.scopeId := by
  unfold Effect.restarted
  split_ifs <;> exact ⟨rfl, rfl⟩

theorem Effect.reopened_source (effect : Effect) (now : Nat) :
    (effect.reopened now).source = effect.source ∧
      (effect.reopened now).scopeId = effect.scopeId := by
  have ⟨restartedSource, restartedScope⟩ := (effect.consumed now).restarted_source now
  have ⟨consumedSource, consumedScope⟩ := effect.consumed_source now
  exact ⟨restartedSource.trans consumedSource, restartedScope.trans consumedScope⟩

/-- A move keeps what the effect was admitted for. -/
theorem LedgerOp.move_source (op : LedgerOp) (now : Nat) (effect : Effect) :
    (op.move now effect).source = effect.source ∧
      (op.move now effect).scopeId = effect.scopeId := by
  cases op with
  | accept _ | switchAuthority _ => exact ⟨rfl, rfl⟩
  | start _ | finish _ _ _ | markEffectBoundary _ | recordTargetRetirement _ =>
    simp only [LedgerOp.move]
    split <;> exact ⟨rfl, rfl⟩
  | recordReconciliation arguments =>
    simp only [LedgerOp.move]
    split
    · rename_i resolution _
      split
      · cases resolution <;> exact ⟨rfl, rfl⟩
      · exact ⟨rfl, rfl⟩
    · exact ⟨rfl, rfl⟩
  | reopen _ _ => exact effect.reopened_source now

@[simp] theorem LedgerOp.move_requestId (op : LedgerOp) (now : Nat) (effect : Effect) :
    (op.move now effect).requestId = effect.requestId := by
  simp [Effect.requestId, (op.move_source now effect).1]

@[simp] theorem LedgerOp.move_idempotencyKey (op : LedgerOp) (now : Nat) (effect : Effect) :
    (op.move now effect).idempotencyKey = effect.idempotencyKey := by
  simp [Effect.idempotencyKey, (op.move_source now effect).1]

@[simp] theorem LedgerOp.move_generationId (op : LedgerOp) (now : Nat) (effect : Effect) :
    (op.move now effect).generationId = effect.generationId := by
  simp [Effect.generationId, (op.move_source now effect).1]

@[simp] theorem LedgerOp.move_scopeId (op : LedgerOp) (now : Nat) (effect : Effect) :
    (op.move now effect).scopeId = effect.scopeId :=
  (op.move_source now effect).2

/-- The pairs of a request state and a fence state that operations can produce. -/
def phaseAllowed : EffectState → EffectState → Bool
  | .accepted, fence =>
    fence = .accepted || fence = .reconciledEffectObserved || fence = .releasedNoEffect
  | .executionStarted, fence =>
    fence = .executionStarted || fence = .effectBoundaryReached || fence.resolved
  | .effectObserved, fence =>
    fence = .effectObserved || fence = .effectObservedAwaitingVerification || fence.resolved
  | .effectFailed, fence => fence = .effectFailed
  | .outcomeUnknown, fence => fence = .outcomeUnknown || fence.resolved
  | .effectBoundaryReached, _ | .effectObservedAwaitingVerification, _
  | .reconciledEffectObserved, _ | .releasedNoEffect, _ | .retiredTargetOutcomeUnknown, _
  | .rejected, _ => false

/-- The fence states that only follow a physical attempt. -/
def EffectState.implyAttempt : EffectState → Bool
  | .effectBoundaryReached | .reconciledEffectObserved | .retiredTargetOutcomeUnknown => true
  | .accepted | .executionStarted | .effectObserved | .effectFailed | .outcomeUnknown
  | .effectObservedAwaitingVerification | .releasedNoEffect | .rejected => false

/-- The states and the attempt count of an effect agree. -/
structure Effect.Phase (effect : Effect) : Prop where
  allowed : phaseAllowed effect.state effect.fenceState = true
  attempt : effect.fenceState.implyAttempt = true → effect.attempted = true

theorem Effect.Phase.admitted {source : ParsedRequest} {scopeId : ScopeId}
    {derived : source.1.effectScopeId = .ok scopeId} {now : Nat} :
    (Effect.admitted source scopeId derived now).Phase :=
  ⟨rfl, fun impossible => by cases impossible⟩

private theorem phaseAllowed_resolved {request fence : EffectState}
    (allowed : phaseAllowed request fence = true) (open_ : fence.unresolved = true) :
    phaseAllowed request .reconciledEffectObserved = true ∧
      phaseAllowed request .releasedNoEffect = true ∧
      (fence ≠ .accepted → phaseAllowed request .retiredTargetOutcomeUnknown = true) := by
  revert allowed open_
  cases request <;> cases fence <;> decide

private theorem phase_concluded {effect : Effect} (phase : effect.Phase) {state : EffectState}
    {attempted : Bool} (evidence : Fields) (now : Nat) (open_ : effect.fenceState.unresolved = true)
    (resolved : state.resolved = true) (attempt : state.implyAttempt = true → attempted = true)
    (eligible : state = .retiredTargetOutcomeUnknown → effect.fenceState ≠ .accepted) :
    (effect.concluded state attempted evidence now).Phase := by
  have ⟨reconciled, released, retired⟩ := phaseAllowed_resolved phase.allowed open_
  refine ⟨?_, attempt⟩
  change phaseAllowed effect.state state = true
  cases state with
  | reconciledEffectObserved => exact reconciled
  | releasedNoEffect => exact released
  | retiredTargetOutcomeUnknown => exact retired (eligible rfl)
  | accepted | executionStarted | effectBoundaryReached | effectObserved | effectFailed
  | outcomeUnknown | effectObservedAwaitingVerification | rejected => cases resolved

/-- A target only retires from a fence that is open and past its admission. -/
theorem EffectScopeFence.state_of_retirable {fence : EffectScopeFence} {evidence : Fields}
    (retirable : fence.retirable evidence = true) :
    fence.state.unresolved = true ∧ fence.state ≠ .accepted := by
  unfold EffectScopeFence.retirable at retirable
  split at retirable
  · simp [of_decide_eq_true retirable, EffectState.unresolved]
  · simp only [Bool.or_eq_true, decide_eq_true_eq] at retirable
    rcases retirable with (state | state) | state <;> simp [state, EffectState.unresolved]

/-- A fence is only `ACCEPTED` while its request is. -/
theorem Effect.Phase.fence_ne_accepted {effect : Effect} (phase : effect.Phase)
    (moved : effect.state ≠ .accepted) : effect.fenceState ≠ .accepted := by
  intro fence
  have allowed := phase.allowed
  rw [fence] at allowed
  cases request : effect.state <;> simp_all [phaseAllowed, EffectState.resolved]

/-- A fence is only interrupted while its request is `ACCEPTED` or running. -/
theorem Effect.Phase.state_of_interrupted {effect : Effect} (phase : effect.Phase)
    (interrupted : effect.fenceState.interrupted = true) :
    effect.state = .accepted ∨ effect.state = .executionStarted := by
  have allowed := phase.allowed
  revert allowed interrupted
  generalize effect.state = request
  generalize effect.fenceState = fence
  cases request <;> cases fence <;> decide

@[simp] theorem Effect.consumed_state (effect : Effect) (now : Nat) :
    (effect.consumed now).state = effect.state := by
  unfold Effect.consumed
  split <;> rfl

theorem Effect.consumed_attempted (effect : Effect) (now : Nat) :
    (effect.consumed now).attempted =
      if effect.state = .accepted then effect.attempted else true := by
  unfold Effect.consumed
  split <;> rfl

theorem Effect.consumed_fenceState {effect : Effect} (phase : effect.Phase) (now : Nat) :
    (effect.consumed now).fenceState = effect.fenceState := by
  unfold Effect.consumed
  split
  · rfl
  · rename_i moved
    exact if_neg (phase.fence_ne_accepted moved)

@[simp] theorem Effect.restarted_attempted (effect : Effect) (now : Nat) :
    (effect.restarted now).attempted = effect.attempted := by
  unfold Effect.restarted
  split_ifs <;> rfl

theorem Effect.restarted_state (effect : Effect) (now : Nat) :
    (effect.restarted now).state =
      if effect.state = .executionStarted then .outcomeUnknown else effect.state := by
  unfold Effect.restarted
  split_ifs <;> rfl

theorem Effect.restarted_fenceState (effect : Effect) (now : Nat) :
    (effect.restarted now).fenceState =
      if (effect.state = .executionStarted ∨ effect.state = .outcomeUnknown) ∧
        effect.fenceState.interrupted = true then .outcomeUnknown else effect.fenceState := by
  unfold Effect.restarted
  split_ifs <;> simp_all

theorem Effect.Phase.consumed {effect : Effect} (phase : effect.Phase) (now : Nat) :
    (effect.consumed now).Phase := by
  refine ⟨by rw [Effect.consumed_state, Effect.consumed_fenceState phase]; exact phase.allowed, ?_⟩
  rw [Effect.consumed_fenceState phase, Effect.consumed_attempted]
  split
  · exact phase.attempt
  · exact fun _ => rfl

theorem Effect.Phase.restarted {effect : Effect} (phase : effect.Phase) (now : Nat) :
    (effect.restarted now).Phase := by
  have allowed := phase.allowed
  unfold Effect.restarted
  split_ifs with running interrupted interrupted
  · exact ⟨rfl, fun impossible => by cases impossible⟩
  · refine ⟨?_, phase.attempt⟩
    rw [running] at allowed
    cases fence : effect.fenceState <;>
      simp_all [phaseAllowed, EffectState.interrupted, EffectState.resolved]
  · exact ⟨by simp [interrupted.1, phaseAllowed], fun impossible => by cases impossible⟩
  · exact phase

/-- Opening the database ends what was running and spends the attempt of every
request that is no longer `ACCEPTED`. -/
theorem Effect.Phase.reopened_states {effect : Effect} (phase : effect.Phase) (now : Nat) :
    (effect.reopened now).state =
        (if effect.state = .executionStarted then .outcomeUnknown else effect.state) ∧
      (effect.reopened now).fenceState =
        (if effect.state = .executionStarted ∧ effect.fenceState.interrupted = true then
          .outcomeUnknown else effect.fenceState) ∧
      (effect.reopened now).attempted =
        (if effect.state = .accepted then effect.attempted else true) := by
  unfold Effect.reopened
  refine ⟨by rw [Effect.restarted_state, Effect.consumed_state], ?_,
    by rw [Effect.restarted_attempted, Effect.consumed_attempted]⟩
  rw [Effect.restarted_fenceState, Effect.consumed_state, Effect.consumed_fenceState phase]
  refine if_congr ⟨fun both => ⟨?_, both.2⟩, fun both => ⟨.inl both.1, both.2⟩⟩ rfl rfl
  rcases both.1 with running | unknown
  · exact running
  · rcases phase.state_of_interrupted both.2 with accepted | running
    · rw [unknown] at accepted
      cases accepted
    · exact running

/-- Every move of a coherent effect leaves it coherent. -/
theorem LedgerOp.move_phase (op : LedgerOp) (now : Nat) {effect : Effect} (phase : effect.Phase) :
    (op.move now effect).Phase := by
  cases op with
  | accept _ | switchAuthority _ => exact phase
  | start requestId =>
    simp only [LedgerOp.move]
    split
    · exact ⟨rfl, fun impossible => by cases impossible⟩
    · exact phase
  | finish requestId ending result =>
    simp only [LedgerOp.move]
    split
    · cases ending <;> exact ⟨rfl, fun impossible => by cases impossible⟩
    · exact phase
  | markEffectBoundary requestId =>
    simp only [LedgerOp.move]
    split
    · rename_i hit
      refine ⟨?_, fun _ => rfl⟩
      have allowed := phase.allowed
      change phaseAllowed effect.state .effectBoundaryReached = true
      rw [hit.2.1] at allowed
      cases request : effect.state <;> simp_all [phaseAllowed, EffectState.resolved]
    · exact phase
  | recordReconciliation arguments =>
    simp only [LedgerOp.move]
    split
    · rename_i resolution _
      split
      · rename_i hit
        cases resolution with
        | effectObserved =>
          exact phase_concluded phase _ now hit.2 rfl (fun _ => rfl) (by simp)
        | noEffectProven =>
          exact phase_concluded phase _ now hit.2 rfl (fun impossible => by cases impossible)
            (by simp)
        | remainsUnknown => exact phase
      · exact phase
    · exact phase
  | recordTargetRetirement arguments =>
    simp only [LedgerOp.move]
    split
    · rename_i hit
      have ⟨unresolved, claimed⟩ := EffectScopeFence.state_of_retirable hit.2.1
      exact phase_concluded phase _ now unresolved rfl (fun _ => rfl) fun _ => claimed
    · exact phase
  | reopen _ _ => exact (phase.consumed now).restarted now

end LiveStream.Boundary

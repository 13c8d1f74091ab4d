import LiveStream.Boundary.ResolvedFences
import LiveStream.Boundary.Unresolved

/-! What `effect_safety` exports about the ledger. It counts the fences that are in none of
three terminal states, and `EFFECT_OBSERVED` is not one of the three. -/

namespace LiveStream.Boundary

open LiveStream.Support

mutual

/-- Whether RFC 8785 canonicalization accepts a value, and what it raises where not. -/
def checkCanonical : Value → Except PyError Unit
  | .none | .bool _ | .str _ | .float (.finite _) => .ok ()
  | .int number =>
    rejectIf (maxCanonicalInteger < number ∨ number < -maxCanonicalInteger)
      (valueError "IntegerDomainError")
  | .float .posInf | .float .negInf | .float .nan => .error (valueError "FloatDomainError")
  | .list items => checkCanonicalItems items
  | .dict fields => checkCanonicalFields fields
  | .foreign => .error (valueError "CanonicalizationError")

def checkCanonicalItems : List Value → Except PyError Unit
  | [] => .ok ()
  | item :: rest => do
    checkCanonical item
    checkCanonicalItems rest

def checkCanonicalFields : List (String × Value) → Except PyError Unit
  | [] => .ok ()
  | field :: rest => do
    checkCanonicalField field
    checkCanonicalFields rest

def checkCanonicalField : String × Value → Except PyError Unit
  | (_, value) => checkCanonical value

end

/-- `source_hash` of a dictionary: the digest stands for what was hashed. -/
def sourceHash (value : Fields) : Except PyError Fields := do
  checkCanonical (.dict value)
  return value

/-- `source_hash` of an exact identity, whose only number is a process id. -/
def FenceIdentity.sourceHash : FenceIdentity → Except PyError FenceIdentity
  | .target identity => do
    rejectIf (maxCanonicalInteger < identity.ffmpegPid) (valueError "IntegerDomainError")
    return .target identity
  | .runtime identity => .ok (.runtime identity)
  | .empty => .ok .empty

/-- The arguments of `effect_safety` and what it reads besides the typed tables. -/
structure EffectSafetyCall where
  querySnapshot : Bool
  integrity : String
  legacyProducers : List (String × Operation)
  now : Nat
  allowedProducers : List String
  targetIdentity : Option TargetIdentity
  independentEffects : Bool

/-- `last_reconciliation`, where its evidence names both targets. -/
structure LastReconciliation where
  resolution : String
  actionId : String
  beforeTarget : Fields
  afterTarget : Fields

/-- What `effect_safety` returns. -/
structure EffectSafety where
  observedAt : Nat
  integrity : String
  physicalAttemptCount : Nat
  duplicateAttemptCount : Nat
  unresolvedScopeCount : Nat
  unresolvedScopeCountTotal : Nat
  currentTargetUnresolvedScopeCount : Option Nat
  currentTargetSha256 : Option FenceIdentity
  unauthorizedEffectCount : Nat
  lastReconciliation : Option LastReconciliation

/-- The states of `terminal`. -/
def EffectState.terminal : EffectState → Bool
  | .reconciledEffectObserved | .releasedNoEffect | .effectFailed => true
  | .accepted | .executionStarted | .effectBoundaryReached | .effectObserved | .outcomeUnknown
  | .effectObservedAwaitingVerification | .retiredTargetOutcomeUnknown | .rejected => false

/-- The operations of an executor that may appear in the audit. -/
def Operation.executorOwned : Operation → Bool
  | .restartFfmpeg | .reconcileFfmpeg | .switchStreamRoute => true
  | .escalateRuntimeRecovery => false

/-- `ORDER BY recorded_at DESC, reconciliation_id DESC`. -/
def EffectReconciliation.newerThan (left right : EffectReconciliation) : Prop :=
  right.recordedAt < left.recordedAt ∨
    (left.recordedAt = right.recordedAt ∧ right.reconciliationId ≤ left.reconciliationId)

instance (left right : EffectReconciliation) : Decidable (left.newerThan right) :=
  inferInstanceAs (Decidable (_ ∨ _))

/-- The newest reconciliation of a fence, with the owner of the fence. -/
def EffectLedger.newestReconciliation? (ledger : EffectLedger) :
    Option (EffectReconciliation × String) :=
  let joined := ledger.effectReconciliations.filterMap fun row =>
    (ledger.scope row.effectScopeId).map fun fence => (row, fence.ownerRequestId)
  (joined.insertionSort fun left right => left.1.newerThan right.1).head?

def EffectLedger.lastReconciliation (ledger : EffectLedger) :
    Except PyError (Option LastReconciliation) :=
  match ledger.newestReconciliation? with
  | none => .ok none
  | some (row, owner) =>
    match row.evidence.get? "before_target", row.evidence.get? "observed_target" with
    | some (.dict before), some (.dict observed) => do
      let beforeTarget ← sourceHash before
      let afterTarget ← sourceHash observed
      return some ⟨row.resolution.text, owner, beforeTarget, afterTarget⟩
    | _, _ => .ok none

/-- Whether an open fence is on the current target. -/
def EffectScopeFence.unresolvedOn (current : Option FenceIdentity) (fence : EffectScopeFence) :
    Except PyError Bool :=
  match fence.state.terminal, current with
  | false, some target => return decide ((← fence.identity.sourceHash) = target)
  | true, _ | _, none => .ok false

/-- A request by somebody else, or for something that no executor does. -/
def unauthorizedEffect (allowedProducers : List String) (request : String × Operation) : Bool :=
  !allowedProducers.contains request.1 || !request.2.executorOwned

/-- `effect_safety` with an empty history policy, under which nothing is historical. -/
def EffectLedger.effectSafety (ledger : EffectLedger) (call : EffectSafetyCall) :
    Except PyError EffectSafety := do
  rejectIf (call.querySnapshot = false)
    (valueError "RUNTIME_EVIDENCE_REQUIRES_QUERY_ONLY_SNAPSHOT")
  rejectIf (call.allowedProducers = [] ∨ "" ∈ call.allowedProducers)
    (valueError "RUNTIME_EVIDENCE_EFFECT_OWNER_REQUIRED")
  let rows := ledger.effectScopeFences
  let currentTarget ← call.targetIdentity.mapM fun target => (FenceIdentity.target target).sourceHash
  let producers := ledger.typedEffectRequests.map (fun row => (row.producerId, row.operation)) ++
    call.legacyProducers
  let proof ← ledger.lastReconciliation
  let unresolved := rows.countP fun row => !row.state.terminal
  let onCurrent ← rows.mapM fun row => row.unresolvedOn currentTarget
  return {
    observedAt := call.now
    integrity := call.integrity
    physicalAttemptCount := (rows.map (·.physicalAttemptCount)).sum
    duplicateAttemptCount := (rows.map (·.physicalAttemptCount - 1)).sum
    unresolvedScopeCount := unresolved
    unresolvedScopeCountTotal := unresolved
    currentTargetUnresolvedScopeCount :=
      if call.independentEffects = true ∧ currentTarget = none then none
      else some (onCurrent.countP id)
    currentTargetSha256 := currentTarget
    unauthorizedEffectCount := producers.countP (unauthorizedEffect call.allowedProducers)
    lastReconciliation := proof }

/-- The report counts no attempt twice, and as unresolved what the ledger lists as open or has
retired with an unknown outcome. -/
def EffectSafety.AgreesWith (report : EffectSafety) (ledger : EffectLedger) : Prop :=
  report.duplicateAttemptCount = 0 ∧
    report.unresolvedScopeCount = ledger.unresolvedScopes.length +
      ledger.effectScopeFences.countP (·.state = .retiredTargetOutcomeUnknown)

instance (report : EffectSafety) (ledger : EffectLedger) : Decidable (report.AgreesWith ledger) :=
  inferInstanceAs (Decidable (_ ∧ _))

/-- What the counts of a returned report are. -/
theorem EffectLedger.counts_of_effectSafety {ledger : EffectLedger} {call : EffectSafetyCall}
    {report : EffectSafety} (returned : ledger.effectSafety call = .ok report) :
    report.duplicateAttemptCount =
        (ledger.effectScopeFences.map (·.physicalAttemptCount - 1)).sum ∧
      report.unresolvedScopeCount = ledger.effectScopeFences.countP (!·.state.terminal) := by
  simp only [EffectLedger.effectSafety, bind_eq_ok, pure_eq_ok] at returned
  obtain ⟨_, _, _, _, _, _, _, _, _, _, rfl⟩ := returned
  exact ⟨rfl, rfl⟩

theorem Effect.fence_attempts (effect : Effect) : effect.fence.physicalAttemptCount - 1 = 0 := by
  cases attempted : effect.attempted <;> simp [Effect.fence, attempted]

/-- No fence is in the state of a refusal. -/
theorem Effect.Phase.fence_ne_rejected {effect : Effect} (phase : effect.Phase) :
    effect.fenceState ≠ .rejected := by
  intro rejected
  have allowed := phase.allowed
  rw [rejected] at allowed
  cases state : effect.state <;> rw [state] at allowed <;> cases allowed

/-- Counting what is in exactly one of three ways. -/
theorem countP_three {α : Type} {whole first second third : α → Bool} {items : List α}
    (parts : ∀ item ∈ items, (whole item).toNat =
      (first item).toNat + (second item).toNat + (third item).toNat) :
    items.countP whole = items.countP first + items.countP second + items.countP third := by
  induction items with
  | nil => rfl
  | cons item rest inductionHypothesis =>
    have now := parts item List.mem_cons_self
    have later := inductionHypothesis fun other member => parts other (List.mem_cons_of_mem _ member)
    have counted : ∀ part : α → Bool, (item :: rest).countP part =
        rest.countP part + (part item).toNat := fun part => by
      rw [List.countP_cons]
      cases part item <;> rfl
    rw [counted, counted, counted, counted]
    omega

section Report

variable {ledger : EffectLedger} {effects : List Effect} (holds : Holds ledger effects)
include holds

theorem Holds.duplicates_eq_zero :
    (ledger.effectScopeFences.map (·.physicalAttemptCount - 1)).sum = 0 := by
  rw [holds.fences, List.map_map]
  apply List.sum_eq_zero
  intro count member
  obtain ⟨effect, _, rfl⟩ := List.mem_map.mp member
  exact effect.fence_attempts

/-- The exported count, in the words of the ledger. -/
theorem Holds.countP_terminal :
    ledger.effectScopeFences.countP (!·.state.terminal) =
      ledger.unresolvedScopes.length +
        ledger.effectScopeFences.countP (·.state = .retiredTargetOutcomeUnknown) +
        ledger.effectScopeFences.countP (·.state = .effectObserved) := by
  rw [EffectLedger.unresolvedScopes, List.length_insertionSort, ← List.countP_eq_length_filter]
  apply countP_three
  intro fence member
  rw [holds.fences] at member
  obtain ⟨effect, owned, rfl⟩ := List.mem_map.mp member
  have reachable := (holds.phases effect owned).fence_ne_rejected
  rw [Effect.fence_state]
  cases state : effect.fenceState with
  | rejected => exact absurd state reachable
  | _ => decide

/-- The report agrees with the ledger where no fence is in `EFFECT_OBSERVED`, and only there. -/
theorem Holds.agrees_iff {call : EffectSafetyCall} {report : EffectSafety}
    (returned : ledger.effectSafety call = .ok report) :
    report.AgreesWith ledger ↔ ∀ fence ∈ ledger.effectScopeFences, fence.state ≠ .effectObserved := by
  obtain ⟨duplicates, unresolved⟩ := ledger.counts_of_effectSafety returned
  rw [holds.duplicates_eq_zero] at duplicates
  rw [holds.countP_terminal] at unresolved
  rw [EffectSafety.AgreesWith, duplicates, unresolved]
  have none : ledger.effectScopeFences.countP (·.state = .effectObserved) = 0 ↔
      ∀ fence ∈ ledger.effectScopeFences, fence.state ≠ .effectObserved := by
    simp [List.countP_eq_zero]
  rw [← none]
  omega

end Report

/-- The operation ends an effect as observed, with nothing left to verify. -/
def LedgerOp.endsObserved : LedgerOp → Bool
  | .finish _ .observed _ => true
  | .finish _ .awaitingVerification _ | .finish _ .failed _ | .finish _ .unknown _ | .accept _
  | .start _ | .markEffectBoundary _ | .recordReconciliation _ | .recordTargetRetirement _
  | .switchAuthority _ | .reopen _ _ => false

/-- Only such an operation brings a fence to `EFFECT_OBSERVED`. -/
theorem LedgerOp.move_ne_observed (op : LedgerOp) (now : Nat) {effect : Effect}
    (phase : effect.Phase) (spares : op.endsObserved = false)
    (other : effect.fenceState ≠ .effectObserved) :
    (op.move now effect).fenceState ≠ .effectObserved := by
  cases op with
  | accept _ | switchAuthority _ => exact other
  | start requestId =>
    rw [LedgerOp.move]
    split
    · exact fun same => by cases same
    · exact other
  | finish requestId ending result =>
    rw [LedgerOp.move]
    split
    · cases ending with
      | observed => cases spares
      | awaitingVerification | failed | unknown => exact fun same => by cases same
    · exact other
  | markEffectBoundary requestId =>
    rw [LedgerOp.move]
    split
    · exact fun same => by cases same
    · exact other
  | recordReconciliation arguments =>
    simp only [LedgerOp.move]
    split
    · rename_i resolution _
      split
      · cases resolution with
        | effectObserved | noEffectProven => exact fun same => by cases same
        | remainsUnknown => exact other
      · exact other
    · exact other
  | recordTargetRetirement arguments =>
    rw [LedgerOp.move]
    split
    · exact fun same => by cases same
    · exact other
  | reopen _ _ =>
    obtain ⟨_, moved, _⟩ := phase.reopened_states now
    rw [LedgerOp.move, moved]
    split
    · exact fun same => by cases same
    · exact other

/-- No fence is in `EFFECT_OBSERVED`. -/
def EffectLedger.NoneObserved (ledger : EffectLedger) : Prop :=
  ∃ effects, Holds ledger effects ∧ ∀ effect ∈ effects, effect.fenceState ≠ .effectObserved

theorem EffectLedger.NoneObserved.step {ledger : EffectLedger} (none : ledger.NoneObserved)
    (event : LedgerOp × Nat) (spares : event.1.endsObserved = false) :
    (ledger.step event).1.NoneObserved := by
  obtain ⟨effects, holds, others⟩ := none
  obtain ⟨after, advance, holdsAfter⟩ := EffectLedger.step_advances holds event
  refine ⟨after, holdsAfter, ?_⟩
  cases advance with
  | refused => exact others
  | moved _ =>
    intro effect member
    obtain ⟨earlier, owned, rfl⟩ := List.mem_map.mp member
    exact event.1.move_ne_observed event.2 (holds.phases earlier owned) spares (others earlier owned)
  | admitted source scopeId derived =>
    intro effect member
    rcases List.mem_append.mp member with old | new
    · exact others effect old
    · obtain rfl := List.mem_singleton.mp new
      exact fun same => by cases same

/-- A run whose steps end no effect as observed brings no fence to `EFFECT_OBSERVED`. -/
theorem EffectLedger.noneObserved_of_run {events : List (LedgerOp × Nat)}
    (spared : ∀ event ∈ events, event.1.endsObserved = false) :
    (final EffectLedger.step .empty events).NoneObserved := by
  apply final_invariant EffectLedger.NoneObserved
    (fun ledger event none (spares : event.1.endsObserved = false) => none.step event spares)
    ⟨[], holds_empty, by simp⟩
  intro taken member
  obtain ⟨front, back, run⟩ := List.append_of_mem member
  obtain ⟨_, event, _, rfl, _, rfl⟩ := trace_split run
  exact spared event (by simp)

/-- After everything an executor can do, the exported evidence agrees with the ledger exactly when
no fence is in `EFFECT_OBSERVED`; it does where no operation ended an effect as observed with
nothing left to verify. -/
theorem effect_evidence_agrees (config : ServerConfig) (events : List ServerEvent)
    (call : EffectSafetyCall) (report : EffectSafety)
    (returned : (serve config events).state.effectSafety call = .ok report) :
    (report.AgreesWith (serve config events).state ↔
        ∀ fence ∈ (serve config events).state.effectScopeFences, fence.state ≠ .effectObserved) ∧
      ((∀ event ∈ newServer.performed EffectLedger.step (events.map (·.toPool config)),
          event.1.endsObserved = false) →
        report.AgreesWith (serve config events).state) := by
  have reached : (serve config events).state = final EffectLedger.step .empty
      (newServer.performed EffectLedger.step (events.map (·.toPool config))) := by
    rw [serve, Pool.final_state]
    rfl
  rw [reached] at returned ⊢
  obtain ⟨effects, holds⟩ := EffectLedger.consistent_of_run
    (newServer.performed EffectLedger.step (events.map (·.toPool config)))
  refine ⟨holds.agrees_iff returned, fun spared => (holds.agrees_iff returned).mpr ?_⟩
  obtain ⟨others, held, none⟩ := EffectLedger.noneObserved_of_run spared
  rw [held.fences]
  intro fence member
  obtain ⟨effect, owned, rfl⟩ := List.mem_map.mp member
  exact none effect owned

/-- The publisher asks for the evidence of the first producer. -/
def evidenceCall : EffectSafetyCall where
  querySnapshot := true
  integrity := "ok"
  legacyProducers := []
  now := 9
  allowedProducers := ["detector"]
  targetIdentity := some (restartTarget "generation-1")
  independentEffects := false

/-- The worker of a restart is done, and its effect awaits verification. -/
def awaitingEvents : List ServerEvent := startedEvents ++ [.advance 0]

theorem effect_evidence_agrees_awaiting :
    ∃ report, (serve asyncConfig awaitingEvents).state.effectSafety evidenceCall = .ok report ∧
      report.unresolvedScopeCount = 1 ∧
      report.AgreesWith (serve asyncConfig awaitingEvents).state := by
  have counted : ((serve asyncConfig awaitingEvents).state.effectSafety
      evidenceCall).toOption.map (·.unresolvedScopeCount) = some 1 := by
    decide +kernel
  have unobserved : ∀ fence ∈ (serve asyncConfig awaitingEvents).state.effectScopeFences,
      fence.state ≠ .effectObserved := by
    decide +kernel
  cases returned : (serve asyncConfig awaitingEvents).state.effectSafety evidenceCall with
  | error _ => simp [returned, Except.toOption] at counted
  | ok report =>
    rw [returned] at counted
    have agrees := effect_evidence_agrees asyncConfig awaitingEvents evidenceCall report returned
    exact ⟨report, rfl, Option.some.inj counted, agrees.1.mpr unobserved⟩

/-- The runtime that a reconcile request names. -/
def runtimeIdentity : RuntimeIdentity where
  hostId := "host"
  hostBootId := "boot"
  podNamespace := "stream"
  podUid := "pod"
  streamEngineContainerName := "stream-engine"
  streamEngineContainerId := "containerd://1"
  runtimeGeneration := "runtime-1"

/-- A request to reconcile FFmpeg with its runtime. -/
def reconcileFields : RequestFields :=
  { restartFields "reconcile-1" "detector" "" with
    intentType := Intent.reconcileFfmpeg.text
    ffmpegTargetIdentity := .none
    runtimeIdentity := .exact runtimeIdentity
    runtimeSnapshotId := "runtime-snapshot" }

/-- What the handling of the reconcile request meets. -/
def reconcileSurroundings : Surroundings :=
  let current : CurrentTarget :=
    { ffmpegTarget := none
      ffmpegGeneration := ""
      route := none
      routeGeneration := none
      runtimeIdentity := some runtimeIdentity
      executorInstanceId := "executor" }
  { steadySurroundings "" with firstTarget := .ok current, secondTarget := .ok current }

/-- The request is handled, and its worker observes the effect. -/
def reconciledEvents : List ServerEvent :=
  [.restart "detector" 1 0, .connection (.effectRequest reconcileFields) reconcileSurroundings,
    .advance 0, .advance 0, .advance 0, .advance 0]

/-- A reconcile request has nothing to verify, and once it is observed the ledger lists nothing
open while the evidence reports an unresolved scope. -/
theorem observed_effect_reported_unresolved :
    (serve asyncConfig reconciledEvents).state.unresolvedScopes.length = 0 ∧
      ¬ ∀ (config : ServerConfig) (events : List ServerEvent) (call : EffectSafetyCall)
          (report : EffectSafety),
        (serve config events).state.effectSafety call = .ok report →
          report.AgreesWith (serve config events).state := by
  refine ⟨by decide +kernel, fun every => ?_⟩
  have differs : ((serve asyncConfig reconciledEvents).state.effectSafety
      evidenceCall).toOption.any
        (fun report => !decide (report.AgreesWith (serve asyncConfig reconciledEvents).state)) =
      true := by
    decide +kernel
  cases returned : (serve asyncConfig reconciledEvents).state.effectSafety evidenceCall with
  | error _ => simp [returned, Except.toOption] at differs
  | ok report =>
    have agrees := every asyncConfig reconciledEvents evidenceCall report returned
    simp [returned, Except.toOption, agrees] at differs

end LiveStream.Boundary

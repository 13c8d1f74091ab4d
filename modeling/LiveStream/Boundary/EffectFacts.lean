import LiveStream.Boundary.Handoff

/-! What opening the database does to the recorded facts of an effect. States,
results and generations stay, but the backfill charges a physical attempt to
every request that is no longer `ACCEPTED`, also where none was made. -/

namespace LiveStream.Boundary

open LiveStream.Support

/-- The columns of a fence that record what happened to its effect. -/
structure FenceFacts where
  effectScopeId : ScopeId
  logicalGenerationScopeId : Option LogicalScopeId
  state : EffectState
  effectBoundaryReached : Bool
  physicalAttemptCount : Nat
  resultJson : Option Fields

def EffectScopeFence.facts (fence : EffectScopeFence) : FenceFacts where
  effectScopeId := fence.effectScopeId
  logicalGenerationScopeId := fence.logicalGenerationScopeId
  state := fence.state
  effectBoundaryReached := fence.effectBoundaryReached
  physicalAttemptCount := fence.physicalAttemptCount
  resultJson := fence.resultJson

/-- No request row is in `EXECUTION_STARTED`. -/
def EffectLedger.Quiescent (ledger : EffectLedger) : Prop :=
  (∀ row ∈ ledger.effectRequests, row.state ≠ .executionStarted) ∧
    ∀ row ∈ ledger.typedEffectRequests, row.state ≠ .executionStarted

/-- Opening succeeds, and the fences and their facts are the ones before. -/
def EffectLedger.KeepsFacts (ledger : EffectLedger) (producerId : String) (generation : Int)
    (now : Nat) : Prop :=
  (ledger.reopen producerId generation now).2 = .ok () ∧
    (ledger.reopen producerId generation now).1.effectScopeFences.map (·.facts) =
      ledger.effectScopeFences.map (·.facts)

/-- Every fence whose request is no longer `ACCEPTED` records its physical attempt. -/
def EffectLedger.AttemptsRecorded (ledger : EffectLedger) : Prop :=
  ∀ fence ∈ ledger.effectScopeFences,
    ledger.requestState? fence.ownerRequestId ≠ some .accepted →
      fence.effectBoundaryReached = true ∧ fence.physicalAttemptCount = 1

theorem Effect.reopened_fenceResult (effect : Effect) (now : Nat) :
    (effect.reopened now).fenceResult = effect.fenceResult := by
  unfold Effect.reopened Effect.restarted Effect.consumed
  split_ifs <;> rfl

/-- The facts of an effect after opening, when its request is not running: only the
attempt changes. -/
theorem Effect.Phase.reopened_facts {effect : Effect} (phase : effect.Phase) (now : Nat)
    (idle : effect.state ≠ .executionStarted) :
    (effect.reopened now).fence.facts =
      { effect.fence.facts with
        effectBoundaryReached := effect.attempted || effect.state ≠ .accepted
        physicalAttemptCount := if effect.attempted || effect.state ≠ .accepted then 1 else 0 } := by
  have ⟨source, scope⟩ := effect.reopened_source now
  have ⟨_, fence, attempted⟩ := phase.reopened_states now
  have result := effect.reopened_fenceResult now
  have spent : (effect.reopened now).attempted =
      (effect.attempted || decide (effect.state ≠ .accepted)) := by
    rw [attempted]
    by_cases accepted : effect.state = .accepted <;> simp [accepted]
  simp only [EffectScopeFence.facts, Effect.fence, EffectScopeFence.admitted, source, scope, fence,
    result, spent, idle, false_and, if_false]

/-- Opening keeps every fact exactly when there is no attempt left to charge. -/
theorem EffectLedger.keepsFacts_iff (events : List (LedgerOp × Nat)) (producerId : String)
    (generation : Int) (now : Nat)
    (quiescent : (final EffectLedger.step .empty events).Quiescent) :
    (final EffectLedger.step .empty events).KeepsFacts producerId generation now ↔
      (-maxSqliteInteger - 1 ≤ generation ∧ generation ≤ maxSqliteInteger) ∧
        (final EffectLedger.step .empty events).AttemptsRecorded := by
  obtain ⟨effects, holds⟩ := EffectLedger.consistent_of_run events
  generalize final EffectLedger.step .empty events = ledger at quiescent holds ⊢
  have idle : ∀ effect ∈ effects, effect.state ≠ .executionStarted := fun effect member =>
    quiescent.2 effect.request (holds.requests ▸ List.mem_map_of_mem member)
  have recorded : ledger.AttemptsRecorded ↔
      ∀ effect ∈ effects, effect.state ≠ .accepted → effect.attempted = true := by
    simp only [EffectLedger.AttemptsRecorded, holds.fences, List.forall_mem_map,
      Effect.fence_ownerRequestId]
    refine forall₂_congr fun effect member => ?_
    rw [holds.requestState?_eq member]
    cases attempted : effect.attempted <;> simp [Effect.fence, attempted]
  by_cases bindable : -maxSqliteInteger - 1 ≤ generation ∧ generation ≤ maxSqliteInteger
  · rw [EffectLedger.KeepsFacts, reopen_effects holds producerId generation now bindable, recorded]
    simp only [EffectLedger.withEffects, holds.fences, List.map_map, List.map_inj_left, bindable,
      and_self, true_and, Function.comp_apply]
    refine forall₂_congr fun effect member => ?_
    rw [(holds.phases effect member).reopened_facts now (idle effect member)]
    cases attempted : effect.attempted <;>
      simp [EffectScopeFence.facts, Effect.fence, attempted]
  · have unbindable : maxSqliteInteger < generation ∨ generation < -maxSqliteInteger - 1 := by
      omega
    exact iff_of_false (by simp [EffectLedger.KeepsFacts, EffectLedger.reopen, unbindable])
      fun both => bindable both.1

/-- A request that is accepted, started and refused before the boundary. -/
def refusedRun : List (LedgerOp × Nat) :=
  [(.reopen "detector" 1, 0), (.accept detectorRequest, 1), (.start "restart-1", 2),
    (.finish "restart-1" .failed (some [("physical_effect_count", .int 0)]), 3)]

instance (ledger : EffectLedger) : Decidable ledger.Quiescent :=
  inferInstanceAs (Decidable (_ ∧ _))

instance (ledger : EffectLedger) : Decidable ledger.AttemptsRecorded :=
  inferInstanceAs (Decidable (∀ fence ∈ ledger.effectScopeFences, _ → _ ∧ _))

/-- Carried to the boundary and observed, the effect keeps its facts. -/
theorem EffectLedger.keepsFacts_observed :
    (final EffectLedger.step .empty
        (ordinaryRun ++ [(.finish "restart-1" .observed none, 4)])).KeepsFacts "detector" 1 5 :=
  (keepsFacts_iff _ "detector" 1 5 (by decide +kernel)).mpr ⟨by decide, by decide +kernel⟩

/-- Opening charges an attempt to a request that was refused before the boundary. -/
theorem EffectLedger.rewrites_refused :
    ¬ ∀ events : List (LedgerOp × Nat), (final EffectLedger.step .empty events).Quiescent →
      (final EffectLedger.step .empty events).KeepsFacts "detector" 1 9 := by
  intro every
  have kept := (every refusedRun (by decide +kernel)).2
  have counts := congrArg (List.map FenceFacts.physicalAttemptCount) kept
  revert counts
  decide +kernel

end LiveStream.Boundary

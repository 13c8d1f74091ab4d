import LiveStream.Boundary.Reopening
import LiveStream.Support.Run

/-! Every operation of the ledger refuses, moves the effects or admits one, so a
run of the ledger is a run of its effects. -/

namespace LiveStream.Boundary

open LiveStream.Support

/-- Whether JSON holds the result that the operation stores. -/
def LedgerOp.encodes : LedgerOp → Bool
  | .finish _ _ (some result) => result.encodable
  | .finish _ _ none | .accept _ | .start _ | .markEffectBoundary _ | .recordReconciliation _
  | .recordTargetRetirement _ | .switchAuthority _ | .reopen _ _ => true

/-- How one operation changes the list of effects. -/
inductive Advance (op : LedgerOp) (now : Nat) (authority : Option Authority)
    (effects : List Effect) : List Effect → Prop
  | refused : Advance op now authority effects effects
  | moved : op.encodes = true → Advance op now authority effects (effects.map (op.move now))
  | admitted (source : ParsedRequest) (scopeId : ScopeId)
      (derived : source.1.effectScopeId = .ok scopeId) (active : Authority) :
      op = .accept source → authority = some active →
      active.producerId = source.1.producerId →
      active.producerGeneration = source.1.producerGeneration →
      (∀ effect ∈ effects, effect.fenceState.unresolved = false) →
      Advance op now authority effects (effects ++ [Effect.admitted source scopeId derived now])

section Advances

variable {ledger : EffectLedger} {effects : List Effect} (holds : Holds ledger effects)
include holds

private theorem moved_by (op : LedgerOp) (now : Nat) :
    Holds (ledger.withEffects (effects.map (op.move now))) (effects.map (op.move now)) :=
  holds.withEffects_moved (op.move now) (op.move_source now) fun _ => op.move_phase now

private theorem recordReconciliation_advances (arguments : ReconciliationRequest) (now : Nat) :
    ∃ after, Advance (.recordReconciliation arguments) now ledger.runtimeAuthority effects after ∧
      Holds (ledger.recordReconciliation arguments now).1 after := by
  unfold EffectLedger.recordReconciliation
  cases resolved : Resolution.ofText? arguments.resolution with
  | none => exact ⟨effects, .refused, holds⟩
  | some resolution =>
    cases arguments.evidence.dumps with
    | error error => exact ⟨effects, .refused, holds⟩
    | ok _ =>
      simp only [EffectLedger.conclude]
      cases ledger.effectReconciliations.find? _ with
      | some existing => exact ⟨effects, .refused, holds⟩
      | none =>
        cases checked : ledger.checkReconciliation arguments resolution with
        | error error => exact ⟨effects, .refused, holds⟩
        | ok _ =>
          refine ⟨_, .moved rfl, ?_⟩
          have ⟨fences, requests⟩ := EffectLedger.updateScope_effects holds
            arguments.effectScopeId (·.reconciled resolution arguments.evidence now)
            ((LedgerOp.recordReconciliation arguments).move now) ?_ ?_ ?_
          · exact holds.moved _ (LedgerOp.move_source _ now) (fun _ => LedgerOp.move_phase _ now)
              rfl requests fences
          · intro effect
            simp only [LedgerOp.move, resolved]
            split
            · cases resolution <;> rfl
            · rfl
          · intro effect member same
            simp only [EffectLedger.checkReconciliation, bind_eq_ok, orReject_eq_ok] at checked
            obtain ⟨scope, found, _, _, _, _, concluded⟩ := checked
            rw [← same, holds.scope_eq member] at found
            obtain rfl := Option.some.inj found
            cases resolution with
            | remainsUnknown => simp [LedgerOp.move, resolved, Effect.reconciled,
                EffectScopeFence.reconciled]
            | effectObserved | noEffectProven =>
              simp only [EffectScopeFence.checkConclusion, bind_eq_ok, rejectIf_eq_ok] at concluded
              have unresolved : effect.fenceState.unresolved = true := by
                simpa using concluded.choose_spec.1
              simp only [LedgerOp.move, resolved, same, unresolved, and_self, if_true]
              rfl
          · intro effect other
            simp only [LedgerOp.move, resolved]
            exact if_neg fun both => other both.1

private theorem recordTargetRetirement_advances (arguments : RetirementRequest) (now : Nat) :
    ∃ after, Advance (.recordTargetRetirement arguments) now ledger.runtimeAuthority effects
      after ∧ Holds (ledger.recordTargetRetirement arguments now).1 after := by
  unfold EffectLedger.recordTargetRetirement
  cases arguments.evidence.dumps with
  | error error => exact ⟨effects, .refused, holds⟩
  | ok _ =>
    simp only [EffectLedger.retire]
    cases ledger.effectScopeRetirements.find? _ with
    | some existing => exact ⟨effects, .refused, holds⟩
    | none =>
      cases checked : ledger.checkRetirement arguments with
      | error error => exact ⟨effects, .refused, holds⟩
      | ok _ =>
        refine ⟨_, .moved rfl, ?_⟩
        have ⟨fences, requests⟩ := EffectLedger.updateScope_effects holds
          arguments.effectScopeId (·.retired arguments.evidence now)
          ((LedgerOp.recordTargetRetirement arguments).move now) ?_ ?_ ?_
        · exact holds.moved _ (LedgerOp.move_source _ now) (fun _ => LedgerOp.move_phase _ now)
            rfl requests fences
        · intro effect
          simp only [LedgerOp.move]
          split <;> rfl
        · intro effect member same
          simp only [EffectLedger.checkRetirement, bind_eq_ok, orReject_eq_ok, rejectIf_eq_ok]
            at checked
          obtain ⟨scope, found, _, _, _, _, _, retirable, _, once, _⟩ := checked
          rw [← same, holds.scope_eq member] at found
          obtain rfl := Option.some.inj found
          have attempted : effect.attempted = true := by
            cases attempted : effect.attempted with
            | true => rfl
            | false => simp [Effect.fence, attempted] at once
          simp only [LedgerOp.move, same, attempted, Bool.not_eq_false] at retirable ⊢
          rw [if_pos ⟨trivial, retirable, trivial⟩]
          rfl
        · intro effect other
          exact if_neg fun all => other all.1

/-- An admission adds an effect whose keys no other effect has. -/
theorem EffectLedger.admit_effects {source : ParsedRequest} {scopeId : ScopeId}
    (derived : source.1.effectScopeId = .ok scopeId) (now : Nat)
    (unclaimed : ledger.claimingFence? source.1 scopeId = none)
    (admissible : ledger.checkAdmission source.1 scopeId = .ok ()) :
    Holds (ledger.insertRequest source.1 scopeId now)
      (effects ++ [Effect.admitted source scopeId derived now]) := by
  simp only [EffectLedger.checkAdmission, bind_eq_ok, rejectIf_eq_ok, holds.requests,
    List.any_map, Bool.not_eq_true, List.any_eq_false, Function.comp_apply, Bool.or_eq_true,
    decide_eq_true_eq, not_or] at admissible
  obtain ⟨_, _, _, newRequest, newFence⟩ := admissible
  have generation : ∀ effect ∈ effects, ∀ logicalId, effect.generationId = some logicalId →
      source.1.logicalGenerationScopeId ≠ some logicalId := by
    intro effect member logicalId known same
    simp only [EffectLedger.claimingFence?, same, Option.bind_some, Option.or_eq_none_iff,
      holds.fences, List.find?_map, Option.map_eq_none_iff, List.find?_eq_none,
      Function.comp_apply] at unclaimed
    exact unclaimed.1 effect member (decide_eq_true known)
  have unowned : ∀ effect ∈ effects, effect.scopeId ≠ scopeId := by
    intro effect member same
    simp only [EffectLedger.claimingFence?, Option.or_eq_none_iff] at unclaimed
    rw [← same, holds.scope_eq member] at unclaimed
    exact Option.some_ne_none _ unclaimed.2
  refine ⟨holds.legacy, ?_, ?_, ?_, ?_, ?_, ?_, ?_⟩
  · simp [EffectLedger.insertRequest, holds.requests, Effect.request_admitted]
  · simp [EffectLedger.insertRequest, holds.fences, Effect.fence_admitted]
  · exact nodup_map_append holds.requestIds fun effect owned => (newRequest effect owned).1
  · exact nodup_map_append holds.idempotencyKeys fun effect owned => (newRequest effect owned).2
  · exact nodup_map_append holds.scopeIds unowned
  · exact nodup_filterMap_append holds.generationIds generation
  · intro effect member
    rcases List.mem_append.mp member with old | new
    · exact holds.phases effect old
    · obtain rfl := List.mem_singleton.mp new
      exact Effect.Phase.admitted

private theorem accept_advances (source : ParsedRequest) (now : Nat) :
    ∃ after, Advance (.accept source) now ledger.runtimeAuthority effects after ∧
      Holds (ledger.accept source.1 now).1 after := by
  unfold EffectLedger.accept
  cases authority : ledger.runtimeAuthority with
  | none => exact ⟨effects, .refused, holds⟩
  | some active =>
    cases (ledger.existingLegacy? source.1).or (ledger.existingTyped? source.1) with
    | some existing => exact ⟨effects, .refused, holds⟩
    | none =>
      simp only
      split_ifs with inactive outdated
      · exact ⟨effects, .refused, holds⟩
      · exact ⟨effects, .refused, holds⟩
      · unfold EffectLedger.claim
        split
        · exact ⟨effects, .refused, holds⟩
        · rename_i scopeId derived
          split
          · exact ⟨effects, .refused, holds⟩
          · rename_i unclaimed
            split
            · exact ⟨effects, .refused, holds⟩
            · rename_i quiet
              split
              · exact ⟨effects, .refused, holds⟩
              · rename_i admissible
                refine ⟨_, .admitted source scopeId derived active rfl rfl
                  (not_not.mp inactive) (not_not.mp outdated) ?_,
                  EffectLedger.admit_effects holds derived now unclaimed admissible⟩
                exact holds.unresolvedScopes_eq_nil.mp (List.head?_eq_none_iff.mp quiet)

/-- The effects count as unresolved one by one. -/
theorem Holds.unresolvedCount_eq : ledger.unresolvedCount =
    effects.countP fun effect => countsUnresolved effect.state (some effect.fence) := by
  rw [EffectLedger.unresolvedCount, holds.legacy, List.countP_nil, Nat.zero_add, holds.requests,
    List.countP_map]
  refine List.countP_congr fun effect member => ?_
  simp only [Function.comp_apply, Effect.request_state, Effect.request_requestId,
    holds.fenceOf?_eq member]

/-- A handoff keeps the rows and, while an effect counts as unresolved, the authority. -/
theorem EffectLedger.switchAuthority_effects (arguments : Handoff) (now : Nat) :
    Holds (ledger.switchAuthority arguments now).1 effects ∧
      ((∃ effect ∈ effects, countsUnresolved effect.state (some effect.fence) = true) →
        (ledger.switchAuthority arguments now).1 = ledger) := by
  unfold EffectLedger.switchAuthority
  cases ledger.runtimeAuthority with
  | none => exact ⟨holds, fun _ => rfl⟩
  | some active =>
    simp only
    split_ifs with mismatch unresolved
    · exact ⟨holds, fun _ => rfl⟩
    · exact ⟨holds, fun _ => rfl⟩
    · have quiet : ledger.unresolvedCount = 0 := not_not.mp unresolved
      refine ⟨?_, fun ⟨effect, member, counted⟩ => ?_⟩
      · unfold EffectLedger.handOver
        split_ifs
        · exact holds
        · exact holds
        · exact holds.of_tables rfl rfl rfl
      · rw [holds.unresolvedCount_eq, List.countP_eq_zero] at quiet
        exact absurd counted (quiet effect member)

/-- Each operation refuses, moves the effects one by one or admits a new effect. -/
theorem EffectLedger.step_advances (event : LedgerOp × Nat) :
    ∃ after, Advance event.1 event.2 ledger.runtimeAuthority effects after ∧
      Holds (ledger.step event).1 after := by
  obtain ⟨op, now⟩ := event
  cases op with
  | accept source => exact accept_advances holds source now
  | start requestId =>
    refine ⟨_, .moved rfl, ?_⟩
    simp only [EffectLedger.step, start_effects holds]
    exact moved_by holds _ now
  | finish requestId ending result =>
    by_cases encodes : ∀ fields ∈ result, fields.encodable = true
    · refine ⟨_, .moved ?_, ?_⟩
      · cases result with
        | none => rfl
        | some fields => exact encodes fields rfl
      simp only [EffectLedger.step, finish_effects holds requestId ending result now encodes]
      exact moved_by holds _ now
    · refine ⟨_, .refused, ?_⟩
      push Not at encodes
      obtain ⟨fields, rfl, foreign⟩ := encodes
      simp only [EffectLedger.step,
        finish_unencodable ledger requestId ending now (by simpa using foreign)]
      exact holds
  | markEffectBoundary requestId =>
    refine ⟨_, .moved rfl, ?_⟩
    simp only [EffectLedger.step, markEffectBoundary_effects holds]
    exact moved_by holds _ now
  | recordReconciliation arguments => exact recordReconciliation_advances holds arguments now
  | recordTargetRetirement arguments => exact recordTargetRetirement_advances holds arguments now
  | switchAuthority arguments =>
    exact ⟨_, .refused, (switchAuthority_effects holds arguments now).1⟩
  | reopen producerId generation =>
    by_cases bindable : -maxSqliteInteger - 1 ≤ generation ∧ generation ≤ maxSqliteInteger
    · refine ⟨_, .moved rfl, ?_⟩
      simp only [EffectLedger.step, reopen_effects holds producerId generation now bindable]
      have inserted : Holds (ledger.insertAuthority producerId generation now) effects :=
        holds.of_tables rfl rfl rfl
      exact moved_by inserted (.reopen producerId generation) now
    · refine ⟨_, .refused, ?_⟩
      have unbindable : maxSqliteInteger < generation ∨ generation < -maxSqliteInteger - 1 := by
        omega
      simp only [EffectLedger.step, EffectLedger.reopen, if_pos unbindable]
      exact holds

/-- The authority in office: its producer and the producer's generation. -/
def EffectLedger.producer? (ledger : EffectLedger) : Option (String × Int) :=
  ledger.runtimeAuthority.map fun authority => (authority.producerId, authority.producerGeneration)

/-- Only a handoff changes the producer in office, and none while an effect
counts as unresolved. -/
theorem EffectLedger.step_producer (event : LedgerOp × Nat) {producer : String × Int}
    (office : ledger.producer? = some producer)
    (counted : ∀ arguments, event.1 = .switchAuthority arguments →
      ∃ effect ∈ effects, countsUnresolved effect.state (some effect.fence) = true) :
    (ledger.step event).1.producer? = some producer := by
  obtain ⟨op, now⟩ := event
  obtain ⟨active, authority, rfl⟩ := Option.map_eq_some_iff.mp office
  cases op with
  | accept source =>
    simp only [EffectLedger.step, Prod.map_fst, id_eq, EffectLedger.accept, EffectLedger.claim]
    rw [authority]
    repeat' split
    all_goals simp [EffectLedger.producer?, EffectLedger.insertRequest, authority]
  | start requestId =>
    simp only [EffectLedger.step, start_effects holds]
    exact office
  | finish requestId ending result =>
    by_cases encodes : ∀ fields ∈ result, fields.encodable = true
    · simp only [EffectLedger.step, finish_effects holds requestId ending result now encodes]
      exact office
    · push Not at encodes
      obtain ⟨fields, rfl, foreign⟩ := encodes
      simp only [EffectLedger.step,
        finish_unencodable ledger requestId ending now (by simpa using foreign)]
      exact office
  | markEffectBoundary requestId => exact office
  | recordReconciliation arguments =>
    simp only [EffectLedger.step, Prod.map_fst, id_eq, EffectLedger.recordReconciliation,
      EffectLedger.conclude]
    repeat' split
    all_goals exact office
  | recordTargetRetirement arguments =>
    simp only [EffectLedger.step, Prod.map_fst, id_eq, EffectLedger.recordTargetRetirement,
      EffectLedger.retire]
    repeat' split
    all_goals exact office
  | switchAuthority arguments =>
    simpa only [EffectLedger.step, Prod.map_fst, id_eq,
      (switchAuthority_effects holds arguments now).2 (counted arguments rfl)] using office
  | reopen producerId generation =>
    by_cases bindable : -maxSqliteInteger - 1 ≤ generation ∧ generation ≤ maxSqliteInteger
    · simp only [EffectLedger.step, reopen_effects holds producerId generation now bindable]
      simp [EffectLedger.producer?, EffectLedger.withEffects, EffectLedger.insertAuthority,
        authority]
    · have unbindable : maxSqliteInteger < generation ∨ generation < -maxSqliteInteger - 1 := by
        omega
      simp only [EffectLedger.step, EffectLedger.reopen, if_pos unbindable]
      exact office

/-- A producer stays in office, or is followed by another. -/
theorem EffectLedger.step_office (event : LedgerOp × Nat) (office : ledger.producer?.isSome = true) :
    (ledger.step event).1.producer?.isSome = true := by
  obtain ⟨producer, current⟩ := Option.isSome_iff_exists.mp office
  rcases event with ⟨op, now⟩
  cases op with
  | switchAuthority arguments =>
    obtain ⟨active, authority, _⟩ := Option.map_eq_some_iff.mp current
    simp only [EffectLedger.step, Prod.map_fst, id_eq, EffectLedger.switchAuthority,
      EffectLedger.handOver, authority]
    repeat' split
    all_goals simp [EffectLedger.producer?, authority]
  | accept _ | start _ | finish _ _ _ | markEffectBoundary _ | recordReconciliation _
  | recordTargetRetirement _ | reopen _ _ =>
    rw [step_producer holds _ current fun _ switch => by cases switch]
    rfl

end Advances

/-- A ledger that holds some list of effects. -/
def EffectLedger.Consistent (ledger : EffectLedger) : Prop := ∃ effects, Holds ledger effects

theorem EffectLedger.Consistent.step {ledger : EffectLedger} (consistent : ledger.Consistent)
    (event : LedgerOp × Nat) : (ledger.step event).1.Consistent := by
  obtain ⟨effects, holds⟩ := consistent
  obtain ⟨after, _, holdsAfter⟩ := EffectLedger.step_advances holds event
  exact ⟨after, holdsAfter⟩

/-- Every run from a new database leaves a consistent ledger. -/
theorem EffectLedger.consistent_of_run (events : List (LedgerOp × Nat)) :
    (final EffectLedger.step .empty events).Consistent :=
  final_invariant EffectLedger.Consistent (fun _ event consistent (_ : True) => consistent.step event)
    ⟨[], holds_empty⟩ fun _ _ => trivial

/-- A consistent ledger in which effects were only admitted under an authority. -/
def EffectLedger.Served (ledger : EffectLedger) : Prop :=
  ∃ effects, Holds ledger effects ∧ (effects = [] ∨ ledger.producer?.isSome = true)

theorem EffectLedger.Served.step {ledger : EffectLedger} (served : ledger.Served)
    (event : LedgerOp × Nat) : (ledger.step event).1.Served := by
  obtain ⟨effects, holds, office⟩ := served
  obtain ⟨after, advance, holdsAfter⟩ := EffectLedger.step_advances holds event
  refine ⟨after, holdsAfter, ?_⟩
  have kept := EffectLedger.step_office holds event
  cases advance with
  | refused => exact office.imp_right kept
  | moved _ => exact office.imp (by rintro rfl; rfl) kept
  | admitted source scopeId derived active _ authority _ _ _ =>
    exact .inr (kept (by simp [EffectLedger.producer?, authority]))

theorem EffectLedger.served_of_run (events : List (LedgerOp × Nat)) :
    (final EffectLedger.step .empty events).Served :=
  final_invariant EffectLedger.Served (fun _ event served (_ : True) => served.step event)
    ⟨[], holds_empty, .inl rfl⟩ fun _ _ => trivial

end LiveStream.Boundary

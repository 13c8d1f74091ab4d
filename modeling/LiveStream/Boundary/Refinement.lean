import LiveStream.Boundary.Effects

/-! The ledger refines the list of its effects: each operation leaves the rows of
the moved effects, and `accept` adds one. -/

namespace LiveStream.Boundary

open LiveStream.Support

/-- The ledger holds exactly these effects, with unique keys and coherent states. -/
structure Holds (ledger : EffectLedger) (effects : List Effect) : Prop where
  legacy : ledger.effectRequests = []
  requests : ledger.typedEffectRequests = effects.map Effect.request
  fences : ledger.effectScopeFences = effects.map Effect.fence
  requestIds : (effects.map Effect.requestId).Nodup
  idempotencyKeys : (effects.map Effect.idempotencyKey).Nodup
  scopeIds : (effects.map Effect.scopeId).Nodup
  generationIds : (effects.filterMap Effect.generationId).Nodup
  phases : ∀ effect ∈ effects, effect.Phase

theorem holds_empty : Holds .empty [] where
  legacy := rfl
  requests := rfl
  fences := rfl
  requestIds := List.nodup_nil
  idempotencyKeys := List.nodup_nil
  scopeIds := List.nodup_nil
  generationIds := List.nodup_nil
  phases := by simp

/-- The ledger with the rows of these effects. -/
def EffectLedger.withEffects (ledger : EffectLedger) (effects : List Effect) : EffectLedger :=
  { ledger with
    typedEffectRequests := effects.map Effect.request
    effectScopeFences := effects.map Effect.fence }

namespace Holds

variable {ledger : EffectLedger} {effects : List Effect}

theorem withEffects_self (holds : Holds ledger effects) : ledger.withEffects effects = ledger := by
  rcases ledger with ⟨_, _, _, _, _, _⟩
  simp [EffectLedger.withEffects, ← holds.requests, ← holds.fences]

/-- Rewriting the other tables keeps the effects. -/
theorem of_tables {other : EffectLedger} (holds : Holds ledger effects)
    (legacy : other.effectRequests = ledger.effectRequests)
    (requests : other.typedEffectRequests = ledger.typedEffectRequests)
    (fences : other.effectScopeFences = ledger.effectScopeFences) : Holds other effects :=
  { holds with
    legacy := legacy.trans holds.legacy
    requests := requests.trans holds.requests
    fences := fences.trans holds.fences }

/-- The rows of moved effects hold the moved effects. -/
theorem moved {other : EffectLedger} (holds : Holds ledger effects) (move : Effect → Effect)
    (kept : ∀ effect, (move effect).source = effect.source ∧
      (move effect).scopeId = effect.scopeId)
    (phases : ∀ effect : Effect, effect.Phase → (move effect).Phase)
    (legacy : other.effectRequests = ledger.effectRequests)
    (requests : other.typedEffectRequests = (effects.map move).map Effect.request)
    (fences : other.effectScopeFences = (effects.map move).map Effect.fence) :
    Holds other (effects.map move) where
  legacy := legacy.trans holds.legacy
  requests := requests
  fences := fences
  requestIds := by
    have same : Effect.requestId ∘ move = Effect.requestId :=
      funext fun effect => by simp [Effect.requestId, kept]
    simpa [List.map_map, same] using holds.requestIds
  idempotencyKeys := by
    have same : Effect.idempotencyKey ∘ move = Effect.idempotencyKey :=
      funext fun effect => by simp [Effect.idempotencyKey, kept]
    simpa [List.map_map, same] using holds.idempotencyKeys
  scopeIds := by
    have same : Effect.scopeId ∘ move = Effect.scopeId := funext fun effect => (kept effect).2
    simpa [List.map_map, same] using holds.scopeIds
  generationIds := by
    have same : Effect.generationId ∘ move = Effect.generationId :=
      funext fun effect => by simp [Effect.generationId, kept]
    rw [List.filterMap_map, same]
    exact holds.generationIds
  phases := by
    intro effect member
    obtain ⟨earlier, found, rfl⟩ := List.mem_map.mp member
    exact phases earlier (holds.phases earlier found)

theorem withEffects_moved (holds : Holds ledger effects) (move : Effect → Effect)
    (kept : ∀ effect, (move effect).source = effect.source ∧
      (move effect).scopeId = effect.scopeId)
    (phases : ∀ effect : Effect, effect.Phase → (move effect).Phase) :
    Holds (ledger.withEffects (effects.map move)) (effects.map move) :=
  holds.moved move kept phases rfl rfl rfl

theorem requestIds_rows (holds : Holds ledger effects) :
    (ledger.typedEffectRequests.map (·.requestId)).Nodup := by
  rw [holds.requests, List.map_map]
  exact holds.requestIds

theorem owners_rows (holds : Holds ledger effects) :
    (ledger.effectScopeFences.map (·.ownerRequestId)).Nodup := by
  rw [holds.fences, List.map_map]
  exact holds.requestIds

theorem scopes_rows (holds : Holds ledger effects) :
    (ledger.effectScopeFences.map (·.effectScopeId)).Nodup := by
  rw [holds.fences, List.map_map]
  exact holds.scopeIds

/-- The join of the request rows with the fences finds the effect's own fence. -/
theorem fenceOf?_eq (holds : Holds ledger effects) {effect : Effect} (member : effect ∈ effects) :
    ledger.fenceOf? effect.requestId = some effect.fence := by
  have row : effect.fence ∈ ledger.effectScopeFences := by
    rw [holds.fences]
    exact List.mem_map_of_mem member
  exact find?_key holds.owners_rows row

theorem scope_eq (holds : Holds ledger effects) {effect : Effect} (member : effect ∈ effects) :
    ledger.scope effect.scopeId = some effect.fence := by
  have row : effect.fence ∈ ledger.effectScopeFences := by
    rw [holds.fences]
    exact List.mem_map_of_mem member
  exact find?_key holds.scopes_rows row

/-- A scope that is found is the fence of an effect. -/
theorem effect_of_scope (holds : Holds ledger effects) {scopeId : ScopeId}
    {fence : EffectScopeFence} (found : ledger.scope scopeId = some fence) :
    ∃ effect ∈ effects, effect.scopeId = scopeId ∧ effect.fence = fence := by
  have member := List.mem_of_find?_eq_some found
  rw [holds.fences] at member
  obtain ⟨effect, owned, rfl⟩ := List.mem_map.mp member
  unfold EffectLedger.scope at found
  have sought := List.find?_some found
  exact ⟨effect, owned, of_decide_eq_true sought, rfl⟩

theorem requestState?_eq (holds : Holds ledger effects) {effect : Effect}
    (member : effect ∈ effects) : ledger.requestState? effect.requestId = some effect.state := by
  have row : effect.request ∈ ledger.typedEffectRequests := by
    rw [holds.requests]
    exact List.mem_map_of_mem member
  have found := find?_key holds.requestIds_rows row
  change ledger.typedEffectRequests.find? (fun row => row.requestId = effect.requestId) = _ at found
  simp [EffectLedger.requestState?, found, Effect.request]

/-- A request row that is found is the row of an effect. -/
theorem effect_of_requestState (holds : Holds ledger effects) {requestId : String}
    {state : EffectState} (found : ledger.requestState? requestId = some state) :
    ∃ effect ∈ effects, effect.requestId = requestId ∧ effect.state = state := by
  simp only [EffectLedger.requestState?, holds.legacy, List.find?_nil, Option.map_none,
    Option.or_none] at found
  obtain ⟨row, located, rfl⟩ := Option.map_eq_some_iff.mp found
  have member := List.mem_of_find?_eq_some located
  rw [holds.requests] at member
  obtain ⟨effect, owned, rfl⟩ := List.mem_map.mp member
  have sought := List.find?_some located
  exact ⟨effect, owned, of_decide_eq_true sought, rfl⟩

/-- No scope is unresolved exactly when no effect is open. -/
theorem unresolvedScopes_eq_nil (holds : Holds ledger effects) :
    ledger.unresolvedScopes = [] ↔ ∀ effect ∈ effects, effect.fenceState.unresolved = false := by
  have sorted : ledger.unresolvedScopes.Perm
      (ledger.effectScopeFences.filter (·.state.unresolved)) := List.perm_insertionSort _ _
  rw [← List.perm_nil, sorted.congr_left, List.perm_nil, holds.fences]
  simp [List.filter_eq_nil_iff]

end Holds

/-- What `transition` does when the request row and the fence row of a moved
effect are the rewritten rows of that effect. -/
theorem EffectLedger.transition_effects {ledger : EffectLedger} {effects : List Effect}
    (holds : Holds ledger effects) {arguments : Transition} {now : Nat} {result : Option Fields}
    (encoded : encodeResult arguments.result = .ok result) (move : Effect → Effect)
    (requestMoved : ∀ effect, (move effect).request =
      effect.request.moved arguments.state result now)
    (fenceMoved : ∀ effect, (move effect).fence =
      effect.fence.moved (arguments.scopeState.getD arguments.state) result now) :
    ledger.transition arguments now =
      (ledger.withEffects (effects.map fun effect =>
          if effect.requestId = arguments.requestId ∧ effect.state = arguments.expected then
            move effect else effect),
        .ok (decide (∃ effect ∈ effects, effect.requestId = arguments.requestId ∧
          effect.state = arguments.expected))) := by
  have one := countP_key_eq_one holds.requestIds_rows arguments.requestId
    fun row : TypedEffectRequest => row.state = arguments.expected
  have found : (∃ row ∈ ledger.typedEffectRequests, row.requestId = arguments.requestId ∧
      decide (row.state = arguments.expected) = true) ↔
      ∃ effect ∈ effects, effect.requestId = arguments.requestId ∧
        effect.state = arguments.expected := by
    rw [holds.requests]
    simp [Effect.request, Effect.requestId, TypedEffectRequest.admitted]
  rw [found] at one
  simp only [EffectLedger.transition, encoded]
  let after : Effect → Effect := fun effect =>
    if effect.requestId = arguments.requestId ∧ effect.state = arguments.expected then
      move effect else effect
  change _ = (ledger.withEffects (effects.map after), _)
  by_cases hit : ∃ effect ∈ effects, effect.requestId = arguments.requestId ∧
      effect.state = arguments.expected
  · rw [if_pos (one.mpr hit), decide_eq_true hit]
    obtain ⟨sought, owned, sameId, sameState⟩ := hit
    have requests : updateWhere (fun row : TypedEffectRequest =>
        row.requestId = arguments.requestId && row.state = arguments.expected)
        (·.moved arguments.state result now) ledger.typedEffectRequests =
          (effects.map after).map Effect.request := by
      rw [holds.requests]
      refine updateWhere_map Effect.request after effects fun effect _ => ?_
      change (if (decide (effect.requestId = _) && decide (effect.state = _)) = true then _
        else _) = _
      by_cases both : effect.requestId = arguments.requestId ∧ effect.state = arguments.expected
      · simp [after, both, requestMoved]
      · rw [if_neg (by simpa using both), show after effect = effect from if_neg both]
    have fences : updateWhere (fun fence : EffectScopeFence =>
        fence.ownerRequestId = arguments.requestId)
        (·.moved (arguments.scopeState.getD arguments.state) result now)
        ledger.effectScopeFences = (effects.map after).map Effect.fence := by
      rw [holds.fences]
      refine updateWhere_map Effect.fence after effects fun effect member => ?_
      change (if decide (effect.requestId = _) = true then _ else _) = _
      by_cases same : effect.requestId = arguments.requestId
      · -- the owner is unique, so this is the effect whose request was hit
        have alone : effect = sought :=
          eq_of_key holds.requestIds member owned (same.trans sameId.symm)
        subst alone
        simp [after, same, sameState, fenceMoved]
      · rw [if_neg (by simpa using same),
          show after effect = effect from if_neg fun both => same both.1]
    rw [requests, fences]
    rfl
  · rw [if_neg (mt one.mp hit), holds.legacy, decide_eq_false hit]
    simp only [List.countP_nil, Nat.zero_ne_one, if_false]
    have same : effects.map after = effects := by
      refine (List.map_congr_left fun effect member => ?_).trans (List.map_id effects)
      exact if_neg fun both => hit ⟨effect, member, both⟩
    rw [same, holds.withEffects_self]

theorem Effect.reservable_iff (effect : Effect) :
    effect.fence.reservable = true ↔
      effect.fenceState = .executionStarted ∧ effect.attempted = false := by
  cases attempted : effect.attempted <;>
    simp [EffectScopeFence.reservable, Effect.fence, attempted]

section FenceUpdates

variable {ledger : EffectLedger} {effects : List Effect} (holds : Holds ledger effects)
include holds

/-- `mark_effect_boundary` reserves the attempt of the effect it names, once. -/
theorem EffectLedger.markEffectBoundary_effects (requestId : String) (now : Nat) :
    ledger.markEffectBoundary requestId now =
      (ledger.withEffects (effects.map ((LedgerOp.markEffectBoundary requestId).move now)),
        .ok (decide (∃ effect ∈ effects, effect.requestId = requestId ∧
          effect.fenceState = .executionStarted ∧ effect.attempted = false))) := by
  have one := countP_key_eq_one holds.owners_rows requestId EffectScopeFence.reservable
  have found : (∃ fence ∈ ledger.effectScopeFences, fence.ownerRequestId = requestId ∧
      fence.reservable = true) ↔ ∃ effect ∈ effects, effect.requestId = requestId ∧
        effect.fenceState = .executionStarted ∧ effect.attempted = false := by
    rw [holds.fences]
    simp [Effect.reservable_iff]
  have fences : updateWhere (fun fence : EffectScopeFence =>
      fence.ownerRequestId = requestId && fence.reservable) (·.reserved now)
      ledger.effectScopeFences =
        (effects.map ((LedgerOp.markEffectBoundary requestId).move now)).map Effect.fence := by
    rw [holds.fences]
    refine updateWhere_map Effect.fence _ effects fun effect _ => ?_
    change (if (decide (effect.requestId = _) && effect.fence.reservable) = true then _ else _) = _
    by_cases hit : effect.requestId = requestId ∧ effect.fenceState = .executionStarted ∧
        effect.attempted = false
    · rw [if_pos (by simpa [effect.reservable_iff] using hit), LedgerOp.move, if_pos hit]
      rfl
    · rw [if_neg (by simpa [effect.reservable_iff] using hit), LedgerOp.move, if_neg hit]
  have requests : (effects.map ((LedgerOp.markEffectBoundary requestId).move now)).map
      Effect.request = effects.map Effect.request := by
    rw [List.map_map]
    refine List.map_congr_left fun effect _ => ?_
    simp only [Function.comp, LedgerOp.move]
    split <;> rfl
  simp only [EffectLedger.markEffectBoundary, EffectLedger.withEffects, fences, requests,
    ← holds.requests]
  simp [one, found]

/-- The update of a fence by its scope id, as a move of the effects. -/
theorem EffectLedger.updateScope_effects (scopeId : ScopeId)
    (rewrite : EffectScopeFence → EffectScopeFence) (move : Effect → Effect)
    (requestKept : ∀ effect, (move effect).request = effect.request)
    (hit : ∀ effect ∈ effects, effect.scopeId = scopeId →
      rewrite effect.fence = (move effect).fence)
    (missed : ∀ effect, effect.scopeId ≠ scopeId → move effect = effect) :
    updateWhere (fun fence => fence.effectScopeId = scopeId) rewrite ledger.effectScopeFences =
        (effects.map move).map Effect.fence ∧
      ledger.typedEffectRequests = (effects.map move).map Effect.request := by
  constructor
  · rw [holds.fences]
    refine updateWhere_map Effect.fence move effects fun effect member => ?_
    change (if decide (effect.scopeId = _) = true then _ else _) = _
    by_cases same : effect.scopeId = scopeId
    · rw [if_pos (by simpa using same), hit effect member same]
    · rw [if_neg (by simpa using same), missed effect same]
  · rw [holds.requests, List.map_map]
    exact List.map_congr_left fun effect _ => (requestKept effect).symm

end FenceUpdates

/-- A result that JSON cannot hold leaves the ledger as it is. -/
theorem EffectLedger.finish_unencodable (ledger : EffectLedger) (requestId : String) (ending : Ending)
    {fields : Fields} (now : Nat) (foreign : fields.encodable = false) :
    ledger.transition (finishTransition requestId ending (some fields)) now =
      (ledger, .error (typeError "Object is not JSON serializable")) := by
  simp [EffectLedger.transition, finishTransition, encodeResult, Fields.dumps, foreign, Except.map]

section Transitions

variable {ledger : EffectLedger} {effects : List Effect} (holds : Holds ledger effects)
include holds

theorem EffectLedger.start_effects (requestId : String) (now : Nat) :
    ledger.transition (startTransition requestId) now =
      (ledger.withEffects (effects.map ((LedgerOp.start requestId).move now)),
        .ok (decide (∃ effect ∈ effects, effect.requestId = requestId ∧
          effect.state = .accepted))) :=
  transition_effects holds rfl (·.started now) (fun _ => rfl) fun _ => rfl

theorem EffectLedger.finish_effects (requestId : String) (ending : Ending)
    (result : Option Fields) (now : Nat) (encodes : ∀ fields ∈ result, fields.encodable = true) :
    ledger.transition (finishTransition requestId ending result) now =
      (ledger.withEffects (effects.map ((LedgerOp.finish requestId ending result).move now)),
        .ok (decide (∃ effect ∈ effects, effect.requestId = requestId ∧
          effect.state = .executionStarted))) := by
  have encoded : encodeResult result = .ok result := by
    cases result with
    | none => rfl
    | some fields => simp [encodeResult, Fields.dumps, encodes fields rfl, Except.map]
  exact transition_effects holds encoded (·.finished ending result now)
    (fun _ => by cases ending <;> rfl) fun _ => rfl

end Transitions

end LiveStream.Boundary

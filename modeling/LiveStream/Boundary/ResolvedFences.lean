import LiveStream.Boundary.Handoff
import LiveStream.Boundary.Server

/-! A resolved fence and the single open effect, over every interleaving of the
handlers, their workers, reconciliations, handoffs and restarts. `transition`
moves the fence of its request whatever its state; where it never finds a
resolved one, resolved fences stay and at most one effect is open. -/

namespace LiveStream.Boundary

open LiveStream.Support

/-- The request row that an operation moves, and the state it expects there. -/
def LedgerOp.moves? : LedgerOp → Option (String × EffectState)
  | .start requestId => some (requestId, .accepted)
  | .finish requestId _ none => some (requestId, .executionStarted)
  | .finish requestId _ (some result) =>
    if result.encodable then some (requestId, .executionStarted) else none
  | .accept _ | .markEffectBoundary _ | .recordReconciliation _ | .recordTargetRetirement _
  | .switchAuthority _ | .reopen _ _ => none

/-- A transition that moves its request does not find the fence resolved. -/
def KeepsResolved (ledger : EffectLedger) (event : LedgerOp × Nat) : Prop :=
  ∀ moved ∈ event.1.moves?, ledger.requestState? moved.1 = some moved.2 →
    (ledger.fenceOf? moved.1).all (fun fence => !fence.state.resolved) = true

instance (ledger : EffectLedger) (event : LedgerOp × Nat) :
    Decidable (KeepsResolved ledger event) :=
  inferInstanceAs (Decidable (∀ moved ∈ event.1.moves?, _ → _))

/-- The operation does not move this effect out of a resolved fence state. -/
def LedgerOp.Spares (op : LedgerOp) (effect : Effect) : Prop :=
  ∀ expected, op.moves? = some (effect.requestId, expected) → effect.state = expected →
    effect.fenceState.resolved = false

theorem Holds.spares {ledger : EffectLedger} {effects : List Effect}
    (holds : Holds ledger effects) {event : LedgerOp × Nat} (keeps : KeepsResolved ledger event)
    {effect : Effect} (member : effect ∈ effects) : event.1.Spares effect := by
  intro expected named state
  have open_ := keeps (effect.requestId, expected) (by simp [named])
    (by rw [holds.requestState?_eq member, state])
  rw [holds.fenceOf?_eq member] at open_
  simpa using open_

/-- Encodable moves of a request are the ones that `moves?` names. -/
theorem LedgerOp.moves?_finish {requestId : String} {ending : Ending} {result : Option Fields}
    (encodes : (LedgerOp.finish requestId ending result).encodes = true) :
    (LedgerOp.finish requestId ending result).moves? = some (requestId, .executionStarted) := by
  cases result with
  | none => rfl
  | some fields => exact if_pos encodes

private theorem not_resolved_of_unresolved {state : EffectState}
    (unresolved : state.unresolved = true) : state.resolved = false := by
  cases state <;> first | rfl | cases unresolved

/-- A spared effect with a resolved fence keeps it. -/
theorem LedgerOp.move_resolved (op : LedgerOp) (now : Nat) {effect : Effect}
    (phase : effect.Phase) (encodes : op.encodes = true) (spares : op.Spares effect)
    (resolved : effect.fenceState.resolved = true) :
    (op.move now effect).fenceState = effect.fenceState := by
  have closed : effect.fenceState.unresolved ≠ true := fun unresolved => by
    rw [not_resolved_of_unresolved unresolved] at resolved
    cases resolved
  cases op with
  | accept _ | switchAuthority _ => rfl
  | start requestId =>
    rw [LedgerOp.move, if_neg]
    rintro ⟨rfl, accepted⟩
    rw [spares _ rfl accepted] at resolved
    cases resolved
  | finish requestId ending result =>
    rw [LedgerOp.move, if_neg]
    rintro ⟨rfl, running⟩
    rw [spares _ (moves?_finish encodes) running] at resolved
    cases resolved
  | markEffectBoundary requestId =>
    rw [LedgerOp.move, if_neg]
    rintro ⟨_, started, _⟩
    rw [started] at resolved
    cases resolved
  | recordReconciliation arguments =>
    simp only [LedgerOp.move]
    split
    · rw [if_neg fun hit => closed hit.2]
    · rfl
  | recordTargetRetirement arguments =>
    rw [LedgerOp.move, if_neg]
    rintro ⟨_, retirable, _⟩
    exact closed (EffectScopeFence.state_of_retirable retirable).1
  | reopen _ _ =>
    rw [show LedgerOp.move (.reopen _ _) now effect = effect.reopened now from rfl,
      (phase.reopened_states now).2.1, if_neg]
    rintro ⟨_, interrupted⟩
    cases fence : effect.fenceState <;> simp_all [EffectState.resolved, EffectState.interrupted]

/-- No operation opens the fence of an effect that it spares. -/
theorem LedgerOp.unresolved_of_move (op : LedgerOp) (now : Nat) {effect : Effect}
    (phase : effect.Phase) (encodes : op.encodes = true) (spares : op.Spares effect)
    (unresolved : (op.move now effect).fenceState.unresolved = true) :
    effect.fenceState.unresolved = true := by
  have allowed := phase.allowed
  cases op with
  | accept _ | switchAuthority _ => exact unresolved
  | start requestId =>
    simp only [LedgerOp.move] at unresolved
    split at unresolved
    · rename_i hit
      obtain ⟨rfl, accepted⟩ := hit
      have open_ := spares _ rfl accepted
      rw [accepted] at allowed
      cases fence : effect.fenceState <;>
        simp_all [phaseAllowed, EffectState.resolved, EffectState.unresolved]
    · exact unresolved
  | finish requestId ending result =>
    simp only [LedgerOp.move] at unresolved
    split at unresolved
    · rename_i hit
      obtain ⟨rfl, running⟩ := hit
      have open_ := spares _ (moves?_finish encodes) running
      rw [running] at allowed
      cases fence : effect.fenceState <;>
        simp_all [phaseAllowed, EffectState.resolved, EffectState.unresolved]
    · exact unresolved
  | markEffectBoundary requestId =>
    simp only [LedgerOp.move] at unresolved
    split at unresolved
    · rename_i hit
      rw [hit.2.1]
      rfl
    · exact unresolved
  | recordReconciliation arguments =>
    simp only [LedgerOp.move] at unresolved
    split at unresolved
    · split at unresolved
      · rename_i hit
        exact hit.2
      · exact unresolved
    · exact unresolved
  | recordTargetRetirement arguments =>
    simp only [LedgerOp.move] at unresolved
    split at unresolved
    · cases unresolved
    · exact unresolved
  | reopen _ _ =>
    rw [show LedgerOp.move (.reopen _ _) now effect = effect.reopened now from rfl,
      (phase.reopened_states now).2.1] at unresolved
    split at unresolved
    · rename_i hit
      cases fence : effect.fenceState <;> simp_all [EffectState.interrupted, EffectState.unresolved]
    · exact unresolved

/-- The number of open effects, which admission keeps at one. -/
def openCount (effects : List Effect) : Nat :=
  effects.countP fun effect => effect.fenceState.unresolved

theorem Holds.openCount_eq {ledger : EffectLedger} {effects : List Effect}
    (holds : Holds ledger effects) :
    (ledger.effectScopeFences.filter (·.state.unresolved)).length = openCount effects := by
  rw [← List.countP_eq_length_filter, holds.fences, List.countP_map]
  rfl

/-- At most one effect is open. -/
def Exclusive (ledger : EffectLedger) : Prop :=
  ∃ effects, Holds ledger effects ∧ openCount effects ≤ 1

theorem Exclusive.step {ledger : EffectLedger} (event : LedgerOp × Nat)
    (exclusive : Exclusive ledger) (keeps : KeepsResolved ledger event) :
    Exclusive (ledger.step event).1 := by
  obtain ⟨effects, holds, one⟩ := exclusive
  obtain ⟨after, advance, holdsAfter⟩ := EffectLedger.step_advances holds event
  refine ⟨after, holdsAfter, ?_⟩
  cases advance with
  | refused => exact one
  | moved encodes =>
    refine le_trans ?_ one
    rw [openCount, List.countP_map]
    exact List.countP_mono_left fun effect member unresolved =>
      event.1.unresolved_of_move event.2 (holds.phases effect member) encodes
        (holds.spares keeps member) unresolved
  | admitted source scopeId derived active _ _ _ _ quiet =>
    have none : effects.countP (fun effect => effect.fenceState.unresolved) = 0 :=
      List.countP_eq_zero.mpr fun effect member => by simp [quiet effect member]
    rw [openCount, List.countP_append, none, Nat.zero_add]
    exact List.countP_le_length

/-- A resolved fence has its state after every operation that keeps resolved fences. -/
theorem EffectLedger.step_resolved {ledger : EffectLedger} {effects : List Effect}
    (holds : Holds ledger effects) {event : LedgerOp × Nat} (keeps : KeepsResolved ledger event)
    {scopeId : ScopeId} {state : EffectState} (resolved : state.resolved = true)
    (found : (ledger.scope scopeId).map (·.state) = some state) :
    ((ledger.step event).1.scope scopeId).map (·.state) = some state := by
  obtain ⟨fence, located, rfl⟩ := Option.map_eq_some_iff.mp found
  obtain ⟨effect, member, rfl, rfl⟩ := holds.effect_of_scope located
  obtain ⟨after, advance, holdsAfter⟩ := EffectLedger.step_advances holds event
  cases advance with
  | refused =>
    rw [holdsAfter.scope_eq member]
    rfl
  | moved encodes =>
    have there := holdsAfter.scope_eq (List.mem_map_of_mem member)
    rw [LedgerOp.move_scopeId] at there
    rw [there, Option.map_some, Effect.fence_state, event.1.move_resolved event.2
      (holds.phases effect member) encodes (holds.spares keeps member) resolved]
    rfl
  | admitted source newScope derived =>
    rw [holdsAfter.scope_eq (List.mem_append_left _ member)]
    rfl

/-- What the executor, its clients and its operator can do next. -/
inductive ServerEvent where
  | connection (message : Message) (surroundings : Surroundings)
  | advance (index : Nat)
  | reconcile (arguments : ReconciliationRequest) (now : Nat)
  | retireTarget (arguments : RetirementRequest) (now : Nat)
  | handOff (arguments : Handoff) (now : Nat)
  | restart (producerId : String) (generation : Int) (now : Nat)

/-- Handlers and workers advance one ledger call at a time; a restart loses them. -/
def ServerEvent.toPool (config : ServerConfig) :
    ServerEvent → PoolEvent (LedgerOp × Nat) (Except PyError LedgerReply) Handled
  | .connection message surroundings => .spawn (handleConnection config message surroundings)
  | .advance index => .advance index
  | .reconcile arguments now => .direct (.recordReconciliation arguments, now)
  | .retireTarget arguments now => .direct (.recordTargetRetirement arguments, now)
  | .handOff arguments now => .direct (.switchAuthority arguments, now)
  | .restart producerId generation now => .restart (.reopen producerId generation, now)

/-- An executor with a new database and nothing running. -/
def newServer : Pool EffectLedger (LedgerOp × Nat) (Except PyError LedgerReply) Handled :=
  ⟨.empty, []⟩

/-- The executor after these events. -/
def serve (config : ServerConfig) (events : List ServerEvent) :
    Pool EffectLedger (LedgerOp × Nat) (Except PyError LedgerReply) Handled :=
  final (Pool.turn EffectLedger.step) newServer (events.map (·.toPool config))

/-- No step of the run moves a request whose fence is resolved. -/
def ServerKeepsResolved (config : ServerConfig) (events : List ServerEvent) : Prop :=
  Guarded (Pool.turn EffectLedger.step) (Pool.meets KeepsResolved) newServer
    (events.map (·.toPool config))

/-- Resolved fences of `earlier` are as they were, and at most one effect is open. -/
def FencesStay (earlier current : EffectLedger) : Prop :=
  (∀ fence ∈ earlier.effectScopeFences, fence.state.resolved = true →
      (current.scope fence.effectScopeId).map (·.state) = some fence.state) ∧
    (current.effectScopeFences.filter (·.state.unresolved)).length ≤ 1

theorem EffectLedger.fencesStay_of_run {ledger : EffectLedger} (events : List (LedgerOp × Nat))
    (exclusive : Exclusive ledger)
    (guarded : Guarded EffectLedger.step KeepsResolved ledger events) :
    FencesStay ledger (final EffectLedger.step ledger events) := by
  constructor
  · intro fence member resolved
    obtain ⟨effects, holds, _⟩ := exclusive
    have located : (ledger.scope fence.effectScopeId).map (·.state) = some fence.state := by
      rw [holds.fences] at member
      obtain ⟨effect, owned, rfl⟩ := List.mem_map.mp member
      rw [Effect.fence_effectScopeId, holds.scope_eq owned]
      rfl
    have kept := final_invariant
      (fun current : EffectLedger => current.Consistent ∧
        (current.scope fence.effectScopeId).map (·.state) = some fence.state)
      (fun current event ⟨consistent, there⟩ keeps =>
        ⟨consistent.step event, by
          obtain ⟨effects, holds⟩ := consistent
          exact EffectLedger.step_resolved holds keeps resolved there⟩)
      ⟨⟨effects, holds⟩, located⟩ guarded
    exact kept.2
  · obtain ⟨effects, holds, one⟩ :=
      final_invariant Exclusive (fun ledger event exclusive => exclusive.step event) exclusive guarded
    rw [holds.openCount_eq]
    exact one

/-- In every run that never moves a request with a resolved fence, resolved fences
stay resolved and at most one effect is open. -/
theorem resolved_fences_stay (config : ServerConfig) (first later : List ServerEvent)
    (keeps : ServerKeepsResolved config (first ++ later)) :
    FencesStay (serve config first).state (serve config (first ++ later)).state := by
  unfold ServerKeepsResolved at keeps
  rw [List.map_append, guarded_append] at keeps
  have firstPart := Pool.guarded_performed keeps.1
  have laterPart := Pool.guarded_performed keeps.2
  rw [Pool.final_state] at laterPart
  have exclusive : Exclusive (serve config first).state := by
    rw [serve, Pool.final_state]
    exact final_invariant Exclusive (fun ledger event exclusive => exclusive.step event)
      ⟨[], holds_empty, Nat.zero_le 1⟩ firstPart
  have stays := EffectLedger.fencesStay_of_run _ exclusive (by
    rw [serve, Pool.final_state]
    exact laterPart)
  have current : (serve config (first ++ later)).state =
      final EffectLedger.step (serve config first).state
        ((serve config first).performed EffectLedger.step
          (later.map (·.toPool config))) := by
    rw [serve, List.map_append, final_append, Pool.final_state]
    rfl
  rw [current]
  exact stays

/-- An executor that performs effects in workers and has them verified. -/
def asyncConfig : ServerConfig where
  allowedIntents := fun _ => true
  executeAsync := true
  requireTransportVerification := true
  hasRouteAuthorizer := false

/-- A target that stays what the request says, and an effect that is observed. -/
def steadySurroundings (generation : String) : Surroundings :=
  let current : CurrentTarget :=
    { ffmpegTarget := some (restartTarget generation)
      ffmpegGeneration := generation
      route := none
      routeGeneration := none
      runtimeIdentity := none
      executorInstanceId := "executor" }
  { firstGrant := .ok ""
    issueClock := 0
    expiryClock := 1
    firstTarget := .ok current
    secondTarget := .ok current
    secondGrant := .ok ""
    beforeEffect := none
    workerStarts := true
    performEffect := .ok []
    acceptedAt := 1
    startedAt := 2
    markedAt := 3
    finishedAt := 4 }

/-- The effect of one generation is concluded as observed. -/
def observedReconciliation (generation : String) : ReconciliationRequest where
  reconciliationId := generation
  effectScopeId := .exactTarget (restartTarget generation)
  resolution := Resolution.effectObserved.text
  evidence := [("physical_effect_count", .int 1), ("sample_count", .int 1),
    ("automatic_retry_count", .int 0)]
  ownerRequestId := none
  ownerRequestDigest := none

/-- A request is handled up to its worker. -/
def startedEvents : List ServerEvent :=
  [.restart "detector" 1 0,
    .connection (.effectRequest (restartFields "restart-1" "detector" "generation-1"))
      (steadySurroundings "generation-1"),
    .advance 0, .advance 0, .advance 0]

/-- The next request is admitted once the first is resolved. -/
def admittedEvents : List ServerEvent :=
  [.connection (.effectRequest (restartFields "restart-2" "detector" "generation-2"))
      (steadySurroundings "generation-2"),
    .advance 1]

/-- The worker is done before its effect is reconciled and the next one admitted. -/
theorem resolved_fences_stay_in_order :
    FencesStay
      (serve asyncConfig (startedEvents ++
        [.advance 0, .reconcile (observedReconciliation "generation-1") 5])).state
      (serve asyncConfig ((startedEvents ++
        [.advance 0, .reconcile (observedReconciliation "generation-1") 5]) ++
          admittedEvents)).state :=
  resolved_fences_stay asyncConfig _ admittedEvents (by
    unfold ServerKeepsResolved
    decide +kernel)

/-- A worker that ends after its effect was reconciled opens the fence again, and
two effects are open. -/
theorem resolved_fence_reopens :
    ¬ ∀ (config : ServerConfig) (first later : List ServerEvent),
      FencesStay (serve config first).state (serve config (first ++ later)).state := by
  intro every
  have stays := every asyncConfig
    (startedEvents ++ [.reconcile (observedReconciliation "generation-1") 5])
    (admittedEvents ++ [.advance 0])
  have one := stays.2
  revert one
  decide +kernel

end LiveStream.Boundary

import LiveStream.Boundary.ResolvedFences

/-! What a negative answer of the executor says. Each stage of a handling ends its
request truly unless an exception is taken for a refused input, or a result
cannot be encoded; then the row stays in `EXECUTION_STARTED`. -/

namespace LiveStream.Boundary

open LiveStream.Support

/-- An answer of no effect: `perform_effect` was not invoked, or it rejected the effect. -/
def Handled.AnswersTruly (handled : Handled) : Prop :=
  handled.response.state = .rejected ∨ handled.response.state = .effectFailed →
    handled.performed = none ∨
      ∃ reason, handled.performed = some (.error (.effectRejected reason))

theorem Handled.truly_of_state {handled : Handled}
    (rejected : handled.response.state ≠ .rejected)
    (failed : handled.response.state ≠ .effectFailed) : handled.AnswersTruly :=
  fun answer => (answer.elim rejected failed).elim

/-- The answer is true and the request is not left running. -/
def Fulfils (requestId : String) (result : EffectLedger × Handled) : Prop :=
  result.2.AnswersTruly ∧ result.1.requestState? requestId ≠ some .executionStarted

/-- An exception that a clause of the handler turns into a recorded outcome: it is
no `ValueError`, and JSON holds the result it carries. -/
def Raised.settled : Raised → Bool
  | .outcomeUnknown reason result => (unknownResult reason result).encodable
  | .effectRejected _ => true
  | .error exception => exception.kind ≠ .value

/-- The worker has no clause for `ValueError`, so only the result matters. -/
def workerSettles (surroundings : Surroundings) : Bool :=
  match surroundings.performEffect with
  | .ok fields => (auditedResult surroundings fields).encodable
  | .error (.outcomeUnknown reason result) => (unknownResult reason result).encodable
  | .error (.effectRejected _) | .error (.error _) => true

/-- The same for `perform_effect` in the handler itself. -/
def handlerSettles (surroundings : Surroundings) : Bool :=
  match surroundings.performEffect with
  | .ok fields => (auditedResult surroundings fields).encodable
  | .error raised => raised.settled

/-- What the callables must do between the start of the execution and its end;
`reservable` says that the attempt of the fence was not spent before. -/
def concludes (config : ServerConfig) (request : EffectRequest) (surroundings : Surroundings)
    (reservable : Bool) : Bool :=
  match surroundings.secondTarget with
  | .error raised => raised.settled
  | .ok current =>
    (identityMismatch request current).isSome ||
      match grantRefusal config request surroundings.secondGrant with
      | .error raised => raised.settled
      | .ok (some _) => true
      | .ok none =>
        !reservable ||
          if config.executeAsync then !surroundings.workerStarts || workerSettles surroundings
          else handlerSettles surroundings

/-- Whether `accept` accepts the request: it is recorded and still `ACCEPTED`, or it
is new, its producer is in office, and nothing holds its scope or is unresolved. -/
def EffectLedger.admits (ledger : EffectLedger) (request : EffectRequest) : Bool :=
  match (ledger.existingLegacy? request).or (ledger.existingTyped? request) with
  | some existing => existing.requestDigest = request.digest && existing.state = .accepted
  | none =>
    ledger.producer? = some (request.producerId, request.producerGeneration) &&
      match request.effectScopeId with
      | .error _ => false
      | .ok scopeId =>
        (ledger.claimingFence? request scopeId).isNone && ledger.unresolvedScopes.isEmpty &&
          (ledger.checkAdmission request scopeId).toOption.isSome

/-- The condition under which the handling of a request fulfils its answer. -/
def settles (config : ServerConfig) (request : EffectRequest) (surroundings : Surroundings)
    (ledger : EffectLedger) : Bool :=
  let idle : Bool := ledger.requestState? request.requestId ≠ some .executionStarted
  match preflight config request surroundings with
  | .error raised => raised.settled || idle
  | .ok (some _) => idle
  | .ok none =>
    if ledger.admits request then
      concludes config request surroundings
        ((ledger.fenceOf? request.requestId).all fun fence => !fence.effectBoundaryReached)
    else idle

/-- What others do before the n-th ledger call of a handling: up to the boundary
only workers of other requests run and the authority may change; after it, while
the worker performs the effect, anything but a restart and a move of this request. -/
def LedgerOp.Concurrent (requestId : String) (call : Nat) : LedgerOp → Prop
  | .finish other _ _ => other ≠ requestId
  | .start other | .markEffectBoundary other => 3 ≤ call ∧ other ≠ requestId
  | .accept _ | .recordReconciliation _ | .recordTargetRetirement _ => 3 ≤ call
  | .switchAuthority _ => True
  | .reopen _ _ => False

/-- The effect is one of the ledger. -/
def Located (ledger : EffectLedger) (effect : Effect) : Prop :=
  ∃ effects, Holds ledger effects ∧ effect ∈ effects

theorem Located.requestState? {ledger : EffectLedger} {effect : Effect}
    (located : Located ledger effect) :
    ledger.requestState? effect.requestId = some effect.state := by
  obtain ⟨effects, holds, member⟩ := located
  exact holds.requestState?_eq member

/-- An operation of the others keeps the request and its state, and before the
boundary the whole effect. -/
theorem LedgerOp.Concurrent.move {op : LedgerOp} {call : Nat} {effect : Effect}
    (concurrent : op.Concurrent effect.requestId call) (now : Nat) :
    (op.move now effect).state = effect.state ∧ (call < 3 → op.move now effect = effect) := by
  cases op with
  | accept _ | switchAuthority _ => exact ⟨rfl, fun _ => rfl⟩
  | start other | markEffectBoundary other =>
    have same : effect.requestId ≠ other := concurrent.2.symm
    simp [LedgerOp.move, same]
  | finish other ending result =>
    have same : effect.requestId ≠ other := Ne.symm concurrent
    simp [LedgerOp.move, same]
  | recordReconciliation arguments =>
    refine ⟨?_, fun before => absurd concurrent (by simpa [LedgerOp.Concurrent] using before)⟩
    simp only [LedgerOp.move]
    split
    · rename_i resolution _
      split
      · cases resolution <;> rfl
      · rfl
    · rfl
  | recordTargetRetirement arguments =>
    refine ⟨?_, fun before => absurd concurrent (by simpa [LedgerOp.Concurrent] using before)⟩
    simp only [LedgerOp.move]
    split <;> rfl
  | reopen _ _ => exact concurrent.elim

theorem Located.gap {ledger : EffectLedger} {effect : Effect} {call : Nat}
    (located : Located ledger effect) {events : List (LedgerOp × Nat)}
    (concurrent : ∀ event ∈ events, event.1.Concurrent effect.requestId call) :
    ∃ later, Located (final EffectLedger.step ledger events) later ∧
      later.requestId = effect.requestId ∧ later.state = effect.state ∧
        (call < 3 → later = effect) := by
  induction events generalizing ledger effect with
  | nil => exact ⟨effect, located, rfl, rfl, fun _ => rfl⟩
  | cons event rest inductionHypothesis =>
    obtain ⟨effects, holds, member⟩ := located
    obtain ⟨after, advance, holdsAfter⟩ := EffectLedger.step_advances holds event
    have first := concurrent event (by simp)
    have others : ∀ event ∈ rest, event.1.Concurrent effect.requestId call :=
      fun event later => concurrent event (by simp [later])
    cases advance with
    | refused => exact inductionHypothesis ⟨_, holdsAfter, member⟩ others
    | moved _ =>
      have ⟨state, whole⟩ := first.move event.2
      obtain ⟨later, found, id, same, unmoved⟩ := inductionHypothesis
        ⟨_, holdsAfter, List.mem_map_of_mem member⟩ (by simpa using others)
      exact ⟨later, found, by simpa using id, same.trans state,
        fun before => (unmoved before).trans (whole before)⟩
    | admitted =>
      exact inductionHypothesis ⟨_, holdsAfter, List.mem_append_left _ member⟩ others

/-- From its `call`-th ledger call on, a handling only meets concurrent operations. -/
def Quiet (requestId : String) (call : Nat) (gaps : Nat → List (LedgerOp × Nat)) : Prop :=
  ∀ index, ∀ event ∈ gaps index, event.1.Concurrent requestId (call + index)

theorem Quiet.next {requestId : String} {call : Nat} {gaps : Nat → List (LedgerOp × Nat)}
    (quiet : Quiet requestId call gaps) :
    Quiet requestId (call + 1) fun index => gaps (index + 1) := by
  intro index event member
  have concurrent := quiet (index + 1) event member
  rwa [show call + (index + 1) = call + 1 + index by omega] at concurrent

/-- After a transition from `EXECUTION_STARTED` that could be encoded, the request
is not running, whether the transition moved it or not. -/
theorem EffectLedger.finish_settles {ledger : EffectLedger} {effects : List Effect}
    (holds : Holds ledger effects) (requestId : String) (ending : Ending) {result : Fields}
    (now : Nat) (encodes : result.encodable = true) :
    (ledger.step (.finish requestId ending (some result), now)).1.requestState? requestId ≠
      some .executionStarted := by
  simp only [EffectLedger.step, finish_effects holds requestId ending (some result) now
    fun fields same => by cases same; exact encodes]
  intro running
  have moved := holds.withEffects_moved _
    (LedgerOp.move_source (.finish requestId ending (some result)) now)
    fun _ => LedgerOp.move_phase (.finish requestId ending (some result)) now
  obtain ⟨_, member, owner, state⟩ := moved.effect_of_requestState running
  obtain ⟨effect, _, rfl⟩ := List.mem_map.mp member
  rw [LedgerOp.move_requestId] at owner
  by_cases started : effect.state = .executionStarted
  · rw [LedgerOp.move, if_pos ⟨owner, started⟩] at state
    cases ending <;> cases state
  · rw [LedgerOp.move, if_neg fun hit => started hit.2] at state
    exact started state

/-- A located `ACCEPTED` request is started. -/
theorem Located.start {ledger : EffectLedger} {effect : Effect} (located : Located ledger effect)
    (accepted : effect.state = .accepted) (now : Nat) :
    (ledger.step (.start effect.requestId, now)).2 = .ok (.updated true) ∧
      Located (ledger.step (.start effect.requestId, now)).1 (effect.started now) := by
  obtain ⟨effects, holds, member⟩ := located
  simp only [EffectLedger.step, EffectLedger.start_effects holds, Prod.map_snd, Prod.map_fst, id_eq]
  have hit : ∃ other ∈ effects, other.requestId = effect.requestId ∧ other.state = .accepted :=
    ⟨effect, member, rfl, accepted⟩
  refine ⟨by rw [decide_eq_true hit]; rfl, _, holds.withEffects_moved _
    (LedgerOp.move_source (.start effect.requestId) now)
    (fun _ => LedgerOp.move_phase (.start effect.requestId) now), ?_⟩
  exact List.mem_map.mpr ⟨effect, member, if_pos ⟨rfl, accepted⟩⟩

/-- The boundary of a located effect is reserved once. -/
theorem Located.mark {ledger : EffectLedger} {effect : Effect} (located : Located ledger effect)
    (fenced : effect.fenceState = .executionStarted) (now : Nat) :
    (ledger.step (.markEffectBoundary effect.requestId, now)).2 =
        .ok (.updated (!effect.attempted)) ∧
      Located (ledger.step (.markEffectBoundary effect.requestId, now)).1
        (if effect.attempted then effect else effect.reserved now) := by
  obtain ⟨effects, holds, member⟩ := located
  simp only [EffectLedger.step, EffectLedger.markEffectBoundary_effects holds, Prod.map_snd,
    Prod.map_fst, id_eq]
  have hit : (∃ other ∈ effects, other.requestId = effect.requestId ∧
      other.fenceState = .executionStarted ∧ other.attempted = false) ↔
        effect.attempted = false := by
    constructor
    · rintro ⟨other, owned, same, _, unattempted⟩
      exact eq_of_key holds.requestIds owned member same ▸ unattempted
    · exact fun unattempted => ⟨effect, member, rfl, fenced, unattempted⟩
  refine ⟨?_, _, holds.withEffects_moved _
    (LedgerOp.move_source (.markEffectBoundary effect.requestId) now)
    (fun _ => LedgerOp.move_phase (.markEffectBoundary effect.requestId) now), ?_⟩
  · refine congrArg (fun reserved => Except.ok (LedgerReply.updated reserved)) ?_
    rw [Bool.eq_iff_iff, decide_eq_true_iff, hit, Bool.not_eq_true']
  · refine List.mem_map.mpr ⟨effect, member, ?_⟩
    cases attempted : effect.attempted <;> simp [LedgerOp.move, fenced, attempted]

section Stages

variable {ledger : EffectLedger} {effect : Effect} {request : EffectRequest} {call : Nat}
variable {gaps : Nat → List (LedgerOp × Nat)}
variable (located : Located ledger effect) (running : effect.state = .executionStarted)
variable (owner : effect.requestId = request.requestId)
variable (quiet : Quiet request.requestId call gaps)
include located running owner quiet

/-- A persisted transition fulfils the answer exactly when its result can be encoded. -/
theorem safeTransition_fulfils (ending : Ending) (result : Fields) (now : Nat)
    (handled : Bool → Handled) (truly : ∀ kept, (handled kept).AnswersTruly) :
    Fulfils request.requestId
        ((safeTransition request ending result now fun kept => .done (handled kept)).among
          EffectLedger.step gaps ledger) ↔ result.encodable = true := by
  obtain ⟨later, ⟨effects, holds, member⟩, id, state, _⟩ :=
    located.gap (by rw [owner]; exact quiet 0)
  rw [safeTransition, Task.among_call, Task.among_done]
  by_cases encodes : result.encodable = true
  · exact iff_of_true ⟨truly _, EffectLedger.finish_settles holds _ ending now encodes⟩ encodes
  · refine iff_of_false (fun fulfils => fulfils.2 ?_) encodes
    simp only [EffectLedger.step, EffectLedger.finish_unencodable _ request.requestId ending now
      (by simpa using encodes)]
    rw [← owner, ← id]
    exact (holds.requestState?_eq member).trans (congrArg some (state.trans running))

/-- An exception while the request runs is answered truly exactly when it settles. -/
theorem settle_fulfils (raised : Raised) (performed : Option (Except Raised Fields)) (now : Nat)
    (cause : performed = none ∨ performed = some (.error raised)) :
    Fulfils request.requestId
      ((settle request raised performed now).among EffectLedger.step gaps ledger) ↔
        raised.settled = true := by
  cases raised with
  | outcomeUnknown reason result =>
    rw [settle, safeTransition_fulfils located running owner quiet, Raised.settled]
    exact fun _ => Handled.truly_of_state (by simp [respond]) (by simp [respond])
  | effectRejected reason =>
    rw [settle, safeTransition_fulfils located running owner quiet]
    · exact iff_of_true rfl rfl
    · exact fun _ _ => cause.imp id fun same => ⟨reason, same⟩
  | error error =>
    rw [settle, Raised.settled, decide_eq_true_iff]
    split
    · rename_i value
      refine iff_of_false (fun fulfils => fulfils.2 ?_) (not_not.mpr value)
      rw [Task.among_done, ← owner, located.requestState?, running]
    · rename_i other
      rw [safeTransition_fulfils located running owner quiet]
      · exact iff_of_true rfl other
      · exact fun _ => Handled.truly_of_state (by simp [respond]) (by simp [respond])

theorem performSynchronously_fulfils (config : ServerConfig) (surroundings : Surroundings) :
    Fulfils request.requestId
      ((performSynchronously config request surroundings).among EffectLedger.step gaps ledger) ↔
        handlerSettles surroundings = true := by
  unfold performSynchronously handlerSettles
  cases surroundings.performEffect with
  | error raised => exact settle_fulfils located running owner quiet _ _ _ (.inr rfl)
  | ok fields =>
    refine safeTransition_fulfils located running owner quiet _ _ _ _ fun kept => ?_
    cases kept <;> exact Handled.truly_of_state (by simp [respond]) (by simp [respond])

theorem completeEffect_fulfils (config : ServerConfig) (surroundings : Surroundings)
    (response : Response) (pending : response.state = .executionStarted) :
    Fulfils request.requestId
      ((completeEffect config request surroundings response).among EffectLedger.step gaps
        ledger) ↔ workerSettles surroundings = true := by
  have truly : ∀ performed, Handled.AnswersTruly ⟨response, performed⟩ := fun _ =>
    Handled.truly_of_state (by simp [pending]) (by simp [pending])
  unfold completeEffect workerSettles
  cases surroundings.performEffect with
  | ok fields => exact safeTransition_fulfils located running owner quiet _ _ _ _ fun _ => truly _
  | error raised =>
    cases raised with
    | outcomeUnknown reason result =>
      exact safeTransition_fulfils located running owner quiet _ _ _ _ fun _ => truly _
    | effectRejected reason =>
      exact (safeTransition_fulfils located running owner quiet _ _ _ _ fun _ => truly _).trans
        (iff_of_true rfl rfl)
    | error error =>
      exact (safeTransition_fulfils located running owner quiet _ _ _ _ fun _ => truly _).trans
        (iff_of_true rfl rfl)

theorem crossBoundary_fulfils (before : call < 3) (fenced : effect.fenceState = .executionStarted)
    (config : ServerConfig) (surroundings : Surroundings) :
    Fulfils request.requestId
      ((crossBoundary config request surroundings).among EffectLedger.step gaps ledger) ↔
        (effect.attempted ||
          if config.executeAsync then !surroundings.workerStarts || workerSettles surroundings
          else handlerSettles surroundings) = true := by
  obtain ⟨later, there, _, _, same⟩ := located.gap (by rw [owner]; exact quiet 0)
  obtain rfl := same before
  have ⟨answer, marked⟩ := there.mark fenced surroundings.markedAt
  rw [owner] at answer marked
  rw [crossBoundary, Task.among_call, answer]
  cases attempted : later.attempted with
  | true =>
    rw [attempted, if_pos rfl] at marked
    simp only [Bool.not_true, Bool.true_or, iff_true]
    rw [safeTransition_fulfils marked running owner quiet.next]
    · rfl
    · exact fun _ => Handled.truly_of_state (by simp [respond]) (by simp [respond])
  | false =>
    rw [attempted, if_neg Bool.false_ne_true] at marked
    have reserved : (later.reserved surroundings.markedAt).state = .executionStarted := running
    have id : (later.reserved surroundings.markedAt).requestId = request.requestId := owner
    simp only [Bool.not_false, Bool.false_or]
    cases config.executeAsync with
    | false => exact performSynchronously_fulfils marked reserved id quiet.next config surroundings
    | true =>
      simp only [if_true, startEffectWorker]
      cases surroundings.workerStarts with
      | true =>
        simp only [if_true, Bool.not_true, Bool.false_or]
        exact completeEffect_fulfils marked reserved id quiet.next config surroundings _ rfl
      | false =>
        simp only [Bool.false_eq_true, if_false, Bool.not_false, Bool.true_or, iff_true]
        rw [settle_fulfils marked reserved id quiet.next _ _ _ (.inl rfl)]
        rfl

theorem revalidate_fulfils (before : call < 3) (fenced : effect.fenceState = .executionStarted)
    (config : ServerConfig) (surroundings : Surroundings) (replay : Bool) :
    Fulfils request.requestId
      ((revalidate config request surroundings replay).among EffectLedger.step gaps ledger) ↔
        concludes config request surroundings (!effect.attempted) = true := by
  unfold revalidate concludes
  cases surroundings.secondTarget with
  | error raised => exact settle_fulfils located running owner quiet _ _ _ (.inl rfl)
  | ok current =>
    simp only
    cases identityMismatch request current with
    | some mismatch =>
      simp only [Option.isSome_some, Bool.true_or, iff_true]
      rw [safeTransition_fulfils located running owner quiet]
      · rfl
      · exact fun _ _ => .inl rfl
    | none =>
      simp only [Option.isSome_none, Bool.false_or, Bool.not_not]
      cases grantRefusal config request surroundings.secondGrant with
      | error raised => exact settle_fulfils located running owner quiet _ _ _ (.inl rfl)
      | ok refusal =>
        cases refusal with
        | some reason =>
          simp only [iff_true]
          rw [safeTransition_fulfils located running owner quiet]
          · rfl
          · exact fun _ _ => .inl rfl
        | none =>
          exact crossBoundary_fulfils located running owner quiet before fenced config surroundings

end Stages

/-- The ledger is consistent and the request is not running. -/
def Idle (ledger : EffectLedger) (requestId : String) : Prop :=
  ledger.Consistent ∧ ledger.requestState? requestId ≠ some .executionStarted

theorem Idle.gap {ledger : EffectLedger} {requestId : String} {call : Nat}
    (idle : Idle ledger requestId) {events : List (LedgerOp × Nat)}
    (concurrent : ∀ event ∈ events, event.1.Concurrent requestId call) :
    Idle (final EffectLedger.step ledger events) requestId := by
  induction events generalizing ledger with
  | nil => exact idle
  | cons event rest inductionHypothesis =>
    refine inductionHypothesis ⟨idle.1.step event, fun running => idle.2 ?_⟩
      fun other later => concurrent other (by simp [later])
    obtain ⟨⟨effects, holds⟩, _⟩ := idle
    obtain ⟨after, advance, holdsAfter⟩ := EffectLedger.step_advances holds event
    obtain ⟨effect, member, rfl, state⟩ := holdsAfter.effect_of_requestState running
    cases advance with
    | refused => rw [holds.requestState?_eq member, state]
    | moved _ =>
      obtain ⟨earlier, owned, rfl⟩ := List.mem_map.mp member
      rw [LedgerOp.move_requestId] at concurrent ⊢
      rw [holds.requestState?_eq owned,
        ← ((concurrent event (by simp)).move event.2).1, state]
    | admitted source scopeId derived =>
      rcases List.mem_append.mp member with old | new
      · rw [holds.requestState?_eq old, state]
      · obtain rfl := List.mem_singleton.mp new
        cases state

/-- An exception of a request that is not running is always answered truly. -/
theorem settle_fulfils_idle {ledger : EffectLedger} {request : EffectRequest} {call : Nat}
    {gaps : Nat → List (LedgerOp × Nat)} (idle : Idle ledger request.requestId)
    (quiet : Quiet request.requestId call gaps) (raised : Raised) (now : Nat) :
    Fulfils request.requestId
      ((settle request raised none now).among EffectLedger.step gaps ledger) := by
  have untouched : ∀ (ending : Ending) (result : Fields) (handled : Handled),
      handled.AnswersTruly → Fulfils request.requestId
        ((safeTransition request ending result now fun _ => .done handled).among
          EffectLedger.step gaps ledger) := by
    intro ending result handled truly
    obtain ⟨⟨effects, holds⟩, still⟩ := idle.gap (quiet 0)
    rw [safeTransition, Task.among_call, Task.among_done]
    refine ⟨truly, ?_⟩
    by_cases encodes : result.encodable = true
    · exact EffectLedger.finish_settles holds _ ending now encodes
    · simp only [EffectLedger.step, EffectLedger.finish_unencodable _ request.requestId ending now
        (by simpa using encodes)]
      exact still
  cases raised with
  | outcomeUnknown reason result =>
    exact untouched _ _ _ (Handled.truly_of_state (by simp [respond]) (by simp [respond]))
  | effectRejected reason => exact untouched _ _ _ fun _ => .inl rfl
  | error error =>
    rw [settle]
    split
    · exact ⟨fun _ => .inl rfl, idle.2⟩
    · exact untouched _ _ _ (Handled.truly_of_state (by simp [respond]) (by simp [respond]))

section Admission

variable {ledger : EffectLedger} {effects : List Effect} (holds : Holds ledger effects)
include holds

/-- The rows that `accept` finds for a request are rows of effects; a row with the
digest of the request is the row of this request. -/
theorem existing_effects (request : EffectRequest) :
    match (ledger.existingLegacy? request).or (ledger.existingTyped? request) with
    | some existing => ∃ effect ∈ effects, existing.requestDigest = effect.source.1.digest ∧
        existing.state = effect.state
    | none => ∀ effect ∈ effects, effect.requestId ≠ request.requestId := by
  simp only [EffectLedger.existingLegacy?, holds.legacy, List.find?_nil, Option.or_none,
    Option.map_none, Option.none_or, EffectLedger.existingTyped?]
  split
  · rename_i existing found
    obtain ⟨row, located, rfl⟩ := Option.map_eq_some_iff.mp found
    have member : row ∈ ledger.typedEffectRequests := by
      rcases Option.or_eq_some_iff.mp located with first | second
      · exact List.mem_of_find?_eq_some first
      · exact List.mem_of_find?_eq_some second.2
    rw [holds.requests] at member
    obtain ⟨effect, owned, rfl⟩ := List.mem_map.mp member
    exact ⟨effect, owned, rfl, rfl⟩
  · rename_i missing
    intro effect member same
    simp only [Option.map_eq_none_iff, Option.or_eq_none_iff, List.find?_eq_none,
      holds.requests, List.forall_mem_map] at missing
    exact missing.1 effect member (decide_eq_true same)

theorem fenceOf?_eq_none {requestId : String}
    (absent : ∀ effect ∈ effects, effect.requestId ≠ requestId) :
    ledger.fenceOf? requestId = none := by
  rw [EffectLedger.fenceOf?, List.find?_eq_none, holds.fences]
  simp only [List.forall_mem_map, Effect.fence_ownerRequestId, decide_eq_true_eq]
  exact absent

theorem idle_of_absent {requestId : String}
    (absent : ∀ effect ∈ effects, effect.requestId ≠ requestId) : Idle ledger requestId := by
  refine ⟨⟨effects, holds⟩, fun running => ?_⟩
  obtain ⟨effect, member, same, _⟩ := holds.effect_of_requestState running
  exact absent effect member same

/-- An admitted request is accepted, and its effect can be reserved unless the
attempt of its fence was spent before. -/
theorem EffectLedger.accept_admitted (served : effects = [] ∨ ledger.producer?.isSome = true)
    (source : ParsedRequest) (now : Nat) (admits : ledger.admits source.1 = true) :
    ∃ reply effect, (ledger.accept source.1 now).2 = .ok reply ∧ reply.accepted = true ∧
      Located (ledger.accept source.1 now).1 effect ∧
      effect.requestId = source.1.requestId ∧ effect.state = .accepted ∧
      (ledger.fenceOf? source.1.requestId).all (fun fence => !fence.effectBoundaryReached) =
        !effect.attempted := by
  have rows := existing_effects holds source.1
  unfold EffectLedger.admits at admits
  unfold EffectLedger.accept
  cases found : (ledger.existingLegacy? source.1).or (ledger.existingTyped? source.1) with
  | some existing =>
    simp only [found, Bool.and_eq_true, decide_eq_true_eq] at rows admits
    obtain ⟨effect, member, digest, state⟩ := rows
    obtain ⟨active, authority, _⟩ := Option.map_eq_some_iff.mp (Option.isSome_iff_exists.mp
      (served.resolve_left (List.ne_nil_of_mem member))).choose_spec
    -- the digest covers the request id, so this is the row of the request itself
    have same : effect.requestId = source.1.requestId :=
      congrArg RequestFields.requestId (digest.symm.trans admits.1)
    refine ⟨existing.reply source.1.digest, effect, by rw [authority], ?_,
      by rw [authority]; exact ⟨effects, holds, member⟩, same, state ▸ admits.2, ?_⟩
    · simp [ExistingRequest.reply, admits]
    · rw [← same, holds.fenceOf?_eq member]
      rfl
  | none =>
    simp only [found, Bool.and_eq_true, decide_eq_true_eq] at rows admits
    obtain ⟨office, claims⟩ := admits
    obtain ⟨active, authority, producer⟩ := Option.map_eq_some_iff.mp office
    obtain ⟨producerId, generation⟩ := Prod.mk.inj producer
    cases derived : source.1.effectScopeId with
    | error error => simp [derived] at claims
    | ok scopeId =>
      simp only [derived, Bool.and_eq_true, Option.isNone_iff_eq_none, List.isEmpty_iff] at claims
      obtain ⟨⟨unclaimed, quiet⟩, checked⟩ := claims
      have admissible : ledger.checkAdmission source.1 scopeId = .ok () := by
        cases outcome : ledger.checkAdmission source.1 scopeId with
        | error error => simp [outcome, Except.toOption] at checked
        | ok _ => rfl
      have step : ledger.claim source.1 now = (ledger.insertRequest source.1 scopeId now,
          .ok ⟨true, .acceptedDurable, .accepted, false, none, some scopeId, none⟩) := by
        simp [EffectLedger.claim, derived, unclaimed, quiet, admissible]
      simp only [authority, producerId, generation, ne_eq, not_true_eq_false, if_false, step]
      refine ⟨_, Effect.admitted source scopeId derived now, rfl, rfl,
        ⟨_, admit_effects holds derived now unclaimed admissible, by simp⟩, rfl, rfl, ?_⟩
      rw [fenceOf?_eq_none holds rows]
      rfl

/-- A request that is not admitted leaves the ledger as it is; where `accept`
raises, the request was not running. -/
theorem EffectLedger.accept_refused (served : effects = [] ∨ ledger.producer?.isSome = true)
    (source : ParsedRequest) (now : Nat) (refuses : ledger.admits source.1 = false) :
    (ledger.accept source.1 now).1 = ledger ∧
      ((∃ reply, (ledger.accept source.1 now).2 = .ok reply ∧ reply.accepted = false) ∨
        (∃ error, (ledger.accept source.1 now).2 = .error error) ∧
          Idle ledger source.1.requestId) := by
  have rows := existing_effects holds source.1
  unfold EffectLedger.admits at refuses
  unfold EffectLedger.accept
  cases authority : ledger.runtimeAuthority with
  | none =>
    have empty : effects = [] := served.resolve_right (by simp [EffectLedger.producer?, authority])
    exact ⟨rfl, .inr ⟨⟨_, rfl⟩, idle_of_absent holds (by simp [empty])⟩⟩
  | some active =>
    cases found : (ledger.existingLegacy? source.1).or (ledger.existingTyped? source.1) with
    | some existing =>
      simp only [found] at refuses
      refine ⟨rfl, .inl ⟨_, rfl, ?_⟩⟩
      unfold ExistingRequest.reply
      split
      · rfl
      · rename_i same
        simpa [not_not.mp same] using refuses
    | none =>
      simp only [found] at rows refuses
      have idle := idle_of_absent holds rows
      simp only [EffectLedger.producer?, authority, Option.map_some] at refuses
      dsimp only
      split_ifs with other older
      · exact ⟨rfl, .inl ⟨_, rfl, rfl⟩⟩
      · exact ⟨rfl, .inl ⟨_, rfl, rfl⟩⟩
      · rw [not_not.mp other, not_not.mp older] at refuses
        simp only [decide_true, Bool.true_and] at refuses
        unfold EffectLedger.claim
        cases derived : source.1.effectScopeId with
        | error error => exact ⟨rfl, .inr ⟨⟨_, rfl⟩, idle⟩⟩
        | ok scopeId =>
          simp only [derived] at refuses ⊢
          cases claimed : ledger.claimingFence? source.1 scopeId with
          | some fence => exact ⟨rfl, .inl ⟨_, rfl, rfl⟩⟩
          | none =>
            cases unresolved : ledger.unresolvedScopes with
            | cons fence rest => exact ⟨rfl, .inl ⟨_, rfl, rfl⟩⟩
            | nil =>
              cases checked : ledger.checkAdmission source.1 scopeId with
              | error error => exact ⟨rfl, .inr ⟨⟨_, rfl⟩, idle⟩⟩
              | ok _ => simp [claimed, unresolved, checked, Except.toOption] at refuses

end Admission

/-- The execution of an accepted request ends truly exactly when the callables conclude it. -/
theorem execute_fulfils {ledger : EffectLedger} {effect : Effect} {request : EffectRequest}
    {gaps : Nat → List (LedgerOp × Nat)} (located : Located ledger effect)
    (accepted : effect.state = .accepted) (owner : effect.requestId = request.requestId)
    (quiet : Quiet request.requestId 1 gaps) (config : ServerConfig)
    (surroundings : Surroundings) (replay : Bool) :
    Fulfils request.requestId
      ((execute config request surroundings replay).among EffectLedger.step gaps ledger) ↔
        concludes config request surroundings (!effect.attempted) = true := by
  obtain ⟨later, there, _, _, same⟩ := located.gap (by rw [owner]; exact quiet 0)
  obtain rfl := same (by decide)
  have ⟨answer, started⟩ := there.start accepted surroundings.startedAt
  rw [owner] at answer started
  rw [execute, Task.among_call, answer]
  exact revalidate_fulfils started rfl owner quiet.next (by decide) rfl config surroundings replay

section Handling

variable {ledger : EffectLedger} {effects : List Effect} {request : ParsedRequest}
variable {gaps : Nat → List (LedgerOp × Nat)} (holds : Holds ledger effects)
variable (quiet : Quiet request.1.requestId 0 gaps) (still : gaps 0 = [])
include holds quiet

/-- An exception before `accept`: only one that settles excuses a running row. -/
theorem refusal_fulfils (raised : Raised) (now : Nat) :
    Fulfils request.1.requestId
      ((settle request.1 raised none now).among EffectLedger.step gaps ledger) ↔
        raised.settled = true ∨ ledger.requestState? request.1.requestId ≠
          some .executionStarted := by
  by_cases running : ledger.requestState? request.1.requestId = some .executionStarted
  · obtain ⟨effect, member, owner, state⟩ := holds.effect_of_requestState running
    rw [settle_fulfils ⟨effects, holds, member⟩ state owner quiet _ _ _ (.inl rfl)]
    simp [running]
  · exact iff_of_true (settle_fulfils_idle ⟨⟨effects, holds⟩, running⟩ quiet raised now)
      (.inr running)

include still

/-- What follows an admission. -/
theorem admission_fulfils (served : effects = [] ∨ ledger.producer?.isSome = true)
    (config : ServerConfig) (surroundings : Surroundings)
    (passes : preflight config request.1 surroundings = .ok none) :
    Fulfils request.1.requestId
      ((handleRequest config request surroundings).among EffectLedger.step gaps ledger) ↔
        settles config request.1 surroundings ledger = true := by
  unfold handleRequest settles
  simp only [passes, Task.among_call, still, final_nil, EffectLedger.step, Prod.map_fst,
    Prod.map_snd, id_eq]
  cases admits : ledger.admits request.1 with
  | true =>
    obtain ⟨reply, effect, answer, accepted, located, owner, state, attempt⟩ :=
      EffectLedger.accept_admitted holds served request surroundings.acceptedAt admits
    simp only [answer, Except.map, accepted, if_true, attempt]
    exact execute_fulfils located state owner quiet.next config surroundings reply.replay
  | false =>
    obtain ⟨unchanged, ⟨reply, answer, refused⟩ | ⟨⟨error, answer⟩, idle⟩⟩ :=
      EffectLedger.accept_refused holds served request surroundings.acceptedAt admits
    · simp only [answer, Except.map, refused, unchanged, Bool.false_eq_true, if_false,
        Task.among_done, decide_eq_true_eq]
      exact and_iff_right fun _ => .inl rfl
    · simp only [answer, Except.map, unchanged, Bool.false_eq_true, if_false, decide_eq_true_eq]
      exact iff_of_true (settle_fulfils_idle idle quiet.next _ _) idle.2

theorem handleRequest_fulfils (served : effects = [] ∨ ledger.producer?.isSome = true)
    (config : ServerConfig) (surroundings : Surroundings) :
    Fulfils request.1.requestId
      ((handleRequest config request surroundings).among EffectLedger.step gaps ledger) ↔
        settles config request.1 surroundings ledger = true := by
  cases checked : preflight config request.1 surroundings with
  | error raised =>
    simp only [handleRequest, settles, checked, Bool.or_eq_true, decide_eq_true_eq]
    exact refusal_fulfils holds quiet raised surroundings.finishedAt
  | ok refusal =>
    cases refusal with
    | some reason =>
      simp only [handleRequest, settles, checked, Task.among_done, decide_eq_true_eq]
      exact and_iff_right fun _ => .inl rfl
    | none => exact admission_fulfils holds quiet still served config surroundings checked

end Handling

end LiveStream.Boundary

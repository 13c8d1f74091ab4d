import LiveStream.Boundary.NegativeAnswers
import LiveStream.Support.Obligation

/-! The answers of the executor over whole runs: a started execution is a debt of
the ledger, and the handler that started it, or its worker, owes the end. -/

namespace LiveStream.Boundary

open LiveStream.Support

/-- The task once its next call has answered. -/
def LedgerTask.after : LedgerTask → Except PyError LedgerReply → LedgerTask
  | .call _ next, answer => next answer
  | .done handled, _ => .done handled

/-- Only the start of an accepted request makes it run. -/
theorem LedgerOp.move_running {op : LedgerOp} {now : Nat} {effect : Effect}
    (running : (op.move now effect).state = .executionStarted) :
    effect.state = .executionStarted ∨
      op = .start effect.requestId ∧ effect.state = .accepted := by
  cases op with
  | accept _ | switchAuthority _ => exact .inl running
  | start requestId =>
    simp only [LedgerOp.move] at running
    split at running
    · rename_i hit
      exact .inr ⟨congrArg _ hit.1.symm, hit.2⟩
    · exact .inl running
  | finish requestId ending result =>
    simp only [LedgerOp.move] at running
    split at running
    · cases ending <;> cases running
    · exact .inl running
  | markEffectBoundary requestId =>
    simp only [LedgerOp.move] at running
    split at running <;> exact .inl running
  | recordReconciliation arguments =>
    simp only [LedgerOp.move] at running
    split at running
    · rename_i resolution _
      split at running
      · cases resolution <;> exact .inl running
      · exact .inl running
    · exact .inl running
  | recordTargetRetirement arguments =>
    simp only [LedgerOp.move] at running
    split at running <;> exact .inl running
  | reopen _ _ =>
    rw [LedgerOp.move, Effect.reopened, Effect.restarted_state, Effect.consumed_state] at running
    split at running
    · cases running
    · exact .inl running

/-- Each running execution is owed an end that JSON can hold. -/
def executions : Obligation EffectLedger.step String where
  invariant := EffectLedger.Consistent
  due requestId ledger := ledger.requestState? requestId = some .executionStarted
  incurs requestId event answer := event.1 = .start requestId ∧ answer = .ok (.updated true)
  pays requestId event :=
    ∃ ending result, event.1 = .finish requestId ending (some result) ∧ result.encodable = true
  kept event consistent := consistent.step event
  incurred := by
    rintro ledger ⟨op, now⟩ requestId ⟨effects, holds⟩ running
    obtain ⟨after, advance, holdsAfter⟩ := EffectLedger.step_advances holds (op, now)
    obtain ⟨effect, member, rfl, state⟩ := holdsAfter.effect_of_requestState running
    cases advance with
    | refused => exact .inl (by rw [holds.requestState?_eq member, state])
    | moved _ =>
      obtain ⟨earlier, owned, rfl⟩ := List.mem_map.mp member
      rw [LedgerOp.move_requestId]
      rcases LedgerOp.move_running state with before | ⟨rfl, accepted⟩
      · exact .inl (by rw [holds.requestState?_eq owned, before])
      · exact .inr ⟨rfl, (Located.start ⟨effects, holds, owned⟩ accepted now).1⟩
    | admitted source scopeId derived =>
      rcases List.mem_append.mp member with old | new
      · exact .inl (by rw [holds.requestState?_eq old, state])
      · obtain rfl := List.mem_singleton.mp new
        cases state
  paid := by
    rintro ledger ⟨op, now⟩ requestId ⟨effects, holds⟩ ⟨ending, result, rfl, encodes⟩
    exact EffectLedger.finish_settles holds requestId ending now encodes

/-- A task that answers truly and ends every execution it starts. -/
structure Honest (task : LedgerTask) : Prop where
  ends : task.Ends EffectLedger.step Handled.AnswersTruly
  settles : task.Settles executions

/-- An honest task that also ends the execution of this request. -/
structure Concluding (requestId : String) (task : LedgerTask) : Prop extends Honest task where
  owes : task.Owes EffectLedger.step (executions.pays requestId)

theorem honest_done {handled : Handled} (truly : handled.AnswersTruly) :
    Honest (.done handled) :=
  ⟨truly, trivial⟩

theorem safeTransition_honest {request : EffectRequest} {ending : Ending} {result : Fields}
    {now : Nat} {handled : Bool → Handled} (truly : ∀ kept, (handled kept).AnswersTruly) :
    Honest (safeTransition request ending result now fun kept => .done (handled kept)) :=
  ⟨fun _ => truly _, fun _ => ⟨fun _ started => LedgerOp.noConfusion started.1, trivial⟩⟩

theorem safeTransition_concluding {request : EffectRequest} {ending : Ending} {result : Fields}
    {now : Nat} {handled : Bool → Handled} (truly : ∀ kept, (handled kept).AnswersTruly)
    (encodes : result.encodable = true) :
    Concluding request.requestId
      (safeTransition request ending result now fun kept => .done (handled kept)) :=
  ⟨safeTransition_honest truly, .inl ⟨ending, result, rfl, encodes⟩⟩

/-- Before the effect is invoked, every exception is answered truly. -/
theorem settle_honest (request : EffectRequest) (raised : Raised) (now : Nat) :
    Honest (settle request raised none now) := by
  cases raised with
  | outcomeUnknown reason result =>
    rw [settle]
    refine safeTransition_honest fun _ => ?_
    exact fun _ => .inl rfl
  | effectRejected reason =>
    rw [settle]
    refine safeTransition_honest fun _ => ?_
    exact fun _ => .inl rfl
  | error error =>
    rw [settle]
    split
    · exact honest_done fun _ => .inl rfl
    · refine safeTransition_honest fun _ => ?_
      exact fun _ => .inl rfl

theorem settle_concluding {request : EffectRequest} {raised : Raised}
    {performed : Option (Except Raised Fields)} {now : Nat}
    (cause : performed = none ∨ performed = some (.error raised))
    (settled : raised.settled = true) :
    Concluding request.requestId (settle request raised performed now) := by
  cases raised with
  | outcomeUnknown reason result =>
    rw [settle]
    refine safeTransition_concluding (fun _ => ?_) settled
    exact Handled.truly_of_state (by simp [respond]) (by simp [respond])
  | effectRejected reason =>
    rw [settle]
    refine safeTransition_concluding (fun _ => ?_) rfl
    exact fun _ => cause.imp id fun same => ⟨reason, same⟩
  | error error =>
    rw [settle, if_neg (of_decide_eq_true settled)]
    refine safeTransition_concluding (fun _ => ?_) rfl
    exact Handled.truly_of_state (by simp [respond]) (by simp [respond])

/-- A transition whose result is encoded raises nothing. -/
theorem EffectLedger.transition_answers (ledger : EffectLedger) {arguments : Transition}
    {result : Option Fields} (encoded : encodeResult arguments.result = .ok result) (now : Nat)
    (error : PyError) : (ledger.transition arguments now).2 ≠ .error error := by
  simp only [EffectLedger.transition, encoded]
  split
  · simp
  · split <;> simp

theorem EffectLedger.start_answers (ledger : EffectLedger) (requestId : String) (now : Nat) :
    ∃ hit, (ledger.step (.start requestId, now)).2 = .ok (.updated hit) := by
  simp only [EffectLedger.step, Prod.map_snd]
  cases answer : (ledger.transition (startTransition requestId) now).2 with
  | ok hit => exact ⟨hit, rfl⟩
  | error error => exact (ledger.transition_answers rfl now error answer).elim

section Stages

variable (config : ServerConfig) (request : EffectRequest) (surroundings : Surroundings)

theorem performSynchronously_concluding (settled : handlerSettles surroundings = true) :
    Concluding request.requestId (performSynchronously config request surroundings) := by
  unfold performSynchronously
  unfold handlerSettles at settled
  cases performed : surroundings.performEffect with
  | error raised =>
    rw [performed] at settled
    exact settle_concluding (.inr rfl) settled
  | ok fields =>
    rw [performed] at settled
    refine safeTransition_concluding (fun kept => ?_) settled
    cases kept <;> exact Handled.truly_of_state (by simp [respond]) (by simp [respond])

theorem completeEffect_concluding {response : Response}
    (pending : response.state = .executionStarted) (settled : workerSettles surroundings = true) :
    Concluding request.requestId (completeEffect config request surroundings response) := by
  have truly : ∀ performed, Handled.AnswersTruly ⟨response, performed⟩ := fun _ =>
    Handled.truly_of_state (by simp [pending]) (by simp [pending])
  unfold completeEffect
  unfold workerSettles at settled
  cases performed : surroundings.performEffect with
  | ok fields =>
    rw [performed] at settled
    exact safeTransition_concluding (fun _ => truly _) settled
  | error raised =>
    rw [performed] at settled
    cases raised with
    | outcomeUnknown reason result => exact safeTransition_concluding (fun _ => truly _) settled
    | effectRejected _ | error _ => exact safeTransition_concluding (fun _ => truly _) rfl

/-- The reservation always answers, and each answer leads to an end. -/
theorem crossBoundary_concluding
    (settled : (if config.executeAsync then !surroundings.workerStarts || workerSettles surroundings
      else handlerSettles surroundings) = true) :
    Concluding request.requestId (crossBoundary config request surroundings) := by
  have answered : ∀ state : EffectLedger, ∃ reserved, (state.step
      (.markEffectBoundary request.requestId, surroundings.markedAt)).2 = .ok (.updated reserved) :=
    fun _ => ⟨_, rfl⟩
  have rest : ∀ reserved, Concluding request.requestId
      ((crossBoundary config request surroundings).after (.ok (.updated reserved))) := by
    intro reserved
    simp only [crossBoundary, LedgerTask.after]
    cases reserved with
    | false =>
      refine safeTransition_concluding (fun _ => ?_) rfl
      exact Handled.truly_of_state (by simp [respond]) (by simp [respond])
    | true =>
      simp only
      cases mode : config.executeAsync with
      | false =>
        rw [mode] at settled
        exact performSynchronously_concluding config request surroundings settled
      | true =>
        simp only [mode, if_true, Bool.or_eq_true, Bool.not_eq_true', startEffectWorker]
          at settled ⊢
        split
        · rename_i starts
          exact completeEffect_concluding config request surroundings rfl
            (settled.resolve_left (by simp [starts]))
        · exact settle_concluding (.inl rfl) rfl
  refine ⟨⟨fun state => ?_, fun state => ⟨fun _ started => LedgerOp.noConfusion started.1, ?_⟩⟩,
    .inr fun state => ?_⟩
  all_goals
    obtain ⟨reserved, answer⟩ := answered state
    rw [answer]
  · exact (rest reserved).ends
  · exact (rest reserved).settles
  · exact (rest reserved).owes

theorem revalidate_concluding (replay : Bool)
    (settled : concludes config request surroundings true = true) :
    Concluding request.requestId (revalidate config request surroundings replay) := by
  unfold revalidate
  unfold concludes at settled
  cases target : surroundings.secondTarget with
  | error raised =>
    rw [target] at settled
    exact settle_concluding (.inl rfl) settled
  | ok current =>
    simp only [target] at settled ⊢
    cases drift : identityMismatch request current with
    | some mismatch =>
      refine safeTransition_concluding (fun _ => ?_) rfl
      exact fun _ => .inl rfl
    | none =>
      simp only [drift, Option.isSome_none, Bool.false_or, Bool.not_true] at settled ⊢
      cases grant : grantRefusal config request surroundings.secondGrant with
      | error raised =>
        rw [grant] at settled
        exact settle_concluding (.inl rfl) settled
      | ok refusal =>
        rw [grant] at settled
        cases refusal with
        | some reason =>
          refine safeTransition_concluding (fun _ => ?_) rfl
          exact fun _ => .inl rfl
        | none => exact crossBoundary_concluding config request surroundings settled

/-- A start that succeeds leads to an end; every other answer ends the handling. -/
theorem execute_honest (replay : Bool) (settled : concludes config request surroundings true = true) :
    Honest (execute config request surroundings replay) := by
  have started : ∀ state : EffectLedger, ∃ hit, (state.step
      (.start request.requestId, surroundings.startedAt)).2 = .ok (.updated hit) :=
    fun state => state.start_answers request.requestId surroundings.startedAt
  have refused : Honest (.done ⟨respond false "EXECUTION_START_TRANSITION_FAILED" .outcomeUnknown
      request false none, none⟩) := honest_done fun _ => .inl rfl
  have concluding := revalidate_concluding config request surroundings replay settled
  refine ⟨fun state => ?_, fun state => ?_⟩
  all_goals
    obtain ⟨hit, answer⟩ := started state
    rw [answer]
    cases hit
  · exact refused.ends
  · exact concluding.ends
  · refine ⟨fun requestId incurs => ?_, refused.settles⟩
    cases incurs.2
  · refine ⟨fun requestId incurs => ?_, concluding.settles⟩
    obtain rfl := LedgerOp.start.inj incurs.1
    exact concluding.owes

end Stages

/-- The execution of the request concludes, if the checks before it pass. -/
def settlesOnceAccepted (config : ServerConfig) (request : EffectRequest)
    (surroundings : Surroundings) : Bool :=
  match preflight config request surroundings with
  | .ok none => concludes config request surroundings true
  | .ok (some _) | .error _ => true

theorem handleRequest_honest (config : ServerConfig) (request : ParsedRequest)
    (surroundings : Surroundings)
    (settled : settlesOnceAccepted config request.1 surroundings = true) :
    Honest (handleRequest config request surroundings) := by
  unfold settlesOnceAccepted at settled
  cases checked : preflight config request.1 surroundings with
  | error raised =>
    rw [handleRequest, checked]
    exact settle_honest request.1 raised _
  | ok refusal =>
    cases refusal with
    | some reason =>
      rw [handleRequest, checked]
      exact honest_done fun _ => .inl rfl
    | none =>
      rw [checked] at settled
      have whole : handleRequest config request surroundings =
          .call (.accept request, surroundings.acceptedAt)
            (handleRequest config request surroundings).after := by
        unfold handleRequest
        rw [checked]
        rfl
      have rest : ∀ answer,
          Honest ((handleRequest config request surroundings).after answer) := by
        intro answer
        simp only [handleRequest, checked, LedgerTask.after]
        cases answer with
        | error error => exact settle_honest request.1 _ _
        | ok reply =>
          cases reply with
          | accepted reply =>
            simp only
            split
            · exact execute_honest config request.1 surroundings reply.replay settled
            · exact honest_done fun _ => .inl rfl
          | updated _ | reconciled _ | handedOff _ | opened => exact settle_honest request.1 _ _
      rw [whole]
      exact ⟨fun _ => (rest _).ends,
        fun _ => ⟨fun _ started => LedgerOp.noConfusion started.1, (rest _).settles⟩⟩

theorem settleUnparsed_honest (raised : Raised) : Honest (settleUnparsed raised) := by
  cases raised with
  | outcomeUnknown _ _ | effectRejected _ => exact honest_done fun _ => .inl rfl
  | error error =>
    rw [settleUnparsed]
    split <;> exact honest_done fun _ => .inl rfl

theorem handleConnection_parsed {value : RequestFields} {request : EffectRequest}
    (parsed : EffectRequest.fromMapping value = .ok request) (config : ServerConfig)
    (surroundings : Surroundings) :
    handleConnection config (.effectRequest value) surroundings =
      handleRequest config ⟨request, fromMapping_wellFormed parsed⟩ surroundings := by
  simp only [handleConnection]
  split
  · rename_i error failed
    rw [parsed] at failed
    cases failed
  · rename_i other read
    rw [parsed] at read
    cases read
    rfl

/-- What a run needs: an execution that is reached concludes, and a database opens. -/
def ServerEvent.settling (config : ServerConfig) : ServerEvent → Bool
  | .connection (.effectRequest value) surroundings =>
    match EffectRequest.fromMapping value with
    | .error _ => true
    | .ok request => settlesOnceAccepted config request surroundings
  | .connection .unauthorizedPeer _ | .connection .tooLarge _ | .connection (.unreadable _) _
  | .advance _ | .reconcile _ _ | .retireTarget _ _ | .handOff _ _ => true
  | .restart _ generation _ =>
    -maxSqliteInteger - 1 ≤ generation && generation ≤ maxSqliteInteger

theorem handleConnection_honest (config : ServerConfig) (message : Message)
    (surroundings : Surroundings)
    (settled : (ServerEvent.connection message surroundings).settling config = true) :
    Honest (handleConnection config message surroundings) := by
  cases message with
  | unauthorizedPeer | tooLarge => exact honest_done fun _ => .inl rfl
  | unreadable raised => exact settleUnparsed_honest raised
  | effectRequest value =>
    rw [ServerEvent.settling] at settled
    cases parsed : EffectRequest.fromMapping value with
    | error error =>
      simp only [handleConnection]
      split
      · exact settleUnparsed_honest _
      · rename_i other read
        rw [parsed] at read
        cases read
    | ok request =>
      rw [parsed] at settled
      rw [handleConnection_parsed parsed]
      exact handleRequest_honest config _ surroundings settled

/-- Opening the database leaves no request running. -/
theorem EffectLedger.reopen_settles {ledger : EffectLedger} (consistent : ledger.Consistent)
    (producerId : String) (generation : Int) (now : Nat) (requestId : String)
    (bindable : -maxSqliteInteger - 1 ≤ generation ∧ generation ≤ maxSqliteInteger) :
    (ledger.step (.reopen producerId generation, now)).1.requestState? requestId ≠
      some .executionStarted := by
  obtain ⟨effects, holds⟩ := consistent
  simp only [EffectLedger.step, EffectLedger.reopen_effects holds producerId generation now bindable,
    Prod.map_fst, id_eq]
  intro running
  have inserted : Holds (ledger.insertAuthority producerId generation now) effects :=
    holds.of_tables rfl rfl rfl
  have moved := inserted.withEffects_moved (·.reopened now) (·.reopened_source now)
    fun _ phase => (phase.consumed now).restarted now
  obtain ⟨_, member, _, state⟩ := moved.effect_of_requestState running
  obtain ⟨effect, _, rfl⟩ := List.mem_map.mp member
  rw [Effect.reopened, Effect.restarted_state, Effect.consumed_state] at state
  split at state
  · cases state
  · contradiction

theorem ServerEvent.honours {config : ServerConfig} {event : ServerEvent}
    (settled : event.settling config = true) :
    (event.toPool config).Honours executions := by
  cases event with
  | connection message surroundings =>
    exact (handleConnection_honest config message surroundings settled).settles
  | advance index => trivial
  | reconcile _ _ | retireTarget _ _ | handOff _ _ =>
    exact fun _ _ started => LedgerOp.noConfusion started.1
  | restart producerId generation now =>
    simp only [ServerEvent.settling, Bool.and_eq_true, decide_eq_true_eq] at settled
    exact fun state requestId consistent =>
      EffectLedger.reopen_settles consistent producerId generation now requestId settled

/-- In every run, every finished handling answered truly, and a request that is
running is owed its end by a handling that is not finished. -/
theorem serve_answers_truly (config : ServerConfig) (events : List ServerEvent)
    (settled : ∀ event ∈ events, event.settling config = true) :
    (∀ handled, .done handled ∈ (serve config events).running → handled.AnswersTruly) ∧
      ∀ requestId, (serve config events).state.requestState? requestId = some .executionStarted →
        ∃ task ∈ (serve config events).running,
          task.Owes EffectLedger.step (executions.pays requestId) := by
  constructor
  · intro handled finished
    refine Pool.ends_of_run Handled.AnswersTruly ?_ ?_ _ finished
    · exact fun _ member => by cases member
    · intro task started
      obtain ⟨event, member, spawned⟩ := List.mem_map.mp started
      cases event with
      | connection message surroundings =>
        cases spawned
        exact (handleConnection_honest config message surroundings (settled _ member)).ends
      | advance _ | reconcile _ _ | retireTarget _ _ | handOff _ _ | restart _ _ _ => cases spawned
  · have solvent : (serve config events).Solvent executions := by
      refine Pool.solvent_of_run ⟨⟨[], holds_empty⟩, fun _ _ found => (by cases found),
        fun _ due => (by cases due)⟩ ?_
      intro event member
      obtain ⟨source, listed, rfl⟩ := List.mem_map.mp member
      exact ServerEvent.honours (settled source listed)
    intro requestId running
    obtain ⟨index, task, found, owes⟩ := solvent.owed requestId running
    exact ⟨task, List.mem_of_getElem? found, owes⟩

/-- An executor that performs effects in the handler. -/
def syncConfig : ServerConfig :=
  { asyncConfig with executeAsync := false, requireTransportVerification := false }

/-- A database that was just opened for the detector. -/
def openedEvents : List (LedgerOp × Nat) := [(.reopen "detector" 1, 0)]

/-- The effect is performed and then a `ValueError` is raised. -/
def raisingSurroundings : Surroundings :=
  { steadySurroundings "generation-1" with performEffect := .error (.error (valueError "")) }

/-- A handling in which `perform_effect` raises a `ValueError`. -/
def raisingHandling : EffectLedger × Handled :=
  (handleConnection syncConfig
    (.effectRequest (restartFields "restart-1" "detector" "generation-1"))
    raisingSurroundings).among EffectLedger.step (fun _ => [])
      (final EffectLedger.step .empty openedEvents)

/-- Whether `perform_effect` was invoked and did something other than reject. -/
def Handled.performedEffect (handled : Handled) : Bool :=
  match handled.performed with
  | none | some (.error (.effectRejected _)) => false
  | some (.ok _) | some (.error (.outcomeUnknown _ _)) | some (.error (.error _)) => true

end LiveStream.Boundary

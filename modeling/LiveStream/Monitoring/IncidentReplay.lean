import LiveStream.Monitoring.EpisodeRuns

/-! The replay of incidents without a repository: it reports what the service would. -/

namespace LiveStream.Monitoring

open LiveStream.Support

/-- `ReplayStep`. -/
structure ReplayStep where
  current : DomainCurrent
  nowAt : Int

/-- The variables of the loop of `replay`. -/
structure ReplayState where
  candidate : Option CandidateState
  episode : Option IncidentEpisode
  transitions : List IncidentTransition
  processed : List SnapshotId

/-- A round of `replay`. -/
def ReplayState.step (policy : IncidentPolicy) (state : ReplayState) (step : ReplayStep) :
    Except PyError ReplayState :=
  if step.current.snapshotId ∈ state.processed then .ok state
  else do
    let active := state.episode.filter fun episode => episode.status = .active
    let evaluation ← evaluateCurrent step.current policy step.nowAt active state.candidate
    return {
      candidate := evaluation.candidate
      episode := (evaluation.episode.or state.episode).filter fun episode => episode.status ≠ .closed
      transitions := state.transitions ++ evaluation.transition.toList
      processed := state.processed ++ [step.current.snapshotId] }

/-- `replay`. -/
def replay (steps : List ReplayStep) (policy : IncidentPolicy) :
    Except PyError (List IncidentTransition) := do
  let state ← steps.foldlM (ReplayState.step policy) ⟨none, none, [], []⟩
  return state.transitions

/-- The service whose only policy is the given one, called with a step. -/
def ReplayStep.served (policy : IncidentPolicy) (repository : Repository) (step : ReplayStep) :
    Except PyError Repository :=
  process repository (fun domain => if domain = policy.domain then some policy else none) none
    step.current step.nowAt

/-- The transitions that the service appends for the steps, from an empty repository. -/
def serveSteps (steps : List ReplayStep) (policy : IncidentPolicy) :
    Except PyError (List IncidentTransition) := do
  let repository ← steps.foldlM (ReplayStep.served policy) .empty
  return repository.incidents.transitions

/-- A step of a current that was made for its domain, at a time not before its reduction whose
notification text has a year. -/
structure ReplayStep.Proper (step : ReplayStep) : Prop where
  named : step.current.snapshotId.domain = step.current.domain
  reduced : step.current.reducedAt ≤ step.nowAt
  above : MIN_TS ≤ step.nowAt
  rendered : step.nowAt + 32400 ≤ MAX_TS

/-- The variables of the replay are what the repository holds of the domain. -/
structure Follows (policy : IncidentPolicy) (state : ReplayState) (tables : IncidentTables) : Prop where
  told : Told tables
  candidate : state.candidate = candidateRow tables policy.domain
  episode : state.episode = activeRow tables policy.domain
  transitions : state.transitions = tables.transitions
  processed : state.processed = tables.processed

/-- Both raise, or both return and go on together. -/
inductive Alike (policy : IncidentPolicy) : Except PyError ReplayState → Except PyError Repository → Prop where
  | raised (left right : PyError) : Alike policy (.error left) (.error right)
  | returned (state : ReplayState) (repository : Repository)
      (follows : Follows policy state repository.incidents) :
      Alike policy (.ok state) (.ok repository)

variable {policy : IncidentPolicy} {repository : Repository} {step : ReplayStep} {state : ReplayState}
  {tables : IncidentTables} {currents : CurrentTables} {current : DomainCurrent} {nowAt : Int}
  {evaluation : Evaluation}

/-- What the engine returns for a current can be stored. -/
theorem record_ok (told : Told tables)
    (named : current.snapshotId.domain = current.domain)
    (known : current.snapshotId ∈ currents.currentSnapshots) (rendered : nowAt + 32400 ≤ MAX_TS)
    (evaluated : Evaluated current nowAt (activeRow tables current.domain) evaluation) :
    ∃ after, record currents none current tables evaluation = .ok after := by
  obtain ⟨held, first, heldEpisodes⟩ : ∃ held,
      putCandidate currents current.domain tables evaluation.candidate = .ok held ∧
        held.episodes = tables.episodes := by
    cases proposed : evaluation.candidate with
    | none => exact ⟨_, rfl, rfl⟩
    | some candidate =>
      obtain ⟨domain, snapshot⟩ := evaluated.candidate candidate proposed
      unfold putCandidate
      dsimp only
      rw [snapshot, snapshotGuard_ok known (named.trans domain.symm), ok_bind]
      exact ⟨_, rfl, rfl⟩
  obtain ⟨filed, second, filedEpisodes⟩ : ∃ filed, putEpisode held evaluation.episode = .ok filed ∧
      ∀ episode ∈ evaluation.episode, episode ∈ filed.episodes := by
    cases written : evaluation.episode with
    | none => exact ⟨_, rfl, by simp⟩
    | some episode =>
      unfold putEpisode
      dsimp only
      rw [rejectIf_of_not, ok_bind]
      · refine ⟨_, rfl, fun other same => ?_⟩
        obtain rfl := Option.some.inj same
        exact mem_upsert.mpr (Or.inl rfl)
      · rintro ⟨_, row, member, active, sameDomain, apart⟩
        rw [heldEpisodes] at member
        have domain : episode.domain = current.domain := by
          have known : ∀ row ∈ activeRow tables current.domain,
              row.domain = current.domain ∧ row.episodeId.snapshotId ∈ tables.processed := by
            intro other found
            obtain ⟨listed, named', _⟩ := activeRow_some found
            exact ⟨named', told.opened other listed⟩
          exact (evaluated.episode known episode written).2.1
        rw [(activeRow_iff told.single).mpr ⟨member, sameDomain.trans domain, active⟩] at evaluated
        cases evaluated with
        | kept _ _ _ continues =>
          obtain rfl := Option.some.inj written
          exact apart continues.ident.symm
        | repeated _ _ _ _ continues =>
          obtain rfl := Option.some.inj written
          exact apart continues.ident.symm
        | recovered _ _ _ _ continues =>
          obtain rfl := Option.some.inj written
          exact apart continues.ident.symm
  obtain ⟨sent, third⟩ : ∃ sent, putTransition currents none filed evaluation.transition = .ok sent := by
    cases told' : evaluation.transition with
    | none => exact ⟨_, rfl⟩
    | some transition =>
      obtain ⟨_, episode, written, tells⟩ := evaluated.tells transition told'
      unfold putTransition
      dsimp only
      split
      · exact ⟨_, rfl⟩
      · have referenced : ¬ ∀ row ∈ filed.episodes, row.episodeId ≠ transition.episodeId :=
          fun none => none episode (filedEpisodes episode written) tells.episode.symm
        have intents : appendIntents none transition.occurredAt = .ok () := by
          unfold appendIntents
          rw [tells.time, rejectIf_of_not (not_lt.mpr rendered)]
          simp
        rw [rejectIf_of_not referenced, ok_bind, tells.snapshot,
          snapshotGuard_ok known (named.trans tells.domain.symm), ok_bind, intents, ok_bind]
        exact ⟨_, rfl⟩
  unfold record
  rw [first, ok_bind, second, ok_bind, third, ok_bind]
  exact ⟨_, rfl⟩

theorem filter_activeRow (tables : IncidentTables) (domain : Domain) :
    (activeRow tables domain).filter (fun episode => episode.status = .active) = activeRow tables domain := by
  cases found : activeRow tables domain with
  | none => rfl
  | some row => simp [(activeRow_some found).2.2]

/-- The replay and the service take a step alike. -/
theorem step_alike (follows : Follows policy state repository.incidents) (proper : step.Proper) :
    Alike policy (state.step policy step) (step.served policy repository) := by
  obtain ⟨told, candidate, episode, transitions, processed⟩ := follows
  have below : step.nowAt ≤ MAX_TS := by have := proper.rendered; omega
  unfold ReplayState.step ReplayStep.served process
  rw [max_eq_left proper.reduced, utcText_of_mem proper.above below, ok_bind, processed]
  by_cases seen : step.current.snapshotId ∈ repository.incidents.processed
  · rw [if_pos seen, if_pos seen]
    exact .returned _ _ ⟨told, candidate, episode, transitions, processed⟩
  · rw [if_neg seen, if_neg seen]
    dsimp only
    rw [told.activeEpisode, ok_bind]
    by_cases own : step.current.domain = policy.domain
    · rw [if_pos own, orReject_some, ok_bind, episode, filter_activeRow, candidate, ← own]
      cases evaluated : evaluateCurrent step.current policy step.nowAt
          (activeRow repository.incidents step.current.domain)
          (candidateRow repository.incidents step.current.domain) with
      | error raised => exact .raised raised raised
      | ok evaluation =>
        have outcome := evaluateCurrent_evaluated
          (fun active found => told.normal active (activeRow_some found).1)
          (fun pending found => (lookup_some found).2) evaluated
        obtain ⟨after, recorded⟩ := record_ok told proper.named
          (currentSnapshots_known repository.currents step.current) proper.rendered outcome
        have stored := record_stored told seen outcome recorded
        rw [ok_bind, ok_bind, recorded, ok_bind]
        refine .returned _ _ ⟨told.step seen outcome stored, ?_, ?_, ?_, ?_⟩
        · rw [← own]
          exact stored.pending.symm
        · rw [← own]
          dsimp only
          rw [activeRow_stored told seen outcome stored, if_pos rfl]
          cases written : evaluation.episode with
          | none =>
            rw [Option.none_or, Option.elim_none]
            cases found : activeRow repository.incidents step.current.domain with
            | none => rfl
            | some row => simp [(activeRow_some found).2.2]
          | some fresh =>
            cases status : fresh.status <;> simp [status]
        · dsimp only
          rw [transitions, stored.transitions]
        · dsimp only
          rw [stored.processed]
    · rw [if_neg own]
      unfold evaluateCurrent
      rw [if_pos own]
      exact .raised _ _

theorem foldlM_alike {steps : List ReplayStep} (follows : Follows policy state repository.incidents)
    (proper : ∀ step ∈ steps, step.Proper) :
    Alike policy (steps.foldlM (ReplayState.step policy) state)
      (steps.foldlM (ReplayStep.served policy) repository) := by
  induction steps generalizing state repository with
  | nil => exact .returned state repository follows
  | cons step rest ih =>
    have alike := step_alike follows (proper step List.mem_cons_self)
    rw [List.foldlM_cons, List.foldlM_cons]
    generalize state.step policy step = left at alike
    generalize step.served policy repository = right at alike
    cases alike with
    | raised left right => exact .raised left right
    | returned after next follows' =>
      exact ih follows' fun later member => proper later (List.mem_cons_of_mem _ member)

/-- A current of the delivery that is evaluated as soon as it is observed. -/
def deliveryStep (state : CurrentState) (second : Int) : ReplayStep where
  current := {
    snapshotId := ⟨.delivery, state, [], [], second, "policy", "reducer",
      ⟨false, false, none, [], [], false, false, []⟩⟩
    domain := .delivery
    state := state
    reasonCodes := []
    sourceObservationIds := []
    observedAt := second
    reducedAt := second
    validUntil := second
    policyRevision := "policy"
    reducerRevision := "reducer"
    payload := ⟨false, false, none, [], [], false, false, []⟩
    observedFirst := le_rfl
    validLast := le_rfl }
  nowAt := second

end LiveStream.Monitoring

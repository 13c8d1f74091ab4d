import LiveStream.Monitoring.CurrentRuns
import LiveStream.Monitoring.IncidentStore

/-! Cycles of the pipeline whose currents keep the order of their evidence never raise in the
incident service. -/

namespace LiveStream.Monitoring

open LiveStream.Support

section Checks

variable {episode : IncidentEpisode} {clock : Int}

/-- An active episode the contract accepts, with nothing of it ahead of the clock. -/
structure Running (episode : IncidentEpisode) (clock : Int) : Prop where
  active : episode.status = .active
  unclosed : episode.closedAt = none
  ordered : episode.openedAt ≤ episode.lastBadAt
  deadline : ∃ nextAt, episode.nextNotificationAt = some nextAt ∧ episode.lastTransitionAt ≤ nextAt
  revision : boundedRevision episode.policyRevision
  summary : boundedSummary episode.summary
  begun : episode.openedAt ≤ clock
  moved : episode.lastTransitionAt ≤ clock

def IncidentEpisode.sorted (episode : IncidentEpisode) : IncidentEpisode :=
  { episode with reasonCodes := sortedReasons episode.reasonCodes }

theorem Running.sorted (running : Running episode clock) : Running episode.sorted clock :=
  ⟨running.active, running.unclosed, running.ordered, running.deadline, running.revision,
    running.summary, running.begun, running.moved⟩

theorem Running.later {later : Int} (running : Running episode clock) (after : clock ≤ later) :
    Running episode later :=
  { running with
    begun := running.begun.trans after
    moved := running.moved.trans after }

/-- The contract accepts a running episode. -/
theorem Running.checked (running : Running episode clock) : episode.checked = .ok episode.sorted := by
  obtain ⟨nextAt, next, later⟩ := running.deadline
  unfold IncidentEpisode.checked
  simp [rejectIf, running.active, running.unclosed, next, running.revision, running.summary,
    not_lt.mpr running.ordered, not_lt.mpr later, IncidentEpisode.sorted, pure, Except.pure]

/-- A closed episode that the contract accepts. -/
theorem checked_closed {closedAt : Int} (status : episode.status = .closed)
    (closed : episode.closedAt = some closedAt) (quiet : episode.nextNotificationAt = none)
    (ordered : episode.openedAt ≤ episode.lastBadAt) (after : episode.openedAt ≤ closedAt)
    (revision : boundedRevision episode.policyRevision) (summary : boundedSummary episode.summary) :
    episode.checked = .ok episode.sorted := by
  unfold IncidentEpisode.checked
  simp [rejectIf, status, closed, quiet, revision, summary, not_lt.mpr ordered, not_lt.mpr after,
    IncidentEpisode.sorted, pure, Except.pure]

end Checks

section Deadlines

variable {nowAt interval due : Int}

/-- Each round of the loop moves the deadline on until it is after now, by one interval at
most. -/
theorem advanceDue_spec (positive : 1 ≤ interval) :
    ∀ rounds : Nat, ∀ due : Int, nowAt < due + rounds → due ≤ nowAt + interval →
      nowAt < advanceDue nowAt interval rounds due ∧
        advanceDue nowAt interval rounds due ≤ nowAt + interval := by
  intro rounds
  induction rounds with
  | zero =>
    intro due enough near
    exact ⟨by simpa [advanceDue] using enough, near⟩
  | succ rounds inductionHypothesis =>
    intro due enough near
    rw [advanceDue]
    by_cases passed : due ≤ nowAt
    · rw [if_pos passed]
      exact inductionHypothesis (due + interval) (by push_cast at enough; omega) (by omega)
    · rw [if_neg passed]
      exact ⟨not_le.mp passed, near⟩

theorem nextDue_spec (nowAt interval due : Int) (positive : 1 ≤ interval) (near : due ≤ nowAt + interval) :
    nowAt < nextDue nowAt interval due ∧ nextDue nowAt interval due ≤ nowAt + interval :=
  advanceDue_spec positive _ due (by push_cast; omega) near

end Deadlines

section Engine

variable {current : DomainCurrent} {policy : IncidentPolicy} {nowAt : Int} {active : IncidentEpisode}
  {pending : Option CandidateState}

/-- A policy whose texts fit the contract of an episode and whose deadlines fit the calendar. -/
structure Roomy (policy : IncidentPolicy) (nowTs : Int) : Prop where
  summary : boundedSummary policy.summary
  revision : policy.revision.length ≤ 200
  deadlines : ∀ interval ∈ policy.intervals, nowTs + interval ≤ MAX_TS

/-- A transition of an episode for a current at a time. -/
structure Reports (current : DomainCurrent) (nowAt : Int) (episode : IncidentEpisode)
    (transition : IncidentTransition) : Prop where
  episode : transition.episodeId = episode.episodeId
  domain : transition.domain = current.domain
  snapshot : transition.currentSnapshotId = current.snapshotId
  time : transition.occurredAt = nowAt

/-- An evaluation that moves the episode with an id. -/
structure Moves (current : DomainCurrent) (nowAt : Int) (ident : EpisodeId) (domain : Domain)
    (evaluation : Evaluation) : Prop where
  quiet : evaluation.candidate = none
  episode : ∃ episode, evaluation.episode = some episode ∧ episode.episodeId = ident ∧
    episode.domain = domain ∧ (episode.status = .active → Running episode nowAt) ∧
    ∀ transition ∈ evaluation.transition, Reports current nowAt episode transition

/-- What an evaluation may leave to be stored. -/
structure Proper (current : DomainCurrent) (nowAt : Int) (active : Option IncidentEpisode)
    (evaluation : Evaluation) : Prop where
  candidate : ∀ candidate ∈ evaluation.candidate, candidate.domain = current.domain ∧
    candidate.snapshotId = current.snapshotId ∧ candidate.firstSeenAt ≤ nowAt
  episode : ∀ episode ∈ evaluation.episode, episode.domain = current.domain ∧
    (episode.status = .active → Running episode nowAt) ∧
    ∀ before ∈ active, episode.episodeId = before.episodeId
  transition : ∀ transition ∈ evaluation.transition,
    ∃ episode, evaluation.episode = some episode ∧ Reports current nowAt episode transition

theorem Moves.proper {evaluation : Evaluation}
    (moves : Moves current nowAt active.episodeId current.domain evaluation) :
    Proper current nowAt (some active) evaluation := by
  obtain ⟨episode, written, ident, domain, running, reports⟩ := moves.episode
  refine ⟨?_, ?_, ?_⟩
  · simp [moves.quiet]
  · intro other same
    obtain rfl : episode = other := Option.some.inj (written.symm.trans same)
    refine ⟨domain, running, ?_⟩
    rintro before same
    rw [← Option.some.inj same, ident]
  · intro transition present
    exact ⟨episode, written, reports transition present⟩

theorem transitionOf_ok (current : DomainCurrent) (phase : Phase) (severity : Severity) (nowAt : Int)
    (summary : boundedSummary active.summary) :
    ∃ transition, transitionOf active current phase severity nowAt = .ok transition ∧
      Reports current nowAt active transition := by
  unfold transitionOf
  rw [rejectIf_of_not (not_not.mpr summary), ok_bind]
  exact ⟨_, rfl, rfl, rfl, rfl, rfl⟩

theorem closeEpisode_moves (running : Running active nowAt) (domain : active.domain = current.domain) :
    ∃ evaluation, closeEpisode current nowAt active = .ok evaluation ∧
      Moves current nowAt active.episodeId current.domain evaluation := by
  have accepted : (active.closedBy current nowAt).checked = .ok (active.closedBy current nowAt).sorted :=
    checked_closed rfl rfl rfl running.ordered running.begun running.revision running.summary
  have summary : boundedSummary (active.closedBy current nowAt).sorted.summary := running.summary
  obtain ⟨transition, written, reports⟩ := transitionOf_ok current .recovered .info nowAt summary
  unfold closeEpisode
  rw [accepted, ok_bind, written, ok_bind]
  refine ⟨_, rfl, rfl, _, rfl, rfl, domain, ?_, ?_⟩
  · intro still
    cases still
  · intro other same
    obtain rfl := Option.some.inj same
    exact reports

/-- A repetition moves the episode on to its new deadline. -/
theorem repeatEpisode_moves {severity : Severity} {dueTs : Int} (running : Running active nowAt)
    (domain : active.domain = current.domain) (after : nowAt ≤ dueTs) (above : MIN_TS ≤ nowAt)
    (below : dueTs ≤ MAX_TS) :
    ∃ evaluation, repeatEpisode current nowAt active severity dueTs = .ok evaluation ∧
      Moves current nowAt active.episodeId current.domain evaluation := by
  have moved : Running (active.repeatedAt nowAt severity dueTs) nowAt :=
    ⟨running.active, running.unclosed, running.ordered, ⟨dueTs, rfl, after⟩, running.revision,
      running.summary, running.begun, le_rfl⟩
  obtain ⟨transition, written, reports⟩ := transitionOf_ok current .again severity nowAt
    moved.sorted.summary
  unfold repeatEpisode
  rw [utcText_of_mem (above.trans after) below, ok_bind, moved.checked, ok_bind, written, ok_bind]
  refine ⟨_, rfl, rfl, _, rfl, rfl, domain, fun _ => moved.sorted, ?_⟩
  intro other same
  obtain rfl := Option.some.inj same
  exact reports

/-- The deadline of a running episode stays, is brought forward, or is followed by the next. -/
theorem keepDeadline_moves {updated : IncidentEpisode} {dueTs : Int} (running : Running updated nowAt)
    (domain : updated.domain = current.domain) (due : updated.nextNotificationAt = some dueTs)
    (above : MIN_TS ≤ nowAt) (roomy : Roomy policy nowAt) :
    ∃ evaluation, keepDeadline current policy nowAt active updated dueTs = .ok evaluation ∧
      Moves current nowAt updated.episodeId current.domain evaluation := by
  have interval := policy.sixty_le_repeatInterval current.state current.reasonCodes
  have ceiling := roomy.deadlines _ (policy.repeatInterval_mem current.state current.reasonCodes)
  obtain ⟨nextAt, next, later⟩ := running.deadline
  obtain rfl : nextAt = dueTs := Option.some.inj (next.symm.trans due)
  have moved := running.moved
  -- the clamped deadline is written, or is the one that is there
  obtain ⟨clamped, clampedIs, clampedRuns, sameId, sameDomain⟩ : ∃ clamped,
      clampDeadline updated nextAt
        (min nextAt (nowAt + policy.repeatInterval current.state current.reasonCodes)) = .ok clamped ∧
      Running clamped nowAt ∧ clamped.episodeId = updated.episodeId ∧ clamped.domain = updated.domain := by
    unfold clampDeadline
    by_cases same : min nextAt (nowAt + policy.repeatInterval current.state current.reasonCodes) = nextAt
    · rw [if_pos same]
      exact ⟨updated, rfl, running, rfl, rfl⟩
    · rw [if_neg same, utcText_of_mem (by omega) (by omega), ok_bind]
      have earlier : Running (updated.dueAt
          (min nextAt (nowAt + policy.repeatInterval current.state current.reasonCodes))) nowAt :=
        { running with deadline := ⟨_, rfl, by dsimp only [IncidentEpisode.dueAt]; omega⟩ }
      exact ⟨_, earlier.checked, earlier.sorted, rfl, rfl⟩
  unfold keepDeadline
  dsimp only
  rw [clampedIs, ok_bind]
  split
  · refine ⟨_, rfl, rfl, clamped, rfl, sameId, sameDomain.trans domain, fun _ => clampedRuns, ?_⟩
    rintro _ ⟨⟩
  · obtain ⟨passed, near⟩ := nextDue_spec nowAt
      (policy.repeatInterval current.state current.reasonCodes)
      (min nextAt (nowAt + policy.repeatInterval current.state current.reasonCodes)) (by omega)
      (min_le_right _ _)
    rw [← sameId]
    exact repeatEpisode_moves clampedRuns (sameDomain.trans domain) passed.le above (near.trans ceiling)

theorem threshold_ok (policy : IncidentPolicy) {state : CurrentState} (actionable : state ≠ .good) :
    ∃ limits, policy.threshold state = .ok limits := by
  cases state with
  | good => exact absurd rfl actionable
  | bad => exact ⟨_, rfl⟩
  | unknown => exact ⟨_, rfl⟩

theorem not_good_of_isActionable {state : CurrentState} {reasons : List ReasonCode}
    (actionable : policy.isActionable state reasons = true) : state ≠ .good := by
  rintro rfl
  cases actionable

/-- An actionable current not observed before its episode began continues the episode. -/
theorem continueEpisode_moves (running : Running active nowAt) (domain : active.domain = current.domain)
    (inOrder : active.openedAt ≤ current.observedAt)
    (fresh : ∀ candidate ∈ pending, candidate.snapshotId ≠ current.snapshotId)
    (actionable : current.state ≠ .good) (above : MIN_TS ≤ nowAt) (roomy : Roomy policy nowAt) :
    ∃ evaluation, continueEpisode current policy nowAt active pending = .ok evaluation ∧
      Moves current nowAt active.episodeId current.domain evaluation := by
  obtain ⟨nextAt, next, later⟩ := running.deadline
  have continued : Running (active.continuedBy current) nowAt :=
    ⟨running.active, running.unclosed, inOrder, running.deadline, running.revision, running.summary,
      running.begun, running.moved⟩
  have unseen : ¬ (pending.any fun candidate => candidate.snapshotId = current.snapshotId) = true := by
    intro seen
    obtain ⟨candidate, present, same⟩ := (Option.any_eq_true ..).mp seen
    exact fresh candidate present (of_decide_eq_true same)
  obtain ⟨⟨_, _, severity⟩, limits⟩ := threshold_ok policy actionable
  have interval := policy.sixty_le_repeatInterval current.state current.reasonCodes
  unfold continueEpisode
  rw [if_neg unseen, continued.checked, ok_bind, limits, ok_bind, next, orReject_some]
  dsimp only
  rw [ok_bind]
  by_cases graver : active.severity.rank < (severityOf current severity).rank
  · rw [if_pos graver]
    exact repeatEpisode_moves continued.sorted domain (by omega) above
      (roomy.deadlines _ (policy.repeatInterval_mem current.state current.reasonCodes))
  · rw [if_neg graver]
    exact keepDeadline_moves continued.sorted domain next above roomy

/-- The evidence of a candidate that a current continues and would open an episode from: it has
lasted long enough, counting the current. -/
structure OpensFrom (policy : IncidentPolicy) (nowTs : Int) (current : DomainCurrent)
    (candidate : CandidateState) : Prop where
  state : candidate.state = current.state
  reasons : candidate.reasonCodes = current.reasonCodes
  ripe : ∀ minSamples minDuration severity,
    policy.threshold current.state = .ok (minSamples, minDuration, severity) →
      minSamples ≤ candidate.samples + 1 ∧ (minDuration : Int) ≤ max 0 (nowTs - candidate.firstSeenAt)

/-- The candidate after a current begins no later than now. -/
theorem candidateOf_facts (past : current.observedAt ≤ nowAt)
    (known : ∀ candidate ∈ pending,
      candidate.snapshotId ≠ current.snapshotId ∧ candidate.firstSeenAt ≤ nowAt) :
    (candidateOf current pending).domain = current.domain ∧
      (candidateOf current pending).snapshotId = current.snapshotId ∧
      (candidateOf current pending).firstSeenAt ≤ nowAt := by
  unfold candidateOf
  cases pending with
  | none => exact ⟨rfl, rfl, past⟩
  | some seen =>
    obtain ⟨apart, began⟩ := known seen rfl
    dsimp only
    rw [if_neg apart]
    split
    · exact ⟨rfl, rfl, past⟩
    · exact ⟨rfl, rfl, began⟩

/-- A candidate ripe for an episode that began after the current continues one that opens from
it. -/
theorem candidateOf_opens {minSamples minDuration : Nat} {severity : Severity}
    (limits : policy.threshold current.state = .ok (minSamples, minDuration, severity))
    (known : ∀ candidate ∈ pending, candidate.snapshotId ≠ current.snapshotId)
    (isRipe : ripe nowAt minSamples minDuration (candidateOf current pending))
    (inOrder : ∀ candidate ∈ pending, OpensFrom policy nowAt current candidate →
      candidate.firstSeenAt ≤ current.observedAt) :
    (candidateOf current pending).firstSeenAt ≤ current.observedAt := by
  revert isRipe
  unfold candidateOf
  cases pending with
  | none =>
    intro _
    exact le_rfl
  | some seen =>
    dsimp only
    rw [if_neg (known seen rfl)]
    split
    · intro _
      exact le_rfl
    · rename_i continues
      rw [not_or, not_not, not_not] at continues
      intro isRipe
      apply inOrder seen rfl
      refine ⟨continues.1, continues.2, ?_⟩
      intro samples duration level same
      rw [limits] at same
      cases same
      exact isRipe

theorem detect_proper {candidate : CandidateState} {severity : Severity}
    (inOrder : candidate.firstSeenAt ≤ current.observedAt) (began : candidate.firstSeenAt ≤ nowAt)
    (above : MIN_TS ≤ nowAt) (roomy : Roomy policy nowAt) :
    ∃ evaluation, detect current policy nowAt severity candidate = .ok evaluation ∧
      Proper current nowAt none evaluation := by
  have interval := policy.sixty_le_repeatInterval current.state current.reasonCodes
  have ceiling := roomy.deadlines _ (policy.repeatInterval_mem current.state current.reasonCodes)
  have opened : Running (openedBy current policy severity candidate.firstSeenAt
      (nowAt + policy.repeatInterval current.state current.reasonCodes)) nowAt :=
    ⟨rfl, rfl, le_rfl, ⟨_, rfl, by dsimp only [openedBy]; omega⟩, ⟨policy.revised, roomy.revision⟩,
      roomy.summary, began, began⟩
  have detected : Running ((openedBy current policy severity candidate.firstSeenAt
      (nowAt + policy.repeatInterval current.state current.reasonCodes)).sorted.detectedBy current nowAt
        candidate.samples) nowAt :=
    ⟨rfl, rfl, inOrder, ⟨_, rfl, by dsimp only [IncidentEpisode.detectedBy]; omega⟩,
      ⟨policy.revised, roomy.revision⟩, roomy.summary, began, le_rfl⟩
  obtain ⟨transition, written, reports⟩ := transitionOf_ok current .detected severity nowAt
    detected.sorted.summary
  unfold detect
  rw [utcText_of_mem (by omega) ceiling, ok_bind, opened.checked, ok_bind, detected.checked, ok_bind,
    written, ok_bind]
  refine ⟨_, rfl, by simp, ?_, ?_⟩
  · intro episode same
    obtain rfl := Option.some.inj same
    exact ⟨rfl, fun _ => detected.sorted, by simp⟩
  · intro other same
    obtain rfl := Option.some.inj same
    exact ⟨_, rfl, reports⟩

/-- An actionable current of a domain without an episode is a candidate, or opens one. -/
theorem observeCandidate_proper (past : current.observedAt ≤ nowAt)
    (known : ∀ candidate ∈ pending,
      candidate.snapshotId ≠ current.snapshotId ∧ candidate.firstSeenAt ≤ nowAt)
    (inOrder : ∀ candidate ∈ pending, OpensFrom policy nowAt current candidate →
      candidate.firstSeenAt ≤ current.observedAt)
    (actionable : current.state ≠ .good) (above : MIN_TS ≤ nowAt) (roomy : Roomy policy nowAt) :
    ∃ evaluation, observeCandidate current policy nowAt pending = .ok evaluation ∧
      Proper current nowAt none evaluation := by
  obtain ⟨⟨minSamples, minDuration, severity⟩, limits⟩ := threshold_ok policy actionable
  obtain ⟨domain, snapshot, began⟩ := candidateOf_facts past known
  unfold observeCandidate
  dsimp only
  rw [limits, ok_bind]
  dsimp only
  by_cases isRipe : ripe nowAt minSamples minDuration (candidateOf current pending)
  · rw [if_pos isRipe]
    exact detect_proper (candidateOf_opens limits (fun candidate present => (known candidate present).1)
      isRipe inOrder) began above roomy
  · rw [if_neg isRipe]
    refine ⟨_, rfl, ?_, by simp, by simp⟩
    intro candidate same
    obtain rfl := Option.some.inj same
    exact ⟨domain, snapshot, began⟩

/-- A current whose evidence keeps its order: it is suppressed, or not actionable, or was not
observed before the episode it continues or would open began. -/
def InOrder (policy : IncidentPolicy) (nowTs : Int) (current : DomainCurrent)
    (active : Option IncidentEpisode) (pending : Option CandidateState) : Prop :=
  (policy.suppressDuringMaintenance = true ∧ current.payload.maintenance = true) ∨
    policy.isActionable current.state current.reasonCodes = false ∨
    match active with
    | some episode => episode.openedAt ≤ current.observedAt
    | none => ∀ candidate ∈ pending, OpensFrom policy nowTs current candidate →
        candidate.firstSeenAt ≤ current.observedAt

/-- The engine evaluates a current in order without raising. -/
theorem evaluateCurrent_proper {episode : Option IncidentEpisode} (matched : current.domain = policy.domain)
    (running : ∀ active ∈ episode, Running active nowAt ∧ active.domain = current.domain)
    (known : ∀ candidate ∈ pending,
      candidate.snapshotId ≠ current.snapshotId ∧ candidate.firstSeenAt ≤ nowAt)
    (inOrder : InOrder policy nowAt current episode pending) (past : current.observedAt ≤ nowAt)
    (above : MIN_TS ≤ nowAt) (roomy : Roomy policy nowAt) :
    ∃ evaluation, evaluateCurrent current policy nowAt episode pending = .ok evaluation ∧
      Proper current nowAt episode evaluation := by
  unfold evaluateCurrent
  rw [if_neg (not_not.mpr matched)]
  by_cases suppressed : policy.suppressDuringMaintenance = true ∧ current.payload.maintenance = true
  · rw [if_pos suppressed]
    refine ⟨_, rfl, by simp, ?_, by simp⟩
    intro active same
    obtain ⟨runs, domain⟩ := running active same
    refine ⟨domain, fun _ => runs, ?_⟩
    intro before present
    rw [Option.some.inj (same.symm.trans present)]
  · rw [if_neg suppressed]
    by_cases actionable : policy.isActionable current.state current.reasonCodes = true
    · rw [if_pos actionable]
      have bad := not_good_of_isActionable actionable
      have ordered := (inOrder.resolve_left suppressed).resolve_left (by simp [actionable])
      cases episode with
      | none => exact observeCandidate_proper past known ordered bad above roomy
      | some active =>
        obtain ⟨runs, domain⟩ := running active rfl
        obtain ⟨evaluation, done, moves⟩ := continueEpisode_moves runs domain ordered
          (fun candidate present => (known candidate present).1) bad above roomy
        exact ⟨evaluation, done, moves.proper⟩
    · rw [if_neg actionable]
      cases episode with
      | none => exact ⟨_, rfl, by simp, by simp, by simp⟩
      | some active =>
        obtain ⟨runs, domain⟩ := running active rfl
        obtain ⟨evaluation, done, moves⟩ := closeEpisode_moves runs domain
        exact ⟨evaluation, done, moves.proper⟩

end Engine

section Ledger

/-- The invariant of the repository between two calls. -/
structure Sound (repository : Repository) (clock : Int) : Prop where
  rows : ∀ domain row, currentOf repository.currents domain = some row →
    row.reducedAt ≤ clock ∧ row.snapshotId.domain = row.domain
  keys : (repository.incidents.episodes.map IncidentEpisode.episodeId).Nodup
  running : ∀ row ∈ repository.incidents.episodes, row.status = .active → Running row clock
  single : ∀ left ∈ repository.incidents.episodes, ∀ right ∈ repository.incidents.episodes,
    left.status = .active → right.status = .active → left.domain = right.domain → left = right
  candidates : ∀ row ∈ repository.incidents.candidates,
    row.snapshotId ∈ repository.incidents.processed ∧ row.firstSeenAt ≤ clock

theorem Sound.later {repository : Repository} {clock later : Int} (sound : Sound repository clock)
    (after : clock ≤ later) : Sound repository later where
  rows domain row found :=
    ⟨(sound.rows domain row found).1.trans after, (sound.rows domain row found).2⟩
  keys := sound.keys
  running row member active := (sound.running row member active).later after
  single := sound.single
  candidates row member :=
    ⟨(sound.candidates row member).1, (sound.candidates row member).2.trans after⟩

variable {tables : IncidentTables} {currents : CurrentTables} {current : DomainCurrent} {clock : Int}
  {epoch : Option DeliveryEpoch}

theorem activeRow_some {domain : Domain} {row : IncidentEpisode}
    (found : activeRow tables domain = some row) :
    row ∈ tables.episodes ∧ row.domain = domain ∧ row.status = .active := by
  have kind := List.find?_some found
  simp only [Bool.decide_and, Bool.and_eq_true, decide_eq_true_eq] at kind
  exact ⟨List.mem_of_find?_eq_some found, kind⟩

theorem activeRow_none {domain : Domain} (absent : activeRow tables domain = none) :
    ∀ row ∈ tables.episodes, row.domain = domain → row.status ≠ .active := by
  intro row member same active
  have kind := List.find?_eq_none.mp absent row member
  simp [same, active] at kind

theorem snapshotGuard_ok {domain : Domain} {text : String}
    (known : current.snapshotId ∈ currents.currentSnapshots) (named : current.snapshotId.domain = domain) :
    snapshotGuard currents current.snapshotId domain text = .ok () := by
  unfold snapshotGuard
  apply rejectIf_of_not
  rintro (unknown | other)
  · exact unknown known
  · exact other named

/-- The candidate of an evaluation is stored, and only snapshots that count as processed are named. -/
theorem putCandidate_ok {candidate : Option CandidateState}
    (known : current.snapshotId ∈ currents.currentSnapshots)
    (named : current.snapshotId.domain = current.domain)
    (proper : ∀ row ∈ candidate, row.domain = current.domain ∧ row.snapshotId = current.snapshotId ∧
      row.firstSeenAt ≤ clock)
    (sound : ∀ row ∈ tables.candidates, row.snapshotId ∈ tables.processed ∧ row.firstSeenAt ≤ clock) :
    ∃ after, putCandidate currents current.domain tables candidate = .ok after ∧
      after.episodes = tables.episodes ∧ after.transitions = tables.transitions ∧
      after.processed = tables.processed ∧
      ∀ row ∈ after.candidates,
        row.snapshotId ∈ tables.processed ++ [current.snapshotId] ∧ row.firstSeenAt ≤ clock := by
  cases candidate with
  | none =>
    refine ⟨_, rfl, rfl, rfl, rfl, ?_⟩
    intro row member
    obtain ⟨processed, began⟩ := sound row (List.mem_filter.mp member).1
    exact ⟨List.mem_append_left _ processed, began⟩
  | some fresh =>
    obtain ⟨domain, snapshot, began⟩ := proper fresh rfl
    unfold putCandidate
    dsimp only
    rw [snapshot, snapshotGuard_ok known (named.trans domain.symm), ok_bind]
    refine ⟨_, rfl, rfl, rfl, rfl, ?_⟩
    intro row member
    rcases mem_upsert.mp member with rfl | ⟨old, _⟩
    · exact ⟨by simp [snapshot], began⟩
    · obtain ⟨processed, earlier⟩ := sound row old
      exact ⟨List.mem_append_left _ processed, earlier⟩

/-- The episode of an evaluation is stored, and the domain keeps at most one active episode. -/
theorem putEpisode_ok (episode : Option IncidentEpisode)
    (proper : ∀ fresh ∈ episode, fresh.domain = current.domain ∧
      (fresh.status = .active → Running fresh clock) ∧
      ∀ before ∈ activeRow tables current.domain, fresh.episodeId = before.episodeId)
    (keys : (tables.episodes.map IncidentEpisode.episodeId).Nodup)
    (running : ∀ row ∈ tables.episodes, row.status = .active → Running row clock)
    (single : ∀ left ∈ tables.episodes, ∀ right ∈ tables.episodes,
      left.status = .active → right.status = .active → left.domain = right.domain → left = right) :
    ∃ after, putEpisode tables episode = .ok after ∧ after.candidates = tables.candidates ∧
      after.transitions = tables.transitions ∧ after.processed = tables.processed ∧
      (∀ fresh ∈ episode, fresh ∈ after.episodes) ∧
      (after.episodes.map IncidentEpisode.episodeId).Nodup ∧
      (∀ row ∈ after.episodes, row.status = .active → Running row clock) ∧
      ∀ left ∈ after.episodes, ∀ right ∈ after.episodes,
        left.status = .active → right.status = .active → left.domain = right.domain → left = right := by
  cases episode with
  | none => exact ⟨tables, rfl, rfl, rfl, rfl, by simp, keys, running, single⟩
  | some fresh =>
    obtain ⟨domain, runs, same⟩ := proper fresh rfl
    -- an active row of the domain has the id of the fresh one
    have alone : ∀ row ∈ tables.episodes, row.status = .active → row.domain = fresh.domain →
        row.episodeId = fresh.episodeId := by
      intro row member active sameDomain
      cases found : activeRow tables current.domain with
      | none => exact absurd active (activeRow_none found row member (sameDomain.trans domain))
      | some before =>
        obtain ⟨listed, beforeDomain, beforeActive⟩ := activeRow_some found
        rw [single row member before listed active beforeActive
          (sameDomain.trans (domain.trans beforeDomain.symm))]
        exact (same before found).symm
    unfold putEpisode
    dsimp only
    rw [rejectIf_of_not, ok_bind]
    · refine ⟨_, rfl, rfl, rfl, rfl, ?_, nodup_upsert keys fresh, ?_, ?_⟩
      · intro row present
        exact mem_upsert.mpr (Or.inl (Option.some.inj present).symm)
      · intro row member active
        rcases mem_upsert.mp member with rfl | ⟨old, _⟩
        · exact runs active
        · exact running row old active
      · intro left leftMember right rightMember leftActive rightActive sameDomain
        rcases mem_upsert.mp leftMember with rfl | ⟨leftOld, leftApart⟩
        · rcases mem_upsert.mp rightMember with rfl | ⟨rightOld, rightApart⟩
          · rfl
          · exact absurd (alone right rightOld rightActive sameDomain.symm) rightApart
        · rcases mem_upsert.mp rightMember with rfl | ⟨rightOld, _⟩
          · exact absurd (alone left leftOld leftActive sameDomain) leftApart
          · exact single left leftOld right rightOld leftActive rightActive sameDomain
    · rintro ⟨_, row, member, active, sameDomain, apart⟩
      exact apart (alone row member active sameDomain)

/-- The transition of a stored episode is stored with its notifications. -/
theorem putTransition_ok {transition : Option IncidentTransition} {episodes : List IncidentEpisode}
    (stored : tables.episodes = episodes)
    (known : current.snapshotId ∈ currents.currentSnapshots)
    (named : current.snapshotId.domain = current.domain)
    (proper : ∀ fresh ∈ transition, ∃ episode ∈ episodes, Reports current clock episode fresh)
    (rendered : clock + 32400 ≤ MAX_TS)
    (given : ∀ given ∈ epoch, given.active = true ∧ given.cutoverTs ≤ clock) :
    ∃ after, putTransition currents epoch tables transition = .ok after ∧
      after.candidates = tables.candidates ∧ after.episodes = tables.episodes ∧
      after.processed = tables.processed := by
  cases transition with
  | none => exact ⟨tables, rfl, rfl, rfl, rfl⟩
  | some fresh =>
    obtain ⟨episode, member, reports⟩ := proper fresh rfl
    have referenced : ¬ ∀ row ∈ tables.episodes, row.episodeId ≠ fresh.episodeId := by
      intro none
      exact none episode (stored ▸ member) reports.episode.symm
    have intents : appendIntents epoch fresh.occurredAt = .ok () := by
      unfold appendIntents
      rw [reports.time, rejectIf_of_not (not_lt.mpr rendered), ok_bind, rejectIf_of_not, ok_bind,
        rejectIf_of_not]
      · rintro ⟨other, present, early⟩
        exact absurd early (not_lt.mpr (given other present).2)
      · rintro ⟨other, present, inactive⟩
        exact inactive (given other present).1
    unfold putTransition
    dsimp only
    split
    · exact ⟨tables, rfl, rfl, rfl, rfl⟩
    · rw [rejectIf_of_not referenced, ok_bind, reports.snapshot,
        snapshotGuard_ok known (named.trans reports.domain.symm), ok_bind, intents, ok_bind]
      exact ⟨_, rfl, rfl, rfl, rfl⟩

end Ledger

end LiveStream.Monitoring

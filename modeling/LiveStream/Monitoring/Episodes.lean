import LiveStream.Monitoring.IncidentRuns

/-! What the incident engine may make of a current, whatever it is: the active episode it leaves,
and the transition it reports. -/

namespace LiveStream.Monitoring

open LiveStream.Support

/-! ### The contract of an episode -/

theorem sortedReasons_idem (reasons : List ReasonCode) :
    sortedReasons (sortedReasons reasons) = sortedReasons reasons := by
  have unique : (sortedReasons reasons).Nodup :=
    (sortBy_perm ReasonCode.text reasons.dedup).nodup_iff.mpr (List.nodup_dedup reasons)
  have sorted : (sortedReasons reasons).Pairwise fun left right => left.text ≤ right.text :=
    List.pairwise_insertionSort _ reasons.dedup
  rw [sortedReasons, unique.dedup]
  exact List.Pairwise.insertionSort_eq sorted

/-- What the contract of an episode checks. -/
structure IncidentEpisode.Accepted (episode : IncidentEpisode) : Prop where
  ordered : ¬ episode.lastBadAt < episode.openedAt
  after : ¬ ∃ closedAt ∈ episode.closedAt, closedAt < episode.openedAt
  ended : ¬ (episode.status = .closed ∧ episode.closedAt = none)
  running : ¬ (episode.status = .active ∧ episode.closedAt ≠ none)
  due : ¬ (episode.status = .active ∧ episode.nextNotificationAt = none)
  later : ¬ (episode.status = .active ∧
    ∃ nextAt ∈ episode.nextNotificationAt, nextAt < episode.lastTransitionAt)
  quiet : ¬ (episode.status = .closed ∧ episode.nextNotificationAt ≠ none)
  revision : ¬ ¬ boundedRevision episode.policyRevision
  summary : ¬ ¬ boundedSummary episode.summary

theorem checked_iff {episode checked : IncidentEpisode} :
    episode.checked = .ok checked ↔ episode.Accepted ∧ checked = episode.sorted := by
  constructor
  · intro accepted
    unfold IncidentEpisode.checked at accepted
    simp only [bind_eq_ok, rejectIf_eq_ok, pure_eq_ok] at accepted
    obtain ⟨_, ordered, _, after, _, ended, _, running, _, due, _, later, _, quiet, _, revision, _,
      summary, same⟩ := accepted
    exact ⟨⟨ordered, after, ended, running, due, later, quiet, revision, summary⟩, same.symm⟩
  · rintro ⟨accepted, rfl⟩
    unfold IncidentEpisode.checked
    rw [rejectIf_of_not accepted.ordered, ok_bind, rejectIf_of_not accepted.after, ok_bind,
      rejectIf_of_not accepted.ended, ok_bind, rejectIf_of_not accepted.running, ok_bind,
      rejectIf_of_not accepted.due, ok_bind, rejectIf_of_not accepted.later, ok_bind,
      rejectIf_of_not accepted.quiet, ok_bind, rejectIf_of_not accepted.revision, ok_bind,
      rejectIf_of_not accepted.summary, ok_bind]
    rfl

theorem checked_eq {episode checked : IncidentEpisode} (accepted : episode.checked = .ok checked) :
    checked = episode.sorted :=
  (checked_iff.mp accepted).2

/-- An episode that the contract accepts as it is. -/
def IncidentEpisode.Normal (episode : IncidentEpisode) : Prop := episode.checked = .ok episode

/-- What the contract returns it accepts again. -/
theorem checked_normal {episode checked : IncidentEpisode} (accepted : episode.checked = .ok checked) :
    checked.Normal := by
  obtain ⟨⟨ordered, after, ended, running, due, later, quiet, revision, summary⟩, rfl⟩ :=
    checked_iff.mp accepted
  apply checked_iff.mpr
  refine ⟨⟨ordered, after, ended, running, due, later, quiet, revision, summary⟩, ?_⟩
  simp only [IncidentEpisode.sorted, sortedReasons_idem]

/-! ### The outcomes of an evaluation -/

/-- An episode that goes on from the active one. -/
structure Continues (active episode : IncidentEpisode) : Prop where
  ident : episode.episodeId = active.episodeId
  domain : episode.domain = active.domain
  severity : active.severity.rank ≤ episode.severity.rank
  normal : episode.Normal

/-- A transition of an episode for a current at a time. -/
structure Tells (current : DomainCurrent) (nowAt : Int) (phase : Phase) (episode : IncidentEpisode)
    (transition : IncidentTransition) : Prop where
  ident : transition.transitionId.currentSnapshotId = current.snapshotId
  episode : transition.episodeId = episode.episodeId
  domain : transition.domain = current.domain
  phase : transition.phase = phase
  snapshot : transition.currentSnapshotId = current.snapshotId
  time : transition.occurredAt = nowAt

/-- The next notification of an episode is due after a time. -/
def IncidentEpisode.DueAfter (episode : IncidentEpisode) (nowAt : Int) : Prop :=
  ∃ nextAt, episode.nextNotificationAt = some nextAt ∧ nowAt < nextAt

/-- What the engine may return for the active episode it is given. -/
inductive Evaluated (current : DomainCurrent) (nowAt : Int) :
    Option IncidentEpisode → Evaluation → Prop where
  | waiting (candidate : Option CandidateState)
      (named : ∀ pending ∈ candidate,
        pending.domain = current.domain ∧ pending.snapshotId = current.snapshotId) :
      Evaluated current nowAt none ⟨candidate, none, none⟩
  | detected (episode : IncidentEpisode) (transition : IncidentTransition)
      (status : episode.status = .active) (domain : episode.domain = current.domain)
      (fresh : episode.episodeId.snapshotId = current.snapshotId)
      (normal : episode.Normal) (due : episode.DueAfter nowAt)
      (tells : Tells current nowAt .detected episode transition) :
      Evaluated current nowAt none ⟨none, some episode, some transition⟩
  | kept (active episode : IncidentEpisode) (status : episode.status = active.status)
      (continues : Continues active episode) :
      Evaluated current nowAt (some active) ⟨none, some episode, none⟩
  | repeated (active episode : IncidentEpisode) (transition : IncidentTransition)
      (status : episode.status = active.status) (continues : Continues active episode)
      (due : episode.DueAfter nowAt) (tells : Tells current nowAt .again episode transition) :
      Evaluated current nowAt (some active) ⟨none, some episode, some transition⟩
  | recovered (active episode : IncidentEpisode) (transition : IncidentTransition)
      (status : episode.status = .closed) (continues : Continues active episode)
      (tells : Tells current nowAt .recovered episode transition) :
      Evaluated current nowAt (some active) ⟨none, some episode, some transition⟩

variable {current : DomainCurrent} {policy : IncidentPolicy} {nowAt : Int} {active : IncidentEpisode}
  {evaluation : Evaluation}

theorem transitionOf_tells {phase : Phase} {severity : Severity} {transition : IncidentTransition}
    (written : transitionOf active current phase severity nowAt = .ok transition) :
    Tells current nowAt phase active transition := by
  unfold transitionOf at written
  simp only [bind_eq_ok, pure_eq_ok] at written
  obtain ⟨_, _, rfl⟩ := written
  exact ⟨rfl, rfl, rfl, rfl, rfl, rfl⟩

theorem closeEpisode_evaluated (closed : closeEpisode current nowAt active = .ok evaluation) :
    Evaluated current nowAt (some active) evaluation := by
  unfold closeEpisode at closed
  simp only [bind_eq_ok, pure_eq_ok] at closed
  obtain ⟨episode, accepted, transition, written, rfl⟩ := closed
  have normal := checked_normal accepted
  obtain rfl := checked_eq accepted
  exact .recovered active _ transition rfl ⟨rfl, rfl, le_rfl, normal⟩ (transitionOf_tells written)

theorem detect_evaluated {severity : Severity} {candidate : CandidateState}
    (detected : detect current policy nowAt severity candidate = .ok evaluation) :
    Evaluated current nowAt none evaluation := by
  unfold detect at detected
  simp only [bind_eq_ok, pure_eq_ok, utcText_eq_ok] at detected
  obtain ⟨nextAt, ⟨rfl, _, _⟩, opened, first, episode, second, transition, written, rfl⟩ := detected
  have normal := checked_normal second
  obtain rfl := checked_eq first
  obtain rfl := checked_eq second
  have interval := policy.sixty_le_repeatInterval current.state current.reasonCodes
  exact .detected _ transition rfl rfl rfl normal ⟨_, rfl, by omega⟩ (transitionOf_tells written)

/-- A repetition, of an episode that already goes on from the active one. -/
theorem repeatEpisode_evaluated {updated : IncidentEpisode} {severity : Severity} {dueTs : Int}
    (same : updated.episodeId = active.episodeId ∧ updated.domain = active.domain ∧
      updated.status = active.status)
    (raised : active.severity.rank ≤ severity.rank) (later : nowAt < dueTs)
    (repeated : repeatEpisode current nowAt updated severity dueTs = .ok evaluation) :
    Evaluated current nowAt (some active) evaluation := by
  unfold repeatEpisode at repeated
  simp only [bind_eq_ok, pure_eq_ok, utcText_eq_ok] at repeated
  obtain ⟨nextAt, ⟨rfl, _, _⟩, episode, accepted, transition, written, rfl⟩ := repeated
  have normal := checked_normal accepted
  obtain rfl := checked_eq accepted
  exact .repeated active _ transition same.2.2 ⟨same.1, same.2.1, raised, normal⟩ ⟨_, rfl, later⟩
    (transitionOf_tells written)

theorem keepDeadline_evaluated {updated : IncidentEpisode} {dueTs : Int}
    (same : updated.episodeId = active.episodeId ∧ updated.domain = active.domain ∧
      updated.status = active.status)
    (severity : updated.severity = active.severity) (normal : updated.Normal)
    (kept : keepDeadline current policy nowAt active updated dueTs = .ok evaluation) :
    Evaluated current nowAt (some active) evaluation := by
  have interval := policy.sixty_le_repeatInterval current.state current.reasonCodes
  unfold keepDeadline at kept
  simp only [bind_eq_ok] at kept
  obtain ⟨clamped, written, kept⟩ := kept
  have alike : clamped.Normal ∧ clamped.severity = active.severity ∧
      clamped.episodeId = active.episodeId ∧ clamped.domain = active.domain ∧
      clamped.status = active.status := by
    unfold clampDeadline at written
    split at written
    · cases written
      exact ⟨normal, severity, same⟩
    · simp only [bind_eq_ok] at written
      obtain ⟨_, _, accepted⟩ := written
      have normal' := checked_normal accepted
      obtain rfl := checked_eq accepted
      exact ⟨normal', severity, same⟩
  obtain ⟨normal', severity', same'⟩ := alike
  split at kept
  · cases kept
    exact .kept active clamped same'.2.2 ⟨same'.1, same'.2.1, severity' ▸ le_rfl, normal'⟩
  · have near := min_le_right dueTs (nowAt + policy.repeatInterval current.state current.reasonCodes)
    exact repeatEpisode_evaluated same' le_rfl (nextDue_spec _ _ _ (by omega) near).1 kept

theorem continueEpisode_evaluated {pending : Option CandidateState} (normal : active.Normal)
    (continued : continueEpisode current policy nowAt active pending = .ok evaluation) :
    Evaluated current nowAt (some active) evaluation := by
  have interval := policy.sixty_le_repeatInterval current.state current.reasonCodes
  unfold continueEpisode at continued
  split at continued
  · cases continued
    exact .kept active active rfl ⟨rfl, rfl, le_rfl, normal⟩
  · simp only [bind_eq_ok] at continued
    obtain ⟨updated, accepted, ⟨samples, duration, severity⟩, _, dueTs, _, continued⟩ := continued
    have normal' := checked_normal accepted
    have same : updated.episodeId = active.episodeId ∧ updated.domain = active.domain ∧
        updated.status = active.status ∧ updated.severity = active.severity := by
      rw [checked_eq accepted]
      exact ⟨rfl, rfl, rfl, rfl⟩
    obtain ⟨ident, domain, status, level⟩ := same
    dsimp only at continued
    split at continued
    · rename_i raised
      exact repeatEpisode_evaluated ⟨ident, domain, status⟩ raised.le (by omega) continued
    · exact keepDeadline_evaluated ⟨ident, domain, status⟩ level normal' continued

theorem candidateOf_named {pending : Option CandidateState}
    (own : ∀ candidate ∈ pending, candidate.domain = current.domain) :
    (candidateOf current pending).domain = current.domain ∧
      (candidateOf current pending).snapshotId = current.snapshotId := by
  unfold candidateOf
  cases pending with
  | none => exact ⟨rfl, rfl⟩
  | some seen =>
    dsimp only
    split
    · exact ⟨rfl, rfl⟩
    · split
      · rename_i same
        exact ⟨own seen rfl, same⟩
      · exact ⟨rfl, rfl⟩

/-- Whatever the current, the engine goes on with the active episode, opens one under the name
of the current, or waits. -/
theorem evaluateCurrent_evaluated {episode : Option IncidentEpisode} {pending : Option CandidateState}
    (normal : ∀ active ∈ episode, active.Normal)
    (own : ∀ candidate ∈ pending, candidate.domain = current.domain)
    (evaluated : evaluateCurrent current policy nowAt episode pending = .ok evaluation) :
    Evaluated current nowAt episode evaluation := by
  unfold evaluateCurrent at evaluated
  split at evaluated
  · cases evaluated
  · split at evaluated
    · cases evaluated
      cases episode with
      | none => exact .waiting none (by simp)
      | some active => exact .kept active active rfl ⟨rfl, rfl, le_rfl, normal active rfl⟩
    · split at evaluated
      · cases episode with
        | none =>
          simp only [observeCandidate, bind_eq_ok] at evaluated
          obtain ⟨⟨samples, duration, severity⟩, _, evaluated⟩ := evaluated
          dsimp only at evaluated
          split at evaluated
          · exact detect_evaluated evaluated
          · cases evaluated
            apply Evaluated.waiting
            intro candidate present
            obtain rfl := Option.some.inj present
            exact candidateOf_named own
        | some active => exact continueEpisode_evaluated (normal active rfl) evaluated
      · cases episode with
        | none =>
          cases evaluated
          exact .waiting none (by simp)
        | some active => exact closeEpisode_evaluated evaluated

end LiveStream.Monitoring

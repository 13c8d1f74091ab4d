import LiveStream.Monitoring.IncidentRuns

/-! Runs of the pipeline: cycles at times that never go back, each processing the currents that
its reducer returned. -/

namespace LiveStream.Monitoring

open LiveStream.Support

variable {repository : Repository} {cycle : Cycle} {current : DomainCurrent} {clock : Int}

/-- What a call needs in order not to raise: a time and an epoch that the notifications accept,
and, for a current that was not processed before, an incident policy of its domain with room for
its texts and deadlines under which the current keeps the order of its evidence. -/
structure Meets (cycle : Cycle) (call : Call) : Prop where
  above : MIN_TS ≤ cycle.nowTs
  rendered : cycle.nowTs + 32400 ≤ MAX_TS
  epoch : ∀ given ∈ cycle.epoch, given.active = true ∧ given.cutoverTs ≤ cycle.nowTs
  policy : call.current.snapshotId ∉ call.repository.incidents.processed →
    ∃ policy, cycle.incidentPolicies call.current.domain = some policy ∧
      call.current.domain = policy.domain ∧ Roomy policy cycle.nowTs ∧
      InOrder policy cycle.nowTs call.current
        (activeRow call.repository.incidents call.current.domain)
        (candidateRow call.repository.incidents call.current.domain)

theorem currentSnapshots_known (currents : CurrentTables) (current : DomainCurrent) :
    current.snapshotId ∈ (appendCurrentSnapshot currents current).currentSnapshots :=
  mem_currentSnapshots_append.mpr (Or.inr rfl)

/-- A sound repository reads its active episodes through the contract. -/
theorem Sound.activeEpisode (sound : Sound repository clock) (domain : Domain) :
    activeEpisode repository.incidents domain =
      .ok ((activeRow repository.incidents domain).map IncidentEpisode.sorted) := by
  unfold LiveStream.Monitoring.activeEpisode
  cases found : activeRow repository.incidents domain with
  | none => rfl
  | some row =>
    obtain ⟨member, _, active⟩ := activeRow_some found
    dsimp only
    rw [(sound.running row member active).checked]
    rfl

theorem inOrder_sorted {policy : IncidentPolicy} {nowTs : Int} {row : Option IncidentEpisode}
    {pending : Option CandidateState} (inOrder : InOrder policy nowTs current row pending) :
    InOrder policy nowTs current (row.map IncidentEpisode.sorted) pending := by
  cases row with
  | none => exact inOrder
  | some episode => exact inOrder

/-- A call that meets its condition does not raise, and leaves the repository sound. -/
theorem process_sound (sound : Sound repository cycle.nowTs) (reduced : current.reducedAt ≤ cycle.nowTs)
    (named : current.snapshotId.domain = current.domain) (meets : Meets cycle ⟨repository, current⟩) :
    ∃ after, process repository cycle.incidentPolicies cycle.epoch current cycle.nowTs = .ok after ∧
      Sound after cycle.nowTs := by
  unfold process
  rw [max_eq_left reduced, utcText_of_mem meets.above (by have := meets.rendered; omega), ok_bind]
  by_cases seen : current.snapshotId ∈ repository.incidents.processed
  · rw [if_pos seen]
    exact ⟨repository, rfl, sound⟩
  · obtain ⟨policy, found, matched, roomy, inOrder⟩ := meets.policy seen
    have running : ∀ active ∈ (activeRow repository.incidents current.domain).map IncidentEpisode.sorted,
        Running active cycle.nowTs ∧ active.domain = current.domain := by
      intro active present
      obtain ⟨row, stored, rfl⟩ := Option.map_eq_some_iff.mp present
      obtain ⟨member, domain, status⟩ := activeRow_some stored
      exact ⟨(sound.running row member status).sorted, domain⟩
    have known : ∀ candidate ∈ candidateRow repository.incidents current.domain,
        candidate.snapshotId ≠ current.snapshotId ∧ candidate.firstSeenAt ≤ cycle.nowTs := by
      intro candidate present
      obtain ⟨processed, began⟩ := sound.candidates candidate (lookup_some present).1
      exact ⟨fun same => seen (same ▸ processed), began⟩
    obtain ⟨evaluation, evaluated, proper⟩ := evaluateCurrent_proper matched running known
      (inOrder_sorted inOrder) (current.observedFirst.trans reduced) meets.above roomy
    have snapshot := currentSnapshots_known repository.currents current
    obtain ⟨held, heldIs, heldEpisodes, _, heldProcessed, heldCandidates⟩ :=
      putCandidate_ok snapshot named proper.candidate sound.candidates
    have sameRow : activeRow held current.domain = activeRow repository.incidents current.domain := by
      rw [activeRow, heldEpisodes, activeRow]
    obtain ⟨filed, filedIs, filedCandidates, _, filedProcessed, filedFresh, keys, runs, single⟩ :=
      putEpisode_ok evaluation.episode
        (by
          intro fresh present
          obtain ⟨domain, active, same⟩ := proper.episode fresh present
          refine ⟨domain, active, ?_⟩
          intro before listed
          exact same before.sorted (by rw [← sameRow, listed]; rfl))
        (heldEpisodes ▸ sound.keys) (heldEpisodes ▸ sound.running) (heldEpisodes ▸ sound.single)
    obtain ⟨sent, sentIs, sentCandidates, sentEpisodes, sentProcessed⟩ :=
      putTransition_ok rfl snapshot named
        (by
          intro transition present
          obtain ⟨episode, written, reports⟩ := proper.transition transition present
          exact ⟨episode, filedFresh episode written, reports⟩)
        meets.rendered meets.epoch
    rw [if_neg seen]
    dsimp only
    rw [sound.activeEpisode, ok_bind, found, orReject_some, ok_bind, evaluated, ok_bind, record, heldIs,
      ok_bind, filedIs, ok_bind, sentIs, ok_bind]
    refine ⟨_, rfl, ?_, ?_, ?_, ?_, ?_⟩
    · intro domain row stored
      exact sound.rows domain row (currentOf_appendCurrentSnapshot.symm.trans stored)
    · exact sentEpisodes ▸ keys
    · exact sentEpisodes ▸ runs
    · exact sentEpisodes ▸ single
    · intro row member
      have listed : row ∈ held.candidates := by
        rw [← filedCandidates, ← sentCandidates]
        exact member
      obtain ⟨processed, began⟩ := heldCandidates row listed
      refine ⟨?_, began⟩
      rw [markProcessed, sentProcessed, filedProcessed, heldProcessed]
      exact processed

/-- The calls of a cycle do not raise where each meets its condition. -/
theorem processAll_sound {currents : List DomainCurrent} (sound : Sound repository cycle.nowTs)
    (timely : ∀ current ∈ currents, current.reducedAt ≤ cycle.nowTs ∧
      current.snapshotId.domain = current.domain)
    (meets : ∀ call ∈ (processAll cycle repository currents).2, Meets cycle call) :
    (∀ call ∈ (processAll cycle repository currents).2, ∃ after, call.outcome cycle = .ok after) ∧
      Sound (processAll cycle repository currents).1 cycle.nowTs := by
  induction currents generalizing repository with
  | nil => exact ⟨by simp [processAll], sound⟩
  | cons current rest inductionHypothesis =>
    have first : (⟨repository, current⟩ : Call) ∈ (processAll cycle repository (current :: rest)).2 := by
      rw [processAll]
      dsimp only
      split
      · exact List.mem_cons_self
      · exact List.mem_cons_self
    obtain ⟨reduced, named⟩ := timely current List.mem_cons_self
    obtain ⟨after, done, kept⟩ := process_sound sound reduced named (meets _ first)
    have outcome : (⟨repository, current⟩ : Call).outcome cycle = .ok after := done
    rw [processAll] at meets ⊢
    dsimp only at meets ⊢
    rw [outcome] at meets ⊢
    obtain ⟨others, final⟩ := inductionHypothesis kept
      (fun other member => timely other (List.mem_cons_of_mem _ member))
      (fun call member => meets call (List.mem_cons_of_mem _ member))
    refine ⟨?_, final⟩
    intro call member
    rcases List.mem_cons.mp member with rfl | member
    · exact ⟨after, outcome⟩
    · exact others call member

/-- What holds of the rows and of the snapshots holds of the rows after they are saved. -/
theorem saveAll_rows {holds : DomainCurrent → Prop} {tables final : CurrentTables}
    {snapshots canonical : List DomainCurrent}
    (rows : ∀ domain row, currentOf tables domain = some row → holds row)
    (fresh : ∀ snapshot ∈ snapshots, holds snapshot)
    (done : saveAll tables snapshots = .ok (final, canonical)) :
    ∀ domain row, currentOf final domain = some row → holds row := by
  induction snapshots generalizing tables canonical with
  | nil =>
    cases done
    exact rows
  | cons snapshot rest inductionHypothesis =>
    obtain ⟨saved, wrote, selected, later, first, _, others, _⟩ := saveAll_cons done
    apply inductionHypothesis ?_ (fun other member => fresh other (List.mem_cons_of_mem _ member)) others
    intro domain row found
    rcases saveCurrent_cases first with ⟨_, _, own, apart⟩ | ⟨_, _, same⟩
    · by_cases here : domain = snapshot.domain
      · subst here
        rw [← Option.some.inj (own.symm.trans found)]
        exact fresh snapshot List.mem_cons_self
      · exact rows domain row ((apart domain here).symm.trans found)
    · exact rows domain row ((same domain).symm.trans found)

theorem currentOf_observe {domain : Domain} :
    currentOf (observe repository cycle).currents domain = currentOf repository.currents domain := by
  unfold observe
  dsimp only
  generalize repository.currents = tables
  induction cycle.observed generalizing tables with
  | nil => rfl
  | cons item rest inductionHypothesis =>
    rw [List.foldl_cons, inductionHypothesis, currentOf_appendObservation]

/-- A cycle whose calls meet their conditions does not raise in any of them. -/
theorem runOnce_sound (sound : Sound repository clock) (after : clock ≤ cycle.nowTs)
    (meets : ∀ call ∈ (runOnce repository cycle).2, Meets cycle call) :
    (∀ call ∈ (runOnce repository cycle).2, ∃ final, call.outcome cycle = .ok final) ∧
      Sound (runOnce repository cycle).1 cycle.nowTs := by
  have later := sound.later after
  have observed : Sound (observe repository cycle) cycle.nowTs :=
    { later with rows := fun domain row found => later.rows domain row (currentOf_observe.symm.trans found) }
  revert meets
  unfold runOnce
  dsimp only
  cases reduction : reduce (observe repository cycle).currents cycle.policies cycle.domains
      cycle.nowTs with
  | error error => exact fun _ => ⟨by simp, observed⟩
  | ok left =>
    obtain ⟨final, canonical⟩ := left
    obtain ⟨snapshots, computed, saved⟩ := bind_eq_ok.mp reduction
    have rows := saveAll_rows observed.rows
      (fun snapshot member => by
        obtain ⟨domain, _, made⟩ := mem_mapM computed snapshot member
        exact ⟨(snapshotOf_made made).2.1.le, (snapshotOf_made made).2.2⟩) saved
    have stored := saveAll_canonical (ofOneCall computed) saved
    apply processAll_sound
    · exact ⟨rows, observed.keys, observed.running, observed.single, observed.candidates⟩
    · intro current listed
      exact rows _ current (stored current listed).2

/-- In every run of cycles at times that never go back, from the empty repository, in which each
call of the incident service meets its condition, no call raises. -/
theorem orderly_currents_processed (cycles : List Cycle)
    (ordered : (cycles.map Cycle.nowTs).Pairwise (· ≤ ·))
    (meets : ∀ taken ∈ trace runOnce .empty cycles, ∀ call ∈ taken.output, Meets taken.event call) :
    ∀ taken ∈ trace runOnce .empty cycles, ∀ call ∈ taken.output,
      ∃ after, call.outcome taken.event = .ok after := by
  have general : ∀ (cycles : List Cycle) (repository : Repository) (clock : Int),
      Sound repository clock → (∀ cycle ∈ cycles, clock ≤ cycle.nowTs) →
      (cycles.map Cycle.nowTs).Pairwise (· ≤ ·) →
      (∀ taken ∈ trace runOnce repository cycles, ∀ call ∈ taken.output, Meets taken.event call) →
      ∀ taken ∈ trace runOnce repository cycles, ∀ call ∈ taken.output,
        ∃ after, call.outcome taken.event = .ok after := by
    intro cycles
    induction cycles with
    | nil => simp [trace]
    | cons cycle rest inductionHypothesis =>
      intro repository clock sound after ordered meets
      obtain ⟨first, others⟩ := List.pairwise_cons.mp ordered
      obtain ⟨done, kept⟩ := runOnce_sound sound (after cycle List.mem_cons_self)
        (meets _ List.mem_cons_self)
      intro taken member
      rcases List.mem_cons.mp member with rfl | member
      · exact done
      · exact inductionHypothesis _ cycle.nowTs kept
          (fun next listed => first _ (List.mem_map_of_mem listed)) others
          (fun next listed => meets next (List.mem_cons_of_mem _ listed)) taken member
  have start : ∀ clock, Sound .empty clock := by
    intro clock
    refine ⟨?_, List.nodup_nil, ?_, ?_, ?_⟩
    · intro domain row found
      cases found
    · simp [Repository.empty]
    · simp [Repository.empty]
    · simp [Repository.empty]
  cases cycles with
  | nil => simp [trace]
  | cons cycle rest =>
    apply general (cycle :: rest) .empty cycle.nowTs (start _) ?_ ordered meets
    intro next listed
    rcases List.mem_cons.mp listed with rfl | listed
    · exact le_rfl
    · exact (List.pairwise_cons.mp ordered).1 _ (List.mem_map_of_mem listed)

/-- A cycle of the shadow pipeline over the delivery, with the default policies. -/
def deliveryCycle (observed : List ObservationEnvelope) (nowTs : Int) : Cycle where
  observed := observed
  policies := defaultPolicies
  incidentPolicies domain := some (DEFAULT_INCIDENT_POLICIES domain)
  epoch := none
  domains := [.delivery]
  nowTs := nowTs

/-- Two bad reports on the delivery, of which the newer one goes stale first: the episode began
with it, and the current that remains was observed before. -/
theorem stale_report_raises :
    ([deliveryCycle [watchdogReport .bad, tcpReport .bad] 1000, deliveryCycle [] 1061].map
        Cycle.nowTs).Pairwise (· ≤ ·) ∧
      ∃ taken ∈ trace runOnce .empty
          [deliveryCycle [watchdogReport .bad, tcpReport .bad] 1000, deliveryCycle [] 1061],
        ∃ call ∈ taken.output, call.outcome taken.event =
          .error (valueError "last_bad_at must not precede opened_at") := by
  decide

/-- The default policies have room for every time up to half an hour before the last. -/
theorem roomy_default (domain : Domain) {nowTs : Int} (below : nowTs + 1800 ≤ MAX_TS) :
    Roomy (DEFAULT_INCIDENT_POLICIES domain) nowTs := by
  have intervals : ∀ interval ∈ (DEFAULT_INCIDENT_POLICIES domain).intervals, interval ≤ 1800 := by
    cases domain <;> decide
  refine ⟨?_, ?_, ?_⟩
  · cases domain <;> decide
  · cases domain <;> decide
  · intro interval member
    have bound := intervals interval member
    omega

/-- A call of a delivery cycle that continues no candidate and is not behind its episode. -/
theorem meets_delivery {observed : List ObservationEnvelope} {nowTs : Int} {call : Call}
    (above : 0 ≤ nowTs) (below : nowTs ≤ 2000)
    (alone : candidateRow call.repository.incidents call.current.domain = none)
    (inOrder : ∀ episode ∈ activeRow call.repository.incidents call.current.domain,
      episode.openedAt ≤ call.current.observedAt) :
    Meets (deliveryCycle observed nowTs) call := by
  have floor : MIN_TS ≤ 0 := by decide
  have ceiling : (34400 : Int) ≤ MAX_TS := by decide
  have matched (domain : Domain) : domain = (DEFAULT_INCIDENT_POLICIES domain).domain := by
    cases domain <;> rfl
  refine ⟨floor.trans above, ?_, by simp [deliveryCycle], ?_⟩
  · dsimp only [deliveryCycle]
    omega
  · intro _
    refine ⟨_, rfl, matched _, roomy_default _ (by dsimp only [deliveryCycle]; omega), Or.inr (Or.inr ?_)⟩
    cases active : activeRow call.repository.incidents call.current.domain with
    | none =>
      rw [alone]
      rintro _ ⟨⟩
    | some episode => exact inOrder episode active

/-- The same reports, with a newer one of the watchdog before the other goes stale. -/
def renewedReport : ObservationEnvelope :=
  { watchdogReport .bad with
    observedAt := ⟨"1970-01-01T00:17:30Z", 1050000000, by decide, by decide⟩
    observationId := "obs:89abcdef0123456701234567"
    receivedTs := 1050
    ordered := by decide }

theorem orderly_currents_processed_renewed :
    ∃ taken ∈ trace runOnce .empty
        [deliveryCycle [watchdogReport .bad, tcpReport .bad] 1000, deliveryCycle [renewedReport] 1061],
      ∃ call ∈ taken.output, (activeRow call.repository.incidents .delivery).isSome = true ∧
        ∃ after, call.outcome taken.event = .ok after := by
  have continued : ∃ taken ∈ trace runOnce .empty
      [deliveryCycle [watchdogReport .bad, tcpReport .bad] 1000, deliveryCycle [renewedReport] 1061],
      ∃ call ∈ taken.output, (activeRow call.repository.incidents .delivery).isSome = true := by
    decide
  have calls : ∀ taken ∈ trace runOnce .empty
      [deliveryCycle [watchdogReport .bad, tcpReport .bad] 1000, deliveryCycle [renewedReport] 1061],
      ∀ call ∈ taken.output, candidateRow call.repository.incidents call.current.domain = none ∧
        ∀ episode ∈ activeRow call.repository.incidents call.current.domain,
          episode.openedAt ≤ call.current.observedAt := by
    decide
  obtain ⟨taken, member, call, listed, active⟩ := continued
  refine ⟨taken, member, call, listed, active, ?_⟩
  refine orderly_currents_processed _ (by decide) ?_ taken member call listed
  intro other present next called
  obtain ⟨alone, inOrder⟩ := calls other present next called
  simp only [trace, List.mem_cons, List.not_mem_nil, or_false] at present
  rcases present with rfl | rfl
  · exact meets_delivery (by decide) (by decide) alone inOrder
  · exact meets_delivery (by decide) (by decide) alone inOrder

end LiveStream.Monitoring

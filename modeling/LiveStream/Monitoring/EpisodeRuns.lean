import LiveStream.Monitoring.Episodes
import LiveStream.Monitoring.PipelineRuns

/-! Runs of the incident service: the transitions of a domain tell of one episode after the
other, each from its detection to its recovery. -/

namespace LiveStream.Monitoring

open LiveStream.Support

/-! ### Stories -/

/-- What the transitions of a domain tell: the episodes that were opened, and the one that is
not over. -/
structure Story where
  opened : List EpisodeId
  active : Option EpisodeId

/-- An episode is detected once and while no other goes on; it repeats and recovers only while
it goes on. -/
def Story.tell (story : Story) (transition : IncidentTransition) : Option Story :=
  match transition.phase, story.active with
  | .detected, none =>
    if transition.episodeId ∈ story.opened then none
    else some ⟨story.opened ++ [transition.episodeId], some transition.episodeId⟩
  | .again, some active => if transition.episodeId = active then some story else none
  | .recovered, some active =>
    if transition.episodeId = active then some { story with active := none } else none
  | _, _ => none

/-- The story of a ledger's domain, if its transitions tell one. -/
def IncidentTables.story (tables : IncidentTables) (domain : Domain) : Option Story :=
  (tables.transitions.filter fun transition => transition.domain = domain).foldlM Story.tell ⟨[], none⟩

/-! ### The ledger -/

/-- A call of the incident service. -/
structure ServiceCall where
  policies : IncidentPolicyTable
  epoch : Option DeliveryEpoch
  current : DomainCurrent
  nowTs : Int

/-- The time that `process` uses. -/
def ServiceCall.effectiveNow (call : ServiceCall) : Int := max call.nowTs call.current.reducedAt

def ServiceCall.outcome (call : ServiceCall) (repository : Repository) : Except PyError Repository :=
  process repository call.policies call.epoch call.current call.nowTs

/-- The calls in order; what one that raises changed is rolled back. -/
def serveAll (calls : List ServiceCall) : Repository :=
  calls.foldl (fun repository call => (call.outcome repository).toOption.getD repository) .empty

/-- A domain has at most one active episode. -/
def IncidentTables.Single (tables : IncidentTables) : Prop :=
  ∀ left ∈ tables.episodes, ∀ right ∈ tables.episodes,
    left.status = .active → right.status = .active → left.domain = right.domain → left = right

/-- What holds of the ledger between the calls. -/
structure Told (tables : IncidentTables) : Prop where
  keys : (tables.episodes.map IncidentEpisode.episodeId).Nodup
  single : tables.Single
  normal : ∀ row ∈ tables.episodes, row.Normal
  opened : ∀ row ∈ tables.episodes, row.episodeId.snapshotId ∈ tables.processed
  candidates : ∀ row ∈ tables.candidates, row.snapshotId ∈ tables.processed
  processed : tables.processed.Nodup
  once : (tables.transitions.map IncidentTransition.currentSnapshotId).Nodup
  reported : ∀ row ∈ tables.transitions, row.currentSnapshotId ∈ tables.processed ∧
    row.transitionId.currentSnapshotId = row.currentSnapshotId
  story : ∀ domain, ∃ story, tables.story domain = some story ∧
    story.active = (activeRow tables domain).map IncidentEpisode.episodeId ∧
    ∀ ident ∈ story.opened, ident.snapshotId ∈ tables.processed

variable {repository next : Repository} {tables after : IncidentTables} {current : DomainCurrent}
  {nowAt : Int} {evaluation : Evaluation}

theorem activeRow_iff (single : tables.Single) {domain : Domain} {row : IncidentEpisode} :
    activeRow tables domain = some row ↔
      row ∈ tables.episodes ∧ row.domain = domain ∧ row.status = .active := by
  constructor
  · exact activeRow_some
  · rintro ⟨member, named, active⟩
    cases found : activeRow tables domain with
    | none => exact absurd active (activeRow_none found row member named)
    | some other =>
      obtain ⟨listed, named', active'⟩ := activeRow_some found
      rw [single other listed row member active' active (named'.trans named.symm)]

theorem Told.activeEpisode (told : Told tables) (domain : Domain) :
    activeEpisode tables domain = .ok (activeRow tables domain) := by
  unfold Monitoring.activeEpisode
  cases found : activeRow tables domain with
  | none => rfl
  | some row =>
    dsimp only
    rw [told.normal row (activeRow_some found).1]
    rfl

/-- What is stored for a current that is evaluated. -/
structure Stored (current : DomainCurrent) (evaluation : Evaluation)
    (tables after : IncidentTables) : Prop where
  candidates : ∀ row ∈ after.candidates, row ∈ tables.candidates ∨ evaluation.candidate = some row
  pending : candidateRow after current.domain = evaluation.candidate
  episodes : after.episodes = evaluation.episode.elim tables.episodes
    (upsert IncidentEpisode.episodeId tables.episodes)
  alone : ∀ episode ∈ evaluation.episode, episode.status = .active → ∀ row ∈ tables.episodes,
    row.status = .active → row.domain = episode.domain → row.episodeId = episode.episodeId
  transitions : after.transitions = tables.transitions ++ evaluation.transition.toList
  processed : after.processed = tables.processed ++ [current.snapshotId]

theorem putCandidate_stored {currents : CurrentTables} {domain : Domain}
    {candidate : Option CandidateState} (own : ∀ fresh ∈ candidate, fresh.domain = domain)
    (put : putCandidate currents domain tables candidate = .ok after) :
    after.episodes = tables.episodes ∧ after.transitions = tables.transitions ∧
      after.processed = tables.processed ∧ candidateRow after domain = candidate ∧
      ∀ row ∈ after.candidates, row ∈ tables.candidates ∨ candidate = some row := by
  cases candidate with
  | none =>
    cases put
    refine ⟨rfl, rfl, rfl, ?_, fun row member => Or.inl (List.mem_filter.mp member).1⟩
    apply List.find?_eq_none.mpr
    intro row member
    simpa using (List.mem_filter.mp member).2
  | some fresh =>
    simp only [putCandidate, bind_eq_ok, pure_eq_ok] at put
    obtain ⟨_, _, rfl⟩ := put
    refine ⟨rfl, rfl, rfl, ?_, fun row member => ?_⟩
    · rw [← own fresh rfl]
      exact lookup_upsert_self fresh
    rcases mem_upsert.mp member with rfl | ⟨kept, _⟩
    · exact Or.inr rfl
    · exact Or.inl kept

theorem putEpisode_stored {episode : Option IncidentEpisode}
    (put : putEpisode tables episode = .ok after) :
    after.candidates = tables.candidates ∧ after.transitions = tables.transitions ∧
      after.processed = tables.processed ∧
      after.episodes = episode.elim tables.episodes
        (upsert IncidentEpisode.episodeId tables.episodes) ∧
      ∀ fresh ∈ episode, fresh.status = .active → ∀ row ∈ tables.episodes,
        row.status = .active → row.domain = fresh.domain → row.episodeId = fresh.episodeId := by
  cases episode with
  | none =>
    cases put
    exact ⟨rfl, rfl, rfl, rfl, by simp⟩
  | some fresh =>
    simp only [putEpisode, bind_eq_ok, rejectIf_eq_ok, pure_eq_ok] at put
    obtain ⟨_, alone, rfl⟩ := put
    refine ⟨rfl, rfl, rfl, rfl, fun other same active row member running named => ?_⟩
    obtain rfl := Option.some.inj same
    by_contra apart
    exact alone ⟨active, row, member, running, named, apart⟩

/-- The transition of a current that was not processed is a new one. -/
theorem putTransition_stored {currents : CurrentTables} {epoch : Option DeliveryEpoch}
    {transition : Option IncidentTransition}
    (fresh : ∀ told ∈ transition, ∀ row ∈ tables.transitions, row.transitionId ≠ told.transitionId)
    (put : putTransition currents epoch tables transition = .ok after) :
    after.candidates = tables.candidates ∧ after.episodes = tables.episodes ∧
      after.processed = tables.processed ∧
      after.transitions = tables.transitions ++ transition.toList := by
  cases transition with
  | none =>
    cases put
    exact ⟨rfl, rfl, rfl, (List.append_nil _).symm⟩
  | some told =>
    have unknown : ¬ (tables.transitions.any fun row =>
        row.transitionId = told.transitionId) = true := by
      rw [List.any_eq_true]
      rintro ⟨row, member, same⟩
      exact fresh told rfl row member (of_decide_eq_true same)
    unfold putTransition at put
    dsimp only at put
    rw [if_neg unknown] at put
    simp only [bind_eq_ok, pure_eq_ok] at put
    obtain ⟨_, _, _, _, _, _, rfl⟩ := put
    exact ⟨rfl, rfl, rfl, rfl⟩

theorem Evaluated.tells {active : Option IncidentEpisode}
    (evaluated : Evaluated current nowAt active evaluation) :
    ∀ transition ∈ evaluation.transition, ∃ phase, ∃ episode, evaluation.episode = some episode ∧
      Tells current nowAt phase episode transition := by
  intro transition present
  cases evaluated with
  | waiting => cases present
  | kept => cases present
  | detected episode other _ _ _ _ _ tells =>
    obtain rfl := Option.some.inj present
    exact ⟨_, episode, rfl, tells⟩
  | repeated _ episode other _ _ _ tells =>
    obtain rfl := Option.some.inj present
    exact ⟨_, episode, rfl, tells⟩
  | recovered _ episode other _ _ tells =>
    obtain rfl := Option.some.inj present
    exact ⟨_, episode, rfl, tells⟩

theorem Evaluated.candidate {active : Option IncidentEpisode}
    (evaluated : Evaluated current nowAt active evaluation) :
    ∀ row ∈ evaluation.candidate, row.domain = current.domain ∧ row.snapshotId = current.snapshotId := by
  intro row present
  cases evaluated with
  | waiting candidate named => exact named row present
  | detected => cases present
  | kept => cases present
  | repeated => cases present
  | recovered => cases present

theorem record_stored {currents : CurrentTables} {epoch : Option DeliveryEpoch}
    (told : Told tables) (unseen : current.snapshotId ∉ tables.processed)
    (evaluated : Evaluated current nowAt (activeRow tables current.domain) evaluation)
    (recorded : record currents epoch current tables evaluation = .ok after) :
    Stored current evaluation tables after := by
  simp only [record, bind_eq_ok, pure_eq_ok] at recorded
  obtain ⟨held, first, filed, second, sent, third, rfl⟩ := recorded
  obtain ⟨heldEpisodes, heldTransitions, heldProcessed, pending, heldCandidates⟩ :=
    putCandidate_stored (fun fresh present => (evaluated.candidate fresh present).1) first
  obtain ⟨filedCandidates, filedTransitions, filedProcessed, filedEpisodes, alone⟩ :=
    putEpisode_stored second
  have fresh : ∀ transition ∈ evaluation.transition, ∀ row ∈ filed.transitions,
      row.transitionId ≠ transition.transitionId := by
    intro transition present row member same
    obtain ⟨_, _, _, tells⟩ := evaluated.tells transition present
    rw [filedTransitions, heldTransitions] at member
    obtain ⟨seen, ident⟩ := told.reported row member
    rw [← ident, same, tells.ident] at seen
    exact unseen seen
  obtain ⟨sentCandidates, sentEpisodes, sentProcessed, sentTransitions⟩ :=
    putTransition_stored fresh third
  rw [heldEpisodes] at filedEpisodes alone
  have kept : sent.candidates = held.candidates := sentCandidates.trans filedCandidates
  refine ⟨fun row member => heldCandidates row (kept ▸ member), ?_,
    sentEpisodes.trans filedEpisodes, alone, ?_, ?_⟩
  · dsimp only [candidateRow, markProcessed]
    rw [kept]
    exact pending
  · dsimp only [markProcessed]
    rw [sentTransitions, filedTransitions, heldTransitions]
  · rw [markProcessed, sentProcessed, filedProcessed, heldProcessed]

/-- A call that returns found its current processed, or evaluated it and stored what came out. -/
theorem process_cases {policies : IncidentPolicyTable} {epoch : Option DeliveryEpoch} {nowTs : Int}
    (told : Told repository.incidents)
    (done : process repository policies epoch current nowTs = .ok next) :
    current.snapshotId ∈ repository.incidents.processed ∧ next = repository ∨
      current.snapshotId ∉ repository.incidents.processed ∧ ∃ evaluation,
        Evaluated current (max nowTs current.reducedAt)
          (activeRow repository.incidents current.domain) evaluation ∧
        Stored current evaluation repository.incidents next.incidents := by
  unfold process at done
  simp only [bind_eq_ok, utcText_eq_ok] at done
  obtain ⟨nowAt, ⟨rfl, _, _⟩, done⟩ := done
  split at done
  · rename_i seen
    cases done
    exact Or.inl ⟨seen, rfl⟩
  · rename_i unseen
    simp only [told.activeEpisode, bind_eq_ok, orReject_eq_ok, Except.ok.injEq, pure_eq_ok] at done
    obtain ⟨episode, rfl, policy, _, evaluation, evaluated, incidents, recorded, rfl⟩ := done
    have outcome := evaluateCurrent_evaluated
      (fun active found => told.normal active (activeRow_some found).1)
      (fun candidate found => (lookup_some found).2) evaluated
    exact Or.inr ⟨unseen, evaluation, outcome, record_stored told unseen outcome recorded⟩

/-! ### One step of the ledger -/

/-- The episode of an evaluation: accepted, of the domain, under a name already processed or that
of the current. -/
theorem Evaluated.episode {active : Option IncidentEpisode}
    (known : ∀ row ∈ active, row.domain = current.domain ∧ row.episodeId.snapshotId ∈ tables.processed)
    (evaluated : Evaluated current nowAt active evaluation) :
    ∀ episode ∈ evaluation.episode, episode.Normal ∧ episode.domain = current.domain ∧
      episode.episodeId.snapshotId ∈ tables.processed ++ [current.snapshotId] := by
  have from_active {row episode : IncidentEpisode} (found : active = some row)
      (continues : Continues row episode) : episode.Normal ∧ episode.domain = current.domain ∧
        episode.episodeId.snapshotId ∈ tables.processed ++ [current.snapshotId] := by
    obtain ⟨domain, processed⟩ := known row found
    refine ⟨continues.normal, continues.domain.trans domain, ?_⟩
    rw [continues.ident]
    exact List.mem_append_left _ processed
  intro episode present
  cases evaluated with
  | waiting => cases present
  | detected other _ _ domain fresh normal =>
    obtain rfl := Option.some.inj present
    exact ⟨normal, domain, by simp [fresh]⟩
  | kept _ other _ continues =>
    obtain rfl := Option.some.inj present
    exact from_active rfl continues
  | repeated _ other _ _ continues =>
    obtain rfl := Option.some.inj present
    exact from_active rfl continues
  | recovered _ other _ _ continues =>
    obtain rfl := Option.some.inj present
    exact from_active rfl continues

/-- A row under the name of the evaluated episode is the active one. -/
theorem Evaluated.replaced (told : Told tables) (unseen : current.snapshotId ∉ tables.processed)
    (evaluated : Evaluated current nowAt (activeRow tables current.domain) evaluation) :
    ∀ episode ∈ evaluation.episode, ∀ row ∈ tables.episodes, row.episodeId = episode.episodeId →
      activeRow tables current.domain = some row := by
  generalize found : activeRow tables current.domain = active at evaluated
  have from_active {former episode row : IncidentEpisode} (same : active = some former)
      (continues : Continues former episode) (member : row ∈ tables.episodes)
      (named : row.episodeId = episode.episodeId) : active = some row := by
    have listed := (activeRow_some (found.trans same)).1
    rw [eq_of_key told.keys member listed (named.trans continues.ident), same]
  intro episode present row member named
  cases evaluated with
  | waiting => cases present
  | detected other _ _ _ fresh =>
    obtain rfl := Option.some.inj present
    have processed := told.opened row member
    rw [named, fresh] at processed
    exact absurd processed unseen
  | kept _ other _ continues =>
    obtain rfl := Option.some.inj present
    exact from_active rfl continues member named
  | repeated _ other _ _ continues =>
    obtain rfl := Option.some.inj present
    exact from_active rfl continues member named
  | recovered _ other _ _ continues =>
    obtain rfl := Option.some.inj present
    exact from_active rfl continues member named

theorem Stored.mem_episodes (stored : Stored current evaluation tables after) {row : IncidentEpisode} :
    row ∈ after.episodes ↔ evaluation.episode = some row ∨
      (row ∈ tables.episodes ∧ ∀ episode ∈ evaluation.episode, row.episodeId ≠ episode.episodeId) := by
  rw [stored.episodes]
  cases evaluation.episode with
  | none => simp
  | some episode =>
    rw [Option.elim_some, mem_upsert]
    simp [eq_comm]

theorem Stored.single (told : Told tables) (stored : Stored current evaluation tables after) :
    after.Single := by
  have alone {left right : IncidentEpisode} (fresh : evaluation.episode = some left)
      (member : right ∈ tables.episodes)
      (apart : ∀ episode ∈ evaluation.episode, right.episodeId ≠ episode.episodeId)
      (active : left.status = .active) (active' : right.status = .active)
      (named : right.domain = left.domain) : False :=
    apart left fresh (stored.alone left fresh active right member active' named)
  intro left leftMember right rightMember active active' named
  rcases stored.mem_episodes.mp leftMember with fresh | ⟨member, apart⟩
  · rcases stored.mem_episodes.mp rightMember with fresh' | ⟨member', apart'⟩
    · exact Option.some.inj (fresh.symm.trans fresh')
    · exact (alone fresh member' apart' active active' named.symm).elim
  · rcases stored.mem_episodes.mp rightMember with fresh' | ⟨member', _⟩
    · exact (alone fresh' member apart active' active named).elim
    · exact told.single left member right member' active active' named

/-- Only the domain of the current has another active row afterwards: the evaluated episode,
unless that is over. -/
theorem activeRow_stored (told : Told tables) (unseen : current.snapshotId ∉ tables.processed)
    (evaluated : Evaluated current nowAt (activeRow tables current.domain) evaluation)
    (stored : Stored current evaluation tables after) (domain : Domain) :
    activeRow after domain =
      if domain = current.domain then
        evaluation.episode.elim (activeRow tables domain) fun episode =>
          if episode.status = .active then some episode else none
      else activeRow tables domain := by
  have known : ∀ row ∈ activeRow tables current.domain,
      row.domain = current.domain ∧ row.episodeId.snapshotId ∈ tables.processed := by
    intro row found
    obtain ⟨member, named, _⟩ := activeRow_some found
    exact ⟨named, told.opened row member⟩
  have fresh := evaluated.episode known
  have replaced := evaluated.replaced told unseen
  apply Option.ext
  intro row
  rw [activeRow_iff (stored.single told), stored.mem_episodes]
  by_cases own : domain = current.domain
  · subst own
    rw [if_pos rfl]
    cases written : evaluation.episode with
    | none => simp [activeRow_iff told.single]
    | some episode =>
      rw [Option.elim_some]
      constructor
      · rintro ⟨same | ⟨member, apart⟩, named, active⟩
        · obtain rfl := Option.some.inj same
          rw [if_pos active]
        · exfalso
          have found := (activeRow_iff told.single).mpr ⟨member, named, active⟩
          rw [found] at evaluated
          cases evaluated with
          | kept _ other _ continues =>
            obtain rfl := Option.some.inj written
            exact apart _ rfl continues.ident.symm
          | repeated _ other _ _ continues =>
            obtain rfl := Option.some.inj written
            exact apart _ rfl continues.ident.symm
          | recovered _ other _ _ continues =>
            obtain rfl := Option.some.inj written
            exact apart _ rfl continues.ident.symm
      · intro same
        split at same
        · rename_i active
          obtain rfl := Option.some.inj same
          exact ⟨Or.inl rfl, (fresh _ written).2.1, active⟩
        · cases same
  · rw [if_neg own, activeRow_iff told.single]
    constructor
    · rintro ⟨same | ⟨member, _⟩, named, active⟩
      · exact absurd (named.symm.trans (fresh row same).2.1) own
      · exact ⟨member, named, active⟩
    · rintro ⟨member, named, active⟩
      refine ⟨Or.inr ⟨member, fun episode written same => ?_⟩, named, active⟩
      have found := replaced episode written row member same
      exact own (named.symm.trans (activeRow_some found).2.1)

theorem story_of_other (evaluated : Evaluated current nowAt (activeRow tables current.domain) evaluation)
    (stored : Stored current evaluation tables after) {domain : Domain} (other : domain ≠ current.domain) :
    after.story domain = tables.story domain := by
  unfold IncidentTables.story
  rw [stored.transitions, List.filter_append]
  cases told : evaluation.transition with
  | none => simp
  | some transition =>
    obtain ⟨_, _, _, tells⟩ := evaluated.tells transition told
    simp [tells.domain, other.symm]

theorem story_of_own {transition : IncidentTransition} (told : evaluation.transition = some transition)
    (named : transition.domain = current.domain) (stored : Stored current evaluation tables after) :
    after.story current.domain =
      (tables.story current.domain).bind fun story => story.tell transition := by
  unfold IncidentTables.story
  rw [stored.transitions, told, List.filter_append, Option.toList_some,
    List.filter_singleton, decide_eq_true named]
  simp [List.foldlM_append]

theorem story_untold (untold : evaluation.transition = none) (stored : Stored current evaluation tables after)
    (domain : Domain) : after.story domain = tables.story domain := by
  unfold IncidentTables.story
  rw [stored.transitions, untold, Option.toList_none, List.append_nil]

/-- The story of the current's domain goes on as the automaton has it. -/
theorem story_stored (told : Told tables) (unseen : current.snapshotId ∉ tables.processed)
    (evaluated : Evaluated current nowAt (activeRow tables current.domain) evaluation)
    (stored : Stored current evaluation tables after) :
    ∃ story, after.story current.domain = some story ∧
      story.active = (activeRow after current.domain).map IncidentEpisode.episodeId ∧
      ∀ ident ∈ story.opened, ident.snapshotId ∈ tables.processed ++ [current.snapshotId] := by
  obtain ⟨story, before, active, opened⟩ := told.story current.domain
  have opened' : ∀ ident ∈ story.opened, ident.snapshotId ∈ tables.processed ++ [current.snapshotId] :=
    fun ident member => List.mem_append_left _ (opened ident member)
  have row := activeRow_stored told unseen evaluated stored current.domain
  rw [if_pos rfl] at row
  rw [row]
  cases found : activeRow tables current.domain with
  | none =>
    rw [found] at evaluated active
    cases evaluated with
    | waiting =>
      rw [story_untold rfl stored, before]
      exact ⟨story, rfl, active, opened'⟩
    | detected episode transition status _ fresh _ _ tells =>
      rw [story_of_own rfl tells.domain stored, before, Option.bind_some]
      have unopened : transition.episodeId ∉ story.opened := by
        intro member
        have processed := opened _ member
        rw [tells.episode, fresh] at processed
        exact unseen processed
      refine ⟨⟨story.opened ++ [transition.episodeId], some transition.episodeId⟩, ?_, ?_, ?_⟩
      · simp only [Story.tell, tells.phase, active, Option.map_none]
        rw [if_neg unopened]
      · simp [status, tells.episode]
      · intro ident member
        rcases List.mem_append.mp member with former | own
        · exact opened' ident former
        · rw [List.mem_singleton.mp own, tells.episode, fresh]
          simp
  | some running =>
    have status := (activeRow_some found).2.2
    rw [found] at evaluated active
    cases evaluated with
    | kept _ episode same continues =>
      rw [story_untold rfl stored, before]
      refine ⟨story, rfl, ?_, opened'⟩
      rw [active, Option.elim_some, if_pos (same.trans status)]
      simp [continues.ident]
    | repeated _ episode transition same continues _ tells =>
      rw [story_of_own rfl tells.domain stored, before, Option.bind_some]
      refine ⟨story, ?_, ?_, opened'⟩
      · simp only [Story.tell, tells.phase, active, Option.map_some]
        rw [if_pos (tells.episode.trans continues.ident)]
      · rw [active, Option.elim_some, if_pos (same.trans status)]
        simp [continues.ident]
    | recovered _ episode transition closed continues tells =>
      rw [story_of_own rfl tells.domain stored, before, Option.bind_some]
      refine ⟨{ story with active := none }, ?_, ?_, opened'⟩
      · simp only [Story.tell, tells.phase, active, Option.map_some]
        rw [if_pos (tells.episode.trans continues.ident)]
      · rw [Option.elim_some, if_neg (by rw [closed]; decide)]
        rfl

theorem Told.step (told : Told tables) (unseen : current.snapshotId ∉ tables.processed)
    (evaluated : Evaluated current nowAt (activeRow tables current.domain) evaluation)
    (stored : Stored current evaluation tables after) : Told after := by
  have known : ∀ row ∈ activeRow tables current.domain,
      row.domain = current.domain ∧ row.episodeId.snapshotId ∈ tables.processed := by
    intro row found
    obtain ⟨member, named, _⟩ := activeRow_some found
    exact ⟨named, told.opened row member⟩
  have fresh := evaluated.episode known
  refine ⟨?_, stored.single told, ?_, ?_, ?_, ?_, ?_, ?_, ?_⟩
  · rw [stored.episodes]
    cases evaluation.episode with
    | none => exact told.keys
    | some episode => exact nodup_upsert told.keys episode
  · intro row member
    rcases stored.mem_episodes.mp member with new | ⟨kept, _⟩
    · exact (fresh row new).1
    · exact told.normal row kept
  · intro row member
    rw [stored.processed]
    rcases stored.mem_episodes.mp member with new | ⟨kept, _⟩
    · exact (fresh row new).2.2
    · exact List.mem_append_left _ (told.opened row kept)
  · intro row member
    rw [stored.processed]
    rcases stored.candidates row member with kept | new
    · exact List.mem_append_left _ (told.candidates row kept)
    · rw [(evaluated.candidate row new).2]
      simp
  · rw [stored.processed, List.nodup_append]
    refine ⟨told.processed, List.nodup_singleton _, ?_⟩
    rintro ident member other own rfl
    exact unseen (List.mem_singleton.mp own ▸ member)
  · rw [stored.transitions]
    cases tell : evaluation.transition with
    | none =>
      rw [Option.toList_none, List.append_nil]
      exact told.once
    | some transition =>
      obtain ⟨_, _, _, tells⟩ := evaluated.tells transition tell
      rw [Option.toList_some]
      apply nodup_map_append told.once
      intro row member same
      exact unseen (tells.snapshot ▸ same ▸ (told.reported row member).1)
  · intro row member
    rw [stored.transitions] at member
    rw [stored.processed]
    rcases List.mem_append.mp member with kept | new
    · exact ⟨List.mem_append_left _ (told.reported row kept).1, (told.reported row kept).2⟩
    · obtain ⟨_, _, _, tells⟩ := evaluated.tells row (Option.mem_toList.mp new)
      exact ⟨by simp [tells.snapshot], tells.ident.trans tells.snapshot.symm⟩
  · intro domain
    rw [stored.processed]
    by_cases own : domain = current.domain
    · subst own
      exact story_stored told unseen evaluated stored
    · obtain ⟨story, before, active, opened⟩ := told.story domain
      refine ⟨story, ?_, ?_, fun ident member => List.mem_append_left _ (opened ident member)⟩
      · rw [story_of_other evaluated stored own, before]
      · rw [activeRow_stored told unseen evaluated stored, if_neg own, active]

/-! ### Runs -/

theorem told_empty : Told Repository.empty.incidents := by
  constructor <;> simp [Repository.empty, IncidentTables.Single, IncidentTables.story, activeRow]

theorem Told.outcome {call : ServiceCall} (told : Told repository.incidents)
    (done : call.outcome repository = .ok next) : Told next.incidents := by
  rcases process_cases told done with ⟨_, rfl⟩ | ⟨unseen, _, evaluated, stored⟩
  · exact told
  · exact told.step unseen evaluated stored

theorem serveAll_told (calls : List ServiceCall) : Told (serveAll calls).incidents := by
  unfold serveAll
  induction calls using List.reverseRecOn with
  | nil => exact told_empty
  | append_singleton calls call ih =>
    rw [List.foldl_append, List.foldl_cons, List.foldl_nil]
    cases done : call.outcome (calls.foldl
      (fun repository call => (call.outcome repository).toOption.getD repository) .empty) with
    | error _ => exact ih
    | ok next => exact ih.outcome done

/-- What one more call does to the episodes: a new transition is of a current that was not
processed, and leaves its episode due later or over; no active episode becomes less severe. -/
structure AfterCall (call : ServiceCall) (tables after : IncidentTables) : Prop where
  transitions : ∃ told : Option IncidentTransition,
    after.transitions = tables.transitions ++ told.toList ∧
    ∀ transition ∈ told, call.current.snapshotId ∉ tables.processed ∧
      (transition.phase = .recovered ∨ ∃ row ∈ after.episodes, row.status = .active ∧
        row.episodeId = transition.episodeId ∧ row.DueAfter call.effectiveNow)
  severity : ∀ row ∈ tables.episodes, row.status = .active → ∃ later ∈ after.episodes,
    later.episodeId = row.episodeId ∧ row.severity.rank ≤ later.severity.rank

theorem afterCall {call : ServiceCall} (told : Told repository.incidents)
    (done : call.outcome repository = .ok next) :
    AfterCall call repository.incidents next.incidents := by
  rcases process_cases told done with ⟨_, rfl⟩ | ⟨unseen, evaluation, evaluated, stored⟩
  · exact ⟨⟨none, by simp, by simp⟩, fun row member _ => ⟨row, member, rfl, le_rfl⟩⟩
  · have replaced := evaluated.replaced told unseen
    generalize found : activeRow repository.incidents call.current.domain = active at evaluated replaced
    constructor
    · refine ⟨evaluation.transition, stored.transitions, fun transition present => ⟨unseen, ?_⟩⟩
      cases evaluated with
      | waiting => cases present
      | kept => cases present
      | detected episode _ status _ _ _ due tells =>
        obtain rfl := Option.some.inj present
        exact Or.inr ⟨episode, stored.mem_episodes.mpr (Or.inl rfl), status, tells.episode.symm, due⟩
      | repeated _ episode _ status _ due tells =>
        obtain rfl := Option.some.inj present
        exact Or.inr ⟨episode, stored.mem_episodes.mpr (Or.inl rfl),
          status.trans (activeRow_some found).2.2, tells.episode.symm, due⟩
      | recovered _ _ _ _ _ tells =>
        obtain rfl := Option.some.inj present
        exact Or.inl tells.phase
    · intro row member _
      by_cases same : ∃ episode ∈ evaluation.episode, row.episodeId = episode.episodeId
      · obtain ⟨episode, written, named⟩ := same
        have here := replaced episode written row member named
        refine ⟨episode, stored.mem_episodes.mpr (Or.inl written), named.symm, ?_⟩
        cases evaluated with
        | waiting => cases written
        | detected => cases here
        | kept _ _ _ continues =>
          obtain rfl := Option.some.inj written
          obtain rfl := Option.some.inj here
          exact continues.severity
        | repeated _ _ _ _ continues =>
          obtain rfl := Option.some.inj written
          obtain rfl := Option.some.inj here
          exact continues.severity
        | recovered _ _ _ _ continues =>
          obtain rfl := Option.some.inj written
          obtain rfl := Option.some.inj here
          exact continues.severity
      · refine ⟨row, stored.mem_episodes.mpr (Or.inr ⟨member, fun episode written named => ?_⟩),
          rfl, le_rfl⟩
        exact same ⟨episode, written, named⟩

/-- What the ledger of a service tells, and what a call may add to it. -/
structure WellFormed (repository : Repository) : Prop where
  single : repository.incidents.Single
  story : ∀ domain, ∃ story, repository.incidents.story domain = some story ∧
    story.active = (activeRow repository.incidents domain).map IncidentEpisode.episodeId
  processed : repository.incidents.processed.Nodup
  once : (repository.incidents.transitions.map IncidentTransition.currentSnapshotId).Nodup
  calls : ∀ call next, ServiceCall.outcome call repository = .ok next →
    AfterCall call repository.incidents next.incidents

/-- Whatever calls of the incident service came before, the transitions of every domain tell of
one episode after the other, of which the stored active one is the last. -/
theorem episodes_well_formed (calls : List ServiceCall) : WellFormed (serveAll calls) := by
  have told := serveAll_told calls
  refine ⟨told.single, fun domain => ?_, told.processed, told.once, fun call next done => ?_⟩
  · obtain ⟨story, tells, active, _⟩ := told.story domain
    exact ⟨story, tells, active⟩
  · exact afterCall told done

end LiveStream.Monitoring

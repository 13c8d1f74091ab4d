import LiveStream.Monitoring.Incidents
import LiveStream.Support.Run

/-! The incident ledger and the pipeline: each current that a reducer returns is processed
once, in a transaction. -/

namespace LiveStream.Monitoring

open LiveStream.Support

/-- The tables of the incident ledger. -/
structure IncidentTables where
  candidates : List CandidateState
  episodes : List IncidentEpisode
  transitions : List IncidentTransition
  processed : List SnapshotId
  deriving DecidableEq

structure Repository where
  currents : CurrentTables
  incidents : IncidentTables
  deriving DecidableEq

def Repository.empty : Repository := ⟨.empty, ⟨[], [], [], []⟩⟩

/-- The row of a domain's active episode. -/
def activeRow (tables : IncidentTables) (domain : Domain) : Option IncidentEpisode :=
  tables.episodes.find? fun row => row.domain = domain ∧ row.status = .active

/-- `active_episode`: the row, read through the contract. -/
def activeEpisode (tables : IncidentTables) (domain : Domain) :
    Except PyError (Option IncidentEpisode) :=
  match activeRow tables domain with
  | none => .ok none
  | some row => some <$> row.checked

def candidateRow (tables : IncidentTables) (domain : Domain) : Option CandidateState :=
  lookup CandidateState.domain tables.candidates domain

/-- `delete_candidate`, or `save_candidate` under its trigger. -/
def putCandidate (currents : CurrentTables) (domain : Domain) (tables : IncidentTables) :
    Option CandidateState → Except PyError IncidentTables
  | none => .ok { tables with
      candidates := tables.candidates.filter fun row => row.domain ≠ domain }
  | some candidate => do
    snapshotGuard currents candidate.snapshotId candidate.domain
      "incident_candidate snapshot reference mismatch"
    return { tables with candidates := upsert CandidateState.domain tables.candidates candidate }

/-- `save_episode`; a domain has at most one active row. -/
def putEpisode (tables : IncidentTables) : Option IncidentEpisode → Except PyError IncidentTables
  | none => .ok tables
  | some episode => do
    rejectIf (episode.status = .active ∧ ∃ row ∈ tables.episodes,
        row.status = .active ∧ row.domain = episode.domain ∧ row.episodeId ≠ episode.episodeId)
      (integrityError "UNIQUE constraint failed: incident_episodes.domain")
    return { tables with episodes := upsert IncidentEpisode.episodeId tables.episodes episode }

/-- The row of `notification_delivery_epochs` that a service was given, if any. -/
structure DeliveryEpoch where
  active : Bool
  cutoverTs : Int

/-- `build_notification_intents` and `append_intent`, as far as they can raise: the time is
rendered in Japan, nine hours ahead, and an epoch that was given must be active by then. The
rendered texts are always within the lengths of their contract. -/
def appendIntents (epoch : Option DeliveryEpoch) (createdAt : Int) : Except PyError Unit := do
  rejectIf (MAX_TS < createdAt + 32400) (overflowError "date value out of range")
  rejectIf (∃ given ∈ epoch, ¬ given.active) (valueError "notification delivery epoch is not active")
  rejectIf (∃ given ∈ epoch, createdAt < given.cutoverTs)
    (valueError "pre-cutover notification intent cannot become deliverable")

/-- `append_transition`: `INSERT OR IGNORE` under the id, and the intents of a new row. -/
def putTransition (currents : CurrentTables) (epoch : Option DeliveryEpoch) (tables : IncidentTables) :
    Option IncidentTransition → Except PyError IncidentTables
  | none => .ok tables
  | some transition =>
    if tables.transitions.any fun row => row.transitionId = transition.transitionId then .ok tables
    else do
      rejectIf (∀ row ∈ tables.episodes, row.episodeId ≠ transition.episodeId)
        (integrityError "FOREIGN KEY constraint failed")
      snapshotGuard currents transition.currentSnapshotId transition.domain
        "incident_transition snapshot reference mismatch"
      appendIntents epoch transition.occurredAt
      return { tables with transitions := tables.transitions ++ [transition] }

def markProcessed (tables : IncidentTables) (ident : SnapshotId) : IncidentTables :=
  { tables with processed := tables.processed ++ [ident] }

/-- The incident policies of a service. -/
abbrev IncidentPolicyTable := Domain → Option IncidentPolicy

/-- The writes of `process` for an evaluation. -/
def record (currents : CurrentTables) (epoch : Option DeliveryEpoch) (current : DomainCurrent)
    (tables : IncidentTables) (evaluation : Evaluation) : Except PyError IncidentTables := do
  let tables ← putCandidate currents current.domain tables evaluation.candidate
  let tables ← putEpisode tables evaluation.episode
  let tables ← putTransition currents epoch tables evaluation.transition
  return markProcessed tables current.snapshotId

/-- `IncidentService.process`. -/
def process (repository : Repository) (policies : IncidentPolicyTable) (epoch : Option DeliveryEpoch)
    (current : DomainCurrent) (nowTs : Int) : Except PyError Repository := do
  let nowAt ← utcText (max nowTs current.reducedAt)
  if current.snapshotId ∈ repository.incidents.processed then return repository
  else
    let currents := appendCurrentSnapshot repository.currents current
    let episode ← activeEpisode repository.incidents current.domain
    let policy ← orReject (keyError "domain") (policies current.domain)
    let evaluation ← evaluateCurrent current policy nowAt episode
      (candidateRow repository.incidents current.domain)
    let incidents ← record currents epoch current repository.incidents evaluation
    return ⟨currents, incidents⟩

/-- A cycle of the pipeline: what the observer brings, and what the services are given. -/
structure Cycle where
  observed : List ObservationEnvelope
  policies : PolicyTable
  incidentPolicies : IncidentPolicyTable
  epoch : Option DeliveryEpoch
  domains : List Domain
  nowTs : Int

/-- A call of `process` in a cycle, with the repository it finds. -/
structure Call where
  repository : Repository
  current : DomainCurrent

def Call.outcome (call : Call) (cycle : Cycle) : Except PyError Repository :=
  process call.repository cycle.incidentPolicies cycle.epoch call.current cycle.nowTs

/-- The calls for the returned currents, in order; the first that raises ends the cycle. -/
def processAll (cycle : Cycle) (repository : Repository) : List DomainCurrent → Repository × List Call
  | [] => (repository, [])
  | current :: rest =>
    let call : Call := ⟨repository, current⟩
    match call.outcome cycle with
    | .ok after =>
      let (final, calls) := processAll cycle after rest
      (final, call :: calls)
    | .error _ => (repository, [call])

/-- The observer's part of a cycle. -/
def observe (repository : Repository) (cycle : Cycle) : Repository :=
  { repository with currents := cycle.observed.foldl appendObservation repository.currents }

/-- `ShadowPipeline.run_once`: what is stored, and the calls of `process`. -/
def runOnce (repository : Repository) (cycle : Cycle) : Repository × List Call :=
  let observed := observe repository cycle
  match reduce observed.currents cycle.policies cycle.domains cycle.nowTs with
  | .error _ => (observed, [])
  | .ok (currents, canonical) => processAll cycle { observed with currents } canonical

end LiveStream.Monitoring

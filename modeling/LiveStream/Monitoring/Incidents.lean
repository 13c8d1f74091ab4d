import LiveStream.Monitoring.CurrentStore

/-! Incidents: how each new current opens, repeats or closes the episode of its domain. -/

namespace LiveStream.Monitoring

open LiveStream.Support

/-- `SEVERITIES`. -/
inductive Severity where
  | info | warning | critical
  deriving DecidableEq

/-- `SEVERITY_RANK`. -/
def Severity.rank : Severity → Nat
  | .info => 0
  | .warning => 1
  | .critical => 2

/-- `EPISODE_STATUSES`. -/
inductive EpisodeStatus where
  | active | closed
  deriving DecidableEq

/-- `TRANSITION_PHASES`; `again` is `repeat`. -/
inductive Phase where
  | detected | again | recovered
  deriving DecidableEq

def INCIDENT_POLICY_REVISION : String := "monitoring-v4-incident-policy-r5.1"

/-- `IncidentPolicy`, with what its constructor checks. -/
structure IncidentPolicy where
  domain : Domain
  summary : String
  revision : String := INCIDENT_POLICY_REVISION
  badSeverity : Severity := .warning
  unknownSeverity : Severity := .warning
  badMinSamples : Nat := 1
  badMinDurationSec : Nat := 0
  unknownMinSamples : Nat := 2
  unknownMinDurationSec : Nat := 300
  repeatSec : Nat := 600
  badRepeatSec : Option Nat := none
  unknownRepeatSec : Option Nat := none
  reasonRepeatSec : List (String × Nat) := []
  actionableUnknownReasonCodes : Option (List String) := none
  suppressDuringMaintenance : Bool := true
  revised : revision ≠ "" := by decide
  sampled : 1 ≤ badMinSamples ∧ 1 ≤ unknownMinSamples := by decide
  repeated : 60 ≤ repeatSec := by decide
  badRepeated : ∀ seconds ∈ badRepeatSec, 60 ≤ seconds := by decide
  unknownRepeated : ∀ seconds ∈ unknownRepeatSec, 60 ≤ seconds := by decide
  reasonRepeated : ∀ entry ∈ reasonRepeatSec, 60 ≤ entry.2 := by decide

namespace IncidentPolicy

variable (policy : IncidentPolicy)

/-- `threshold`: samples, duration and severity. -/
def threshold : CurrentState → Except PyError (Nat × Nat × Severity)
  | .bad => .ok (policy.badMinSamples, policy.badMinDurationSec, policy.badSeverity)
  | .unknown => .ok (policy.unknownMinSamples, policy.unknownMinDurationSec, policy.unknownSeverity)
  | .good => .error (valueError "no incident threshold for state='good'")

/-- The interval of a state, which may have one of its own. -/
def stateRepeatSec : CurrentState → Option Nat
  | .bad => policy.badRepeatSec
  | .unknown => policy.unknownRepeatSec
  | .good => none

/-- `repeat_interval`; of two entries for a reason the last one counts. -/
def repeatInterval (state : CurrentState) (reasonCodes : List ReasonCode) : Nat :=
  let matching := reasonCodes.filterMap fun reason => policy.reasonRepeatSec.reverse.lookup reason.text
  match matching.max? with
  | some longest => longest
  | none => (policy.stateRepeatSec state).getD policy.repeatSec

/-- The intervals that a policy may repeat with. -/
def intervals : List Nat :=
  policy.repeatSec :: (policy.badRepeatSec.toList ++ policy.unknownRepeatSec.toList ++
    policy.reasonRepeatSec.map Prod.snd)

/-- `is_actionable`. -/
def isActionable (state : CurrentState) (reasonCodes : List ReasonCode) : Bool :=
  match state with
  | .bad => true
  | .good => false
  | .unknown =>
    match policy.actionableUnknownReasonCodes with
    | none => true
    | some allowed => reasonCodes.any fun reason => allowed.contains reason.text

/-- The interval of a repetition is one of the policy's. -/
theorem repeatInterval_mem (state : CurrentState) (reasons : List ReasonCode) :
    policy.repeatInterval state reasons ∈ policy.intervals := by
  unfold repeatInterval intervals
  dsimp only
  cases longest : (reasons.filterMap fun reason =>
      policy.reasonRepeatSec.reverse.lookup reason.text).max? with
  | some seconds =>
    obtain ⟨member, _⟩ := List.max?_eq_some_iff.mp longest
    obtain ⟨reason, _, found⟩ := List.mem_filterMap.mp member
    obtain ⟨before, after, split, _⟩ := List.lookup_eq_some_iff.mp found
    have listed : (reason.text, seconds) ∈ policy.reasonRepeatSec := by
      rw [← List.mem_reverse, split]
      simp
    have named := List.mem_map_of_mem listed (f := Prod.snd)
    simp only [List.mem_cons, List.mem_append]
    exact Or.inr (Or.inr named)
  | none =>
    dsimp only
    cases own : policy.stateRepeatSec state with
    | none => exact List.mem_cons_self
    | some seconds =>
      rw [Option.getD_some]
      simp only [List.mem_cons, List.mem_append, Option.mem_toList]
      cases state with
      | good => cases own
      | bad => exact Or.inr (Or.inl (Or.inl own))
      | unknown => exact Or.inr (Or.inl (Or.inr own))

/-- No policy repeats sooner than after a minute. -/
theorem sixty_le_repeatInterval (state : CurrentState) (reasons : List ReasonCode) :
    60 ≤ policy.repeatInterval state reasons := by
  have listed := policy.repeatInterval_mem state reasons
  simp only [intervals, List.mem_cons, List.mem_append, Option.mem_toList] at listed
  rcases listed with same | (bad | unknown) | reason
  · rw [same]
    exact policy.repeated
  · exact policy.badRepeated _ bad
  · exact policy.unknownRepeated _ unknown
  · obtain ⟨entry, member, same⟩ := List.mem_map.mp reason
    rw [← same]
    exact policy.reasonRepeated entry member

end IncidentPolicy

/-- `DEFAULT_INCIDENT_POLICIES`. -/
def DEFAULT_INCIDENT_POLICIES : Domain → IncidentPolicy
  | .youtubeLifecycle => {
      domain := .youtubeLifecycle
      summary := "YouTube lifecycle current state is outside the accepted contract"
      reasonRepeatSec := [("source_disagreement", 1800)] }
  | .youtubeInputQuality => {
      domain := .youtubeInputQuality
      summary := "YouTube current input quality warning is active"
      actionableUnknownReasonCodes :=
        some ["measurement_coverage_missing", "measurement_freshness_stale"] }
  | .delivery => {
      domain := .delivery
      summary := "stream delivery current state is degraded"
      badSeverity := .critical
      reasonRepeatSec := [("source_disagreement", 1800)] }
  | .rendering => {
      domain := .rendering
      summary := "rendering current state is degraded" }
  | .audio => {
      domain := .audio
      summary := "audio current state is degraded" }
  | .viewerExternal => {
      domain := .viewerExternal
      summary := "supporting viewer or external evidence is degraded"
      repeatSec := 900
      badRepeatSec := some 300
      unknownRepeatSec := some 900 }
  | .monitoringPlatform => {
      domain := .monitoringPlatform
      summary := "Monitoring v4 self-health is degraded" }
  | .networkTransport => {
      domain := .networkTransport
      summary := "network and RTMPS reachability evidence is degraded"
      badSeverity := .critical
      badMinSamples := 2
      badMinDurationSec := 180 }
  | .runtimeResource => {
      domain := .runtimeResource
      summary := "runtime resource guardrail is degraded"
      badMinSamples := 2
      badMinDurationSec := 300 }
  | .adsbSource => {
      domain := .adsbSource
      summary := "ADS-B source freshness is degraded"
      badMinSamples := 2
      badMinDurationSec := 180 }
  | .apiQuota => {
      domain := .apiQuota
      summary := "YouTube API quota or coverage evidence is degraded"
      badMinSamples := 2
      badMinDurationSec := 300 }
  | .recoveryPolicy => {
      domain := .recoveryPolicy
      summary := "a non-noop recovery action is pending"
      badMinSamples := 2
      badMinDurationSec := 300 }
  | .notificationDelivery => {
      domain := .notificationDelivery
      summary := "notification delivery outbox is pending or malformed"
      badMinSamples := 2
      badMinDurationSec := 300 }
  | .controlLoop => {
      domain := .controlLoop
      summary := "the V3 control-loop task matrix is incomplete, stale, or failed"
      badMinSamples := 2
      badMinDurationSec := 180 }

/-- `CandidateState`, a row of `incident_candidates`. -/
structure CandidateState where
  domain : Domain
  state : CurrentState
  firstSeenAt : Int
  lastSeenAt : Int
  samples : Nat
  snapshotId : SnapshotId
  reasonCodes : List ReasonCode
  deriving DecidableEq

/-- The parts that `stable_id` hashes to the id of an episode. -/
structure EpisodeId where
  domain : Domain
  openedAt : Int
  snapshotId : SnapshotId
  policyRevision : String
  deriving DecidableEq

/-- `IncidentEpisode`, a row of `incident_episodes`. An empty time text is `none`. -/
structure IncidentEpisode where
  episodeId : EpisodeId
  domain : Domain
  status : EpisodeStatus
  severity : Severity
  openedAt : Int
  lastBadAt : Int
  closedAt : Option Int
  badSamples : Nat
  unknownSamples : Nat
  lastTransitionAt : Int
  nextNotificationAt : Option Int
  policyRevision : String
  summary : String
  reasonCodes : List ReasonCode
  deriving DecidableEq

/-- `tuple(sorted(set(reason_codes)))`. -/
def sortedReasons (reasonCodes : List ReasonCode) : List ReasonCode :=
  sortBy ReasonCode.text reasonCodes.dedup

/-- `summary` must contain 1-300 characters. -/
def boundedSummary (summary : String) : Prop := summary ≠ "" ∧ summary.length ≤ 300

instance (summary : String) : Decidable (boundedSummary summary) :=
  inferInstanceAs (Decidable (_ ∧ _))

/-- `IncidentEpisode.__post_init__`, which every `replace` runs again. -/
def IncidentEpisode.checked (episode : IncidentEpisode) : Except PyError IncidentEpisode := do
  rejectIf (episode.lastBadAt < episode.openedAt) (valueError "last_bad_at must not precede opened_at")
  rejectIf (∃ closedAt ∈ episode.closedAt, closedAt < episode.openedAt)
    (valueError "closed_at must not precede opened_at")
  rejectIf (episode.status = .closed ∧ episode.closedAt = none)
    (valueError "closed episode requires closed_at")
  rejectIf (episode.status = .active ∧ episode.closedAt ≠ none)
    (valueError "active episode must not have closed_at")
  rejectIf (episode.status = .active ∧ episode.nextNotificationAt = none)
    (valueError "next_notification_at is required")
  rejectIf (episode.status = .active ∧
      ∃ nextAt ∈ episode.nextNotificationAt, nextAt < episode.lastTransitionAt)
    (valueError "next_notification_at must not precede last_transition_at")
  rejectIf (episode.status = .closed ∧ episode.nextNotificationAt ≠ none)
    (valueError "closed episode must not have next_notification_at")
  rejectIf (¬ boundedRevision episode.policyRevision)
    (valueError "policy_revision must contain 1-200 characters")
  rejectIf (¬ boundedSummary episode.summary) (valueError "summary must contain 1-300 characters")
  return { episode with reasonCodes := sortedReasons episode.reasonCodes }

/-- The parts that `stable_id` hashes to the id of a transition. -/
structure TransitionId where
  episodeId : EpisodeId
  phase : Phase
  occurredAt : Int
  currentSnapshotId : SnapshotId
  deriving DecidableEq

/-- `IncidentTransition`, a row of `incident_transitions`. -/
structure IncidentTransition where
  transitionId : TransitionId
  episodeId : EpisodeId
  domain : Domain
  phase : Phase
  severity : Severity
  occurredAt : Int
  currentSnapshotId : SnapshotId
  summary : String
  reasonCodes : List ReasonCode
  deriving DecidableEq

structure Evaluation where
  candidate : Option CandidateState
  episode : Option IncidentEpisode
  transition : Option IncidentTransition

/-- `_candidate`. -/
def candidateOf (current : DomainCurrent) (previous : Option CandidateState) : CandidateState :=
  let first : CandidateState := ⟨current.domain, current.state, current.observedAt, current.observedAt,
    1, current.snapshotId, current.reasonCodes⟩
  match previous with
  | none => first
  | some seen =>
    if seen.state ≠ current.state ∨ seen.reasonCodes ≠ current.reasonCodes then first
    else if seen.snapshotId = current.snapshotId then seen
    else ⟨current.domain, current.state, seen.firstSeenAt, current.observedAt, seen.samples + 1,
      current.snapshotId, current.reasonCodes⟩

/-- `_transition`. -/
def transitionOf (episode : IncidentEpisode) (current : DomainCurrent) (phase : Phase)
    (severity : Severity) (nowAt : Int) : Except PyError IncidentTransition := do
  rejectIf (¬ boundedSummary episode.summary) (valueError "summary must contain 1-300 characters")
  return ⟨⟨episode.episodeId, phase, nowAt, current.snapshotId⟩, episode.episodeId, current.domain,
    phase, severity, nowAt, current.snapshotId, episode.summary, sortedReasons current.reasonCodes⟩

/-- `while next_due_ts <= now: next_due_ts += repeat_interval`, for as many rounds. -/
def advanceDue (nowAt interval : Int) : Nat → Int → Int
  | 0, due => due
  | rounds + 1, due => if due ≤ nowAt then advanceDue nowAt interval rounds (due + interval) else due

/-- The deadline after now. An interval is at least a second, so the rounds suffice. -/
def nextDue (nowAt interval due : Int) : Int :=
  advanceDue nowAt interval ((nowAt - due).toNat + 1) due

section Engine

variable (current : DomainCurrent) (policy : IncidentPolicy) (nowAt : Int)

def IncidentEpisode.closedBy (episode : IncidentEpisode) : IncidentEpisode :=
  { episode with
    status := .closed
    closedAt := some nowAt
    lastTransitionAt := nowAt
    nextNotificationAt := none
    reasonCodes := current.reasonCodes }

/-- An active episode whose domain is not actionable any more. -/
def closeEpisode (episode : IncidentEpisode) : Except PyError Evaluation := do
  let closed ← (episode.closedBy current nowAt).checked
  let transition ← transitionOf closed current .recovered .info nowAt
  return ⟨none, some closed, some transition⟩

/-- `IncidentEpisode.open`, before its check. -/
def openedBy (severity : Severity) (openedAt nextNotificationAt : Int) : IncidentEpisode where
  episodeId := ⟨current.domain, openedAt, current.snapshotId, policy.revision⟩
  domain := current.domain
  status := .active
  severity := severity
  openedAt := openedAt
  lastBadAt := openedAt
  closedAt := none
  badSamples := if current.state = .bad then 1 else 0
  unknownSamples := if current.state = .unknown then 1 else 0
  lastTransitionAt := openedAt
  nextNotificationAt := some nextNotificationAt
  policyRevision := policy.revision
  summary := policy.summary
  reasonCodes := current.reasonCodes

/-- The samples of the candidate and the times of the detection. -/
def IncidentEpisode.detectedBy (opened : IncidentEpisode) (samples : Nat) : IncidentEpisode :=
  { opened with
    badSamples := if current.state = .bad then samples else 0
    unknownSamples := if current.state = .unknown then samples else 0
    lastBadAt := current.observedAt
    lastTransitionAt := nowAt }

/-- One more actionable current. -/
def IncidentEpisode.continuedBy (active : IncidentEpisode) : IncidentEpisode :=
  { active with
    lastBadAt := current.observedAt
    badSamples := active.badSamples + (if current.state = .bad then 1 else 0)
    unknownSamples := active.unknownSamples + (if current.state = .unknown then 1 else 0)
    reasonCodes := current.reasonCodes }

def IncidentEpisode.repeatedAt (updated : IncidentEpisode) (severity : Severity) (nextAt : Int) :
    IncidentEpisode :=
  { updated with severity := severity, lastTransitionAt := nowAt, nextNotificationAt := some nextAt }

def IncidentEpisode.dueAt (updated : IncidentEpisode) (nextAt : Int) : IncidentEpisode :=
  { updated with nextNotificationAt := some nextAt }

/-- `planned_rollout` lowers the severity of a current. -/
def severityOf (severity : Severity) : Severity :=
  if current.payload.plannedRollout then .info else severity

/-- Whether a candidate has lasted long enough to be an episode. -/
def ripe (minSamples minDuration : Nat) (candidate : CandidateState) : Prop :=
  minSamples ≤ candidate.samples ∧ (minDuration : Int) ≤ max 0 (nowAt - candidate.firstSeenAt)

instance (minSamples minDuration : Nat) (candidate : CandidateState) :
    Decidable (ripe nowAt minSamples minDuration candidate) :=
  inferInstanceAs (Decidable (_ ∧ _))

/-- The episode that a ripe candidate becomes. -/
def detect (severity : Severity) (candidate : CandidateState) : Except PyError Evaluation := do
  let nextAt ← utcText (nowAt + policy.repeatInterval current.state current.reasonCodes)
  let opened ← (openedBy current policy severity candidate.firstSeenAt nextAt).checked
  let episode ← (opened.detectedBy current nowAt candidate.samples).checked
  let transition ← transitionOf episode current .detected severity nowAt
  return ⟨none, some episode, some transition⟩

/-- An actionable current of a domain without an active episode. -/
def observeCandidate (pending : Option CandidateState) : Except PyError Evaluation := do
  let candidate := candidateOf current pending
  let (minSamples, minDuration, severity) ← policy.threshold current.state
  if ripe nowAt minSamples minDuration candidate then
    detect current policy nowAt (severityOf current severity) candidate
  else return ⟨some candidate, none, none⟩

/-- A repeated notification of an active episode: a transition and a new deadline. -/
def repeatEpisode (updated : IncidentEpisode) (severity : Severity) (dueTs : Int) :
    Except PyError Evaluation := do
  let nextAt ← utcText dueTs
  let episode ← (updated.repeatedAt nowAt severity nextAt).checked
  let transition ← transitionOf episode current .again severity nowAt
  return ⟨none, some episode, some transition⟩

/-- A deadline that the present interval brings forward is written down. -/
def clampDeadline (updated : IncidentEpisode) (dueTs clamped : Int) : Except PyError IncidentEpisode :=
  if clamped = dueTs then .ok updated
  else do
    let clampedAt ← utcText clamped
    (updated.dueAt clampedAt).checked

/-- The deadline of an active episode, and what follows when it has passed. -/
def keepDeadline (active updated : IncidentEpisode) (dueTs : Int) : Except PyError Evaluation := do
  let interval := policy.repeatInterval current.state current.reasonCodes
  let clamped := min dueTs (nowAt + interval)
  let updated ← clampDeadline updated dueTs clamped
  if nowAt < clamped then return ⟨none, some updated, none⟩
  else repeatEpisode current nowAt updated active.severity (nextDue nowAt interval clamped)

/-- An actionable current of a domain with an active episode. -/
def continueEpisode (active : IncidentEpisode) (pending : Option CandidateState) :
    Except PyError Evaluation := do
  if (pending.any fun candidate => candidate.snapshotId = current.snapshotId) then
    return ⟨none, some active, none⟩
  else
    let updated ← (active.continuedBy current).checked
    let (_, _, severity) ← policy.threshold current.state
    let dueTs ← orReject (valueError "timestamp is required") active.nextNotificationAt
    if active.severity.rank < (severityOf current severity).rank then
      repeatEpisode current nowAt updated (severityOf current severity)
        (nowAt + policy.repeatInterval current.state current.reasonCodes)
    else keepDeadline current policy nowAt active updated dueTs

/-- `evaluate_current`. -/
def evaluateCurrent (active : Option IncidentEpisode) (pending : Option CandidateState) :
    Except PyError Evaluation :=
  if current.domain ≠ policy.domain then
    .error (valueError "current domain and incident policy do not match")
  else if policy.suppressDuringMaintenance ∧ current.payload.maintenance then
    .ok ⟨none, active, none⟩
  else if policy.isActionable current.state current.reasonCodes then
    match active with
    | none => observeCandidate current policy nowAt pending
    | some episode => continueEpisode current policy nowAt episode pending
  else
    match active with
    | none => .ok ⟨none, none, none⟩
    | some episode => closeEpisode current nowAt episode

end Engine

end LiveStream.Monitoring

import LiveStream.Support.Identical
import LiveStream.Support.Latest
import LiveStream.Support.Mapping

/-! The contracts of the monitoring: observations, source policies and the currents that
are reduced from them. -/

namespace LiveStream.Monitoring

open LiveStream.Support

/-- `DOMAIN_ORDER`. -/
inductive Domain where
  | youtubeLifecycle | youtubeInputQuality | delivery | rendering | audio | viewerExternal
  | monitoringPlatform | networkTransport | runtimeResource | adsbSource | apiQuota
  | recoveryPolicy | notificationDelivery | controlLoop
  deriving DecidableEq

/-- `OBSERVATION_STATES`. -/
inductive ObservationState where
  | good | bad | unknown | notApplicable
  deriving DecidableEq

/-- `EVIDENCE_ROLES`. -/
inductive EvidenceRole where
  | currentAuthoritative | currentCorrelated | supporting | diagnostic | historical | formal
  deriving DecidableEq

/-- The seconds that `datetime` can hold: the years 1 to 9999. -/
def MIN_TS : Int := -62135596800

def MAX_TS : Int := 253402300799

/-- `utc_text`, with the text kept as the second it names. -/
def utcText (ts : Int) : Except PyError Int :=
  if MIN_TS ≤ ts ∧ ts ≤ MAX_TS then .ok ts else .error (valueError "year is out of range")

theorem utcText_of_mem {ts : Int} (above : MIN_TS ≤ ts) (below : ts ≤ MAX_TS) :
    utcText ts = .ok ts :=
  if_pos ⟨above, below⟩

@[simp] theorem utcText_eq_ok {ts second : Int} :
    utcText ts = .ok second ↔ second = ts ∧ MIN_TS ≤ ts ∧ ts ≤ MAX_TS := by
  unfold utcText
  split
  · rename_i within
    simp [within, eq_comm]
  · rename_i outside
    simp [outside]

/-- A time text that `parse_utc` accepts, with the microsecond it reads as. -/
structure UtcTime where
  text : String
  micros : Int
  above : MIN_TS * 1000000 ≤ micros
  below : micros < (MAX_TS + 1) * 1000000
  deriving DecidableEq

/-- `unix_ts`: truncated to the second. -/
def unixTs (time : UtcTime) : Int := time.micros.tdiv 1000000

theorem MIN_TS_le_unixTs (time : UtcTime) : MIN_TS ≤ unixTs time := by
  have above := time.above
  unfold unixTs
  unfold MIN_TS at above ⊢
  rcases Int.le_total 0 time.micros with positive | negative
  · have := Int.tdiv_nonneg positive (show (0 : Int) ≤ 1000000 by decide)
    omega
  · have mirrored : time.micros.tdiv 1000000 = -((-time.micros).tdiv 1000000) := by
      rw [Int.neg_tdiv, neg_neg]
    rw [mirrored, Int.tdiv_eq_ediv_of_nonneg (by omega)]
    omega

/-- What an observation says. Its id is the `stable_id` of this. -/
structure ObservationContent where
  domain : Domain
  source : String
  evidenceRole : EvidenceRole
  status : ObservationState
  reasonCode : String
  observedAt : UtcTime
  freshnessLimitSec : Nat
  payload : Fields
  positive : 0 < freshnessLimitSec
  deriving DecidableEq

/-- `ObservationEnvelope`. The constructor checks the form of the id and not what it names;
`received_at` is only ever read as its second. -/
structure ObservationEnvelope extends ObservationContent where
  observationId : String
  receivedTs : Int
  ordered : unixTs observedAt ≤ receivedTs
  deriving DecidableEq

/-- `payload.get(flag) is True`. -/
def ObservationContent.flagged (item : ObservationContent) (flag : String) : Bool :=
  (item.payload.get? flag).any Value.isTrue

structure SourceRule where
  source : String
  priority : Nat
  ttlSec : Nat
  roles : List EvidenceRole := [.currentAuthoritative, .currentCorrelated]
  producerId : String := ""
  currentAuthority : Bool := true
  diagnosticKind : String := "correlated_non_authoritative"
  positive : 0 < ttlSec := by decide

def SourceRule.producerKey (rule : SourceRule) : String :=
  if rule.producerId = "" then rule.source else rule.producerId

def SOURCE_POLICY_REVISION : String := "monitoring-v4-source-policy-r5.1"

structure DomainPolicy where
  domain : Domain
  sources : List SourceRule
  revision : String := SOURCE_POLICY_REVISION
  allowedRoles : List EvidenceRole := [.currentAuthoritative, .currentCorrelated]
  revised : revision ≠ "" := by decide

def DomainPolicy.rule (policy : DomainPolicy) (source : String) : Option SourceRule :=
  policy.sources.find? fun rule => rule.source = source

/-- `DEFAULT_POLICIES`. -/
def DEFAULT_POLICIES : Domain → DomainPolicy
  | .youtubeLifecycle => {
      domain := .youtubeLifecycle
      sources := [
        { source := "youtube_watchdog", priority := 100, ttlSec := 180 },
        { source := "youtube_video_resolver", priority := 80, ttlSec := 90 },
        { source := "youtube_api_direct_lifecycle", priority := 90, ttlSec := 300
          producerId := "youtube_watchdog", currentAuthority := false
          diagnosticKind := "same_producer_api_probe" },
        { source := "youtube_public", priority := 30, ttlSec := 300, roles := [.supporting] }] }
  | .youtubeInputQuality => {
      domain := .youtubeInputQuality
      sources := [
        { source := "youtube_input_quality_oauth", priority := 100, ttlSec := 600
          producerId := "youtube_oauth_watchdog" },
        { source := "youtube_input_quality_prometheus", priority := 80, ttlSec := 360
          producerId := "youtube_oauth_watchdog", currentAuthority := false
          diagnosticKind := "same_producer_projection" },
        { source := "youtube_input_quality_rolling", priority := 20, ttlSec := 3600
          roles := [.historical], producerId := "youtube_oauth_watchdog", currentAuthority := false
          diagnosticKind := "same_producer_projection" },
        { source := "youtube_input_quality_api_direct", priority := 90, ttlSec := 300
          producerId := "youtube_oauth_watchdog", currentAuthority := false
          diagnosticKind := "same_producer_api_probe" }] }
  | .delivery => {
      domain := .delivery
      sources := [
        { source := "runtime_delivery_watchdog", priority := 100, ttlSec := 180 },
        { source := "rtmps_tcp", priority := 100, ttlSec := 60 },
        { source := "viewer_delivery", priority := 30, ttlSec := 300, roles := [.supporting] }] }
  | .rendering => {
      domain := .rendering
      sources := [
        { source := "map_runtime", priority := 100, ttlSec := 180 },
        { source := "viewer_frame", priority := 40, ttlSec := 900, roles := [.supporting] }] }
  | .audio => {
      domain := .audio
      sources := [
        { source := "audio_watchdog", priority := 110, ttlSec := 180 },
        { source := "legacy_subsystem_audio", priority := 100, ttlSec := 180 },
        { source := "viewer_audio", priority := 40, ttlSec := 900, roles := [.supporting] }] }
  | .viewerExternal => {
      domain := .viewerExternal
      sources := [
        { source := "viewer_synthetic", priority := 100, ttlSec := 900, roles := [.supporting] },
        { source := "external_blackbox", priority := 80, ttlSec := 900, roles := [.supporting] }]
      allowedRoles := [.supporting] }
  | .monitoringPlatform => {
      domain := .monitoringPlatform
      sources := [{ source := "monitoring_self", priority := 100, ttlSec := 180 }] }
  | .networkTransport => {
      domain := .networkTransport
      sources := [{ source := "network_observer", priority := 100, ttlSec := 180 }] }
  | .runtimeResource => {
      domain := .runtimeResource
      sources := [
        { source := "memory_status", priority := 110, ttlSec := 180 },
        { source := "resource_memory", priority := 80, ttlSec := 1200, roles := [.currentCorrelated]
          currentAuthority := false, diagnosticKind := "resource_diagnostic" }] }
  | .adsbSource => {
      domain := .adsbSource
      sources := [{ source := "adsb_freshness", priority := 100, ttlSec := 180 }] }
  | .apiQuota => {
      domain := .apiQuota
      sources := [{ source := "youtube_api_quota", priority := 100, ttlSec := 900 }] }
  | .recoveryPolicy => {
      domain := .recoveryPolicy
      sources := [{ source := "recovery_plan", priority := 100, ttlSec := 180 }] }
  | .notificationDelivery => {
      domain := .notificationDelivery
      sources := [{ source := "notification_delivery", priority := 100, ttlSec := 180 }] }
  | .controlLoop => {
      domain := .controlLoop
      sources := [{ source := "control_loop_state", priority := 100, ttlSec := 180 }] }

/-- `CURRENT_STATES`. -/
inductive CurrentState where
  | good | bad | unknown
  deriving DecidableEq

/-- The reason codes a reduction gives. -/
inductive ReasonCode where
  | missingCurrentEvidence | sourceDisagreement | currentBadEvidence | currentGoodEvidence
  | currentEvidenceNotApplicable | currentEvidenceUnknown
  deriving DecidableEq

def ReasonCode.text : ReasonCode → String
  | .missingCurrentEvidence => "missing_current_evidence"
  | .sourceDisagreement => "source_disagreement"
  | .currentBadEvidence => "current_bad_evidence"
  | .currentGoodEvidence => "current_good_evidence"
  | .currentEvidenceNotApplicable => "current_evidence_not_applicable"
  | .currentEvidenceUnknown => "current_evidence_unknown"

/-- Why the latest observation of a source does not count. -/
inductive IgnoredReason where
  | sourceNotInPolicy | roleNotCurrent | futureTimestamp | stale
  | projectionNotCurrentAuthority | correlatedNotCurrentAuthority
  deriving DecidableEq

structure Ignored where
  source : String
  reason : IgnoredReason
  deriving DecidableEq

structure Diagnostic where
  source : String
  producerId : String
  status : ObservationState
  reasonCode : String
  evidenceRole : EvidenceRole
  observedAt : String
  observationId : String
  diagnosticKind : String
  deriving DecidableEq

structure Selected where
  source : String
  status : ObservationState
  evidenceRole : EvidenceRole
  observedAt : String
  payload : Fields
  deriving DecidableEq

/-- The payload of a current. The two flags are entries that are there or not; without
eligible evidence there is no priority. -/
structure CurrentPayload where
  maintenance : Bool := false
  plannedRollout : Bool := false
  priority : Option Nat := none
  selected : List Selected
  diagnostics : List Diagnostic
  sameProducerProjectionDisagreement : Bool
  sameProducerApiDisagreement : Bool
  ignored : List Ignored
  deriving DecidableEq

/-- The parts that `stable_id` hashes to the id of a current. -/
structure SnapshotId where
  domain : Domain
  state : CurrentState
  reasonCodes : List ReasonCode
  sourceObservationIds : List String
  observedAt : Int
  policyRevision : String
  reducerRevision : String
  payload : CurrentPayload
  deriving DecidableEq

/-- `policy_revision` and `reducer_revision` must contain 1-200 characters. -/
def boundedRevision (revision : String) : Prop := revision ≠ "" ∧ revision.length ≤ 200

instance (revision : String) : Decidable (boundedRevision revision) :=
  inferInstanceAs (Decidable (_ ∧ _))

/-- `DomainCurrent`, with the order its contract checks. Its times are texts of `utc_text`. -/
structure DomainCurrent where
  snapshotId : SnapshotId
  domain : Domain
  state : CurrentState
  reasonCodes : List ReasonCode
  sourceObservationIds : List String
  observedAt : Int
  reducedAt : Int
  validUntil : Int
  policyRevision : String
  reducerRevision : String
  payload : CurrentPayload
  observedFirst : observedAt ≤ reducedAt
  validLast : reducedAt ≤ validUntil
  deriving DecidableEq

/-- `DomainCurrent.create`. -/
def DomainCurrent.create (domain : Domain) (state : CurrentState) (reasonCodes : List ReasonCode)
    (sourceObservationIds : List String) (observedAt reducedAt validUntil : Int)
    (policyRevision reducerRevision : String) (payload : CurrentPayload) :
    Except PyError DomainCurrent :=
  let reasons := sortBy ReasonCode.text reasonCodes.dedup
  let sources := sortBy id sourceObservationIds.dedup
  let ident := ⟨domain, state, reasons, sources, observedAt, policyRevision, reducerRevision, payload⟩
  if observedFirst : observedAt ≤ reducedAt then
    if ¬ boundedRevision policyRevision then
      .error (valueError "policy_revision must contain 1-200 characters")
    else if ¬ boundedRevision reducerRevision then
      .error (valueError "reducer_revision must contain 1-200 characters")
    else if validLast : reducedAt ≤ validUntil then
      .ok ⟨ident, domain, state, reasons, sources, observedAt, reducedAt, validUntil,
        policyRevision, reducerRevision, payload, observedFirst, validLast⟩
    else .error (valueError "valid_until must not precede reduced_at")
  else .error (valueError "reduced_at must not precede observed_at")

variable {domain : Domain} {state : CurrentState} {reasonCodes : List ReasonCode}
  {sourceObservationIds : List String} {observedAt reducedAt validUntil : Int}
  {policyRevision reducerRevision : String} {payload : CurrentPayload} {current : DomainCurrent}

/-- When the contract accepts a current. -/
theorem create_accepts (observedFirst : observedAt ≤ reducedAt)
    (policyBound : boundedRevision policyRevision) (reducerBound : boundedRevision reducerRevision)
    (validLast : reducedAt ≤ validUntil) :
    ∃ current, DomainCurrent.create domain state reasonCodes sourceObservationIds observedAt reducedAt
      validUntil policyRevision reducerRevision payload = .ok current := by
  simp [DomainCurrent.create, observedFirst, policyBound, reducerBound, validLast]

/-- What an accepted current says. -/
structure Created (domain : Domain) (state : CurrentState) (reasonCodes : List ReasonCode)
    (observedAt reducedAt validUntil : Int) (payload : CurrentPayload) (current : DomainCurrent) :
    Prop where
  sameDomain : current.domain = domain
  sameState : current.state = state
  reasons : current.reasonCodes = sortBy ReasonCode.text reasonCodes.dedup
  observed : current.observedAt = observedAt
  reduced : current.reducedAt = reducedAt
  valid : current.validUntil = validUntil
  samePayload : current.payload = payload
  named : current.snapshotId.domain = domain

theorem create_eq_ok (created : DomainCurrent.create domain state reasonCodes sourceObservationIds
      observedAt reducedAt validUntil policyRevision reducerRevision payload = .ok current) :
    Created domain state reasonCodes observedAt reducedAt validUntil payload current := by
  unfold DomainCurrent.create at created
  split at created
  · split at created
    · cases created
    · split at created
      · cases created
      · split at created
        · cases created
          exact ⟨rfl, rfl, rfl, rfl, rfl, rfl, rfl, rfl⟩
        · cases created
  · cases created

end LiveStream.Monitoring

import LiveStream.Monitoring.Contract

/-! The reduction of a domain: from its observations to the current that decides. -/

namespace LiveStream.Monitoring

open LiveStream.Support

def REDUCER_REVISION : String := "monitoring-v4-current-reducer-r3.3"

/-- `(observed, received, id)`, compared in this order. -/
def ObservationEnvelope.recency (item : ObservationEnvelope) : ℤ ×ₗ ℤ ×ₗ String :=
  toLex (unixTs item.observedAt, toLex (item.receivedTs, item.observationId))

def sourceOf (item : ObservationEnvelope) : String := item.source

/-- `_latest_by_source`, with the values of the dictionary in its order. -/
def latestBySource (items : List ObservationEnvelope) : List ObservationEnvelope :=
  latestBy sourceOf ObservationEnvelope.recency items

/-- What the loop of `reduce_domain` makes of an item. -/
inductive Assessment where
  | ignored (reason : IgnoredReason)
  | diagnostic (rule : SourceRule)
  | eligible (priority freshnessLimit : Nat)

def freshnessLimit (rule : SourceRule) (item : ObservationContent) : Nat :=
  min rule.ttlSec item.freshnessLimitSec

def assess (policy : DomainPolicy) (nowTs maxFutureSec : Int) (item : ObservationContent) :
    Assessment :=
  match policy.rule item.source with
  | none => .ignored .sourceNotInPolicy
  | some rule =>
    if item.evidenceRole ∉ rule.roles then .ignored .roleNotCurrent
    else if nowTs + max 0 maxFutureSec < unixTs item.observedAt then .ignored .futureTimestamp
    else if freshnessLimit rule item < nowTs - unixTs item.observedAt then .ignored .stale
    else if ¬ rule.currentAuthority then .diagnostic rule
    else if item.evidenceRole ∉ policy.allowedRoles then .ignored .roleNotCurrent
    else .eligible rule.priority (freshnessLimit rule item)

/-- An entry of `eligible`. -/
structure Eligible where
  priority : Nat
  freshnessLimit : Nat
  item : ObservationEnvelope

variable (policy : DomainPolicy) (nowTs maxFutureSec : Int)

def eligible? (item : ObservationEnvelope) : Option Eligible :=
  match assess policy nowTs maxFutureSec item.toObservationContent with
  | .eligible priority freshnessLimit => some ⟨priority, freshnessLimit, item⟩
  | .ignored _ | .diagnostic _ => none

def ignored? (item : ObservationEnvelope) : Option Ignored :=
  match assess policy nowTs maxFutureSec item.toObservationContent with
  | .ignored reason => some ⟨item.source, reason⟩
  | .diagnostic rule => some ⟨item.source,
      if rule.diagnosticKind = "same_producer_projection" then .projectionNotCurrentAuthority
      else .correlatedNotCurrentAuthority⟩
  | .eligible _ _ => none

def diagnostic? (item : ObservationEnvelope) : Option Diagnostic :=
  match assess policy nowTs maxFutureSec item.toObservationContent with
  | .diagnostic rule => some ⟨item.source, rule.producerKey, item.status, item.reasonCode,
      item.evidenceRole, item.observedAt.text, item.observationId, rule.diagnosticKind⟩
  | .ignored _ | .eligible _ _ => none

/-- The state and its reason, from the statuses at the top priority. -/
def stateOf (statuses : List ObservationState) : CurrentState × ReasonCode :=
  if .bad ∈ statuses ∧ .good ∈ statuses then (.unknown, .sourceDisagreement)
  else if .bad ∈ statuses then (.bad, .currentBadEvidence)
  else if .good ∈ statuses then (.good, .currentGoodEvidence)
  else if ∀ status ∈ statuses, status = .notApplicable then (.unknown, .currentEvidenceNotApplicable)
  else (.unknown, .currentEvidenceUnknown)

/-- `selected_status_by_producer`: of two items of a producer the last one counts. -/
def statusByProducer (policy : DomainPolicy) (selected : List Eligible) :
    List (String × ObservationState) :=
  selected.reverse.filterMap fun entry =>
    (policy.rule entry.item.source).map fun rule => (rule.producerKey, entry.item.status)

/-- Whether some diagnostic of a kind contradicts the selected status of its producer. -/
def disagreement (kind : String) (statuses : List (String × ObservationState))
    (diagnostics : List Diagnostic) : Bool :=
  diagnostics.any fun entry =>
    (statuses.lookup entry.producerId).any fun status =>
      entry.status ≠ status && entry.diagnosticKind = kind

def Eligible.view (entry : Eligible) : Selected :=
  ⟨entry.item.source, entry.item.status, entry.item.evidenceRole, entry.item.observedAt.text,
    entry.item.payload⟩

def Eligible.order (entry : Eligible) : String ×ₗ String :=
  toLex (entry.item.source, entry.item.observationId)

def Diagnostic.order (entry : Diagnostic) : String ×ₗ String :=
  toLex (entry.source, entry.observationId)

/-- The current of a domain without eligible evidence. -/
def missingCurrent (diagnostics : List Diagnostic) (ignored : List Ignored) :
    Except PyError DomainCurrent := do
  let reducedAt ← utcText nowTs
  DomainCurrent.create policy.domain .unknown [.missingCurrentEvidence] [] reducedAt reducedAt reducedAt
    policy.revision REDUCER_REVISION
    { selected := [], diagnostics, ignored := sortBy Ignored.source ignored,
      sameProducerProjectionDisagreement := false, sameProducerApiDisagreement := false }

/-- The current that the selected evidence gives. -/
def selectedCurrent (topPriority : Nat) (selected : List Eligible) (diagnostics : List Diagnostic)
    (ignored : List Ignored) : Except PyError DomainCurrent := do
  let (state, reason) := stateOf (selected.map fun entry => entry.item.status)
  let observedTs := ((selected.map fun entry => unixTs entry.item.observedAt).max?).getD 0
  let validUntilTs :=
    ((selected.map fun entry => unixTs entry.item.observedAt + entry.freshnessLimit).min?).getD 0
  let selectedSorted := sortBy Eligible.order selected
  let statuses := statusByProducer policy selectedSorted
  let observedAt ← utcText observedTs
  let reducedAt ← utcText nowTs
  let validUntil ← utcText validUntilTs
  DomainCurrent.create policy.domain state [reason]
    (selectedSorted.map fun entry => entry.item.observationId) observedAt reducedAt validUntil
    policy.revision REDUCER_REVISION
    { maintenance := selectedSorted.any fun entry => entry.item.flagged "maintenance"
      plannedRollout := selectedSorted.any fun entry => entry.item.flagged "planned_rollout"
      priority := some topPriority
      selected := selectedSorted.map Eligible.view
      diagnostics
      sameProducerProjectionDisagreement :=
        disagreement "same_producer_projection" statuses diagnostics
      sameProducerApiDisagreement := disagreement "same_producer_api_probe" statuses diagnostics
      ignored := sortBy Ignored.source ignored }

def topPriority (eligible : List Eligible) : Nat :=
  ((eligible.map Eligible.priority).max?).getD 0

def select (eligible : List Eligible) : List Eligible :=
  eligible.filter fun entry => entry.priority = topPriority eligible

/-- The part of `reduce_domain` after `_latest_by_source`. -/
def reduceLatest (latest : List ObservationEnvelope) : Except PyError DomainCurrent :=
  let eligible := latest.filterMap (eligible? policy nowTs maxFutureSec)
  let ignored := latest.filterMap (ignored? policy nowTs maxFutureSec)
  let diagnostics :=
    sortBy Diagnostic.order (latest.filterMap (diagnostic? policy nowTs maxFutureSec))
  if eligible.isEmpty then missingCurrent policy nowTs diagnostics ignored
  else selectedCurrent policy nowTs (topPriority eligible) (select eligible) diagnostics ignored

def ofDomain (domain : Domain) (observations : List ObservationEnvelope) : List ObservationEnvelope :=
  observations.filter fun item => item.domain = domain

/-- `reduce_domain`. -/
def reduceDomain (observations : List ObservationEnvelope) : Except PyError DomainCurrent :=
  reduceLatest policy nowTs maxFutureSec (latestBySource (ofDomain policy.domain observations))

end LiveStream.Monitoring

import LiveStream.Recovery.Store
import LiveStream.Support.Log

/-! `verify` of the central service: the audit records of the agents against the published
policies. -/

namespace LiveStream.Recovery

open LiveStream.Support

/-- A record as the central service stores it. -/
structure CentralRecord extends AuditRecord where
  agentId : String
  instanceId : String
  seq : Nat

inductive ViolationCode where
  | recoveryEvidenceInvalid | actionWithoutResult | duplicateGenerationAction
  | unknownPolicyVersion | enforceWithoutEnforcePolicy | actionWithoutLocalizedStall
  | cooldown | limit | auditEmpty | agentUnobserved | agentSilent
  deriving DecidableEq

/-- What the detail of a violation tells. -/
inductive Detail where
  | empty
  | text (text : String)
  | action (actionId : Nat)
  | policy (version : Nat)
  | policyMode (version : Nat) (mode : PolicyMode)
  | network (network : Option Network)

structure Violation where
  code : ViolationCode
  agentId : Option String
  seq : Option Nat
  ts : Option Int
  detail : Detail

def violation (code : ViolationCode) (record : CentralRecord) (detail : Detail) : Violation :=
  ⟨code, some record.agentId, some record.seq, some record.ts, detail⟩

/-- `Counter`, with its keys in the order of their first occurrence. -/
def counter {α : Type} [BEq α] (items : List α) : List (α × Nat) :=
  items.eraseDups.map fun item => (item, items.count item)

/-- The counts of one stream. -/
structure StreamSummary where
  records : Nat
  decisions : List ((Outcome × String) × Nat)
  actionsByMode : List (ActionMode × Nat)
  actionStates : List (ActionState × Nat)
  verificationResults : List (VerifyResult × Nat)

structure Report where
  checkedAt : Instant
  violations : List Violation
  summary : List ((String × String) × StreamSummary)

def RESULT_GRACE : Int := 300000000

def SILENT_AFTER : Int := 1500000000

/-- The dictionaries `reserved` and `results` of one stream, with their keys in order. -/
structure Seen where
  reservedIds : List Nat
  reserved : Nat → Option (CentralRecord × Reservation)
  resultIds : List Nat
  results : Nat → Option (ActionState × Response)

def Seen.empty : Seen := ⟨[], fun _ => none, [], fun _ => none⟩

/-- The keys of a dictionary after an assignment. -/
def assignedKeys (keys : List Nat) (key : Nat) : List Nat :=
  if key ∈ keys then keys else keys ++ [key]

def Seen.add (seen : Seen) (record : CentralRecord) : Seen :=
  match record.payload with
  | .actionReserved reservation =>
    { seen with
      reservedIds := assignedKeys seen.reservedIds reservation.actionId
      reserved := Function.update seen.reserved reservation.actionId (some (record, reservation)) }
  | .actionResult actionId state response | .actionReconciled actionId state response =>
    { seen with
      resultIds := assignedKeys seen.resultIds actionId
      results := Function.update seen.results actionId (some (state, response)) }
  | _ => seen

/-- The four entries of the sample that a RECOVERED label was checked with; the others are not
read. -/
def legacySample (verification : Verification) : DeliverySample where
  generationKey := verification.observedGenerationKey
  executorInstanceId := verification.executorInstanceId
  deliveryRoute := .none
  deliveryRouteGeneration := .none
  sequence := 0
  observedAt := verification.observedAt
  uptimeSec := verification.uptimeSec
  ffmpegRunning := false
  tcp := none

/-- The evidence of a label of delivery, given its reservation and its result. What is missing
makes `after_request` fail, or differs from what it is compared with. -/
def resumedValid (policies : Nat → Option Policy) (verification : Verification)
    (reservation : Reservation) (state : ActionState) (response : Response) : Bool :=
  let expected : ActionState :=
    if verification.result = .deliveryResumed then .effectObserved else .outcomeUnknown
  let first := verification.progressFrom
  let second := verification.sample
  match response.request, policies reservation.policyVersion with
  | some request, some policy =>
    reservation.mode = .enforce && state = expected && verification.executionState = expected &&
      reservation.generationKey = request.podUid ++ "/" ++ request.previousGeneration &&
      afterRequest first response && afterRequest (some second) response &&
      second.deliveryRoute.equal request.deliveryRoute &&
      second.deliveryRouteGeneration.equal request.deliveryRouteGeneration &&
      request.verifyWindowSec = policy.verifyWindowSec &&
      request.stallLastsndMs = policy.stallLastsndMs &&
      sendingProgress first (some second) request.maxSampleGapSec policy.stallLastsndMs
  | none, _ | some _, none => false

/-- The evidence of a verification. -/
def evidenceValid (policies : Nat → Option Policy) (seen : Seen) (verification : Verification) :
    Bool :=
  match verification.result with
  | .recovered =>
    (seen.results verification.actionId).any fun result =>
      result.1 = .effectObserved && afterRequest (some (legacySample verification)) result.2
  | .deliveryResumed | .deliveryResumedExecutionUnknown =>
    match seen.reserved verification.actionId, seen.results verification.actionId with
    | some reserved, some result =>
      resumedValid policies verification reserved.2 result.1 result.2
    | none, _ | some _, none => false
  | .notExecuted | .generationChangedUnattributed | .outcomeUnresolved | .notRecovered
  | .selfRecovered | .generationChangedWithoutAction | .stillStalled => true

/-- What the pass over a stream reports on a record. -/
def checkEvidence (policies : Nat → Option Policy) (seen : Seen) (record : CentralRecord) :
    List Violation :=
  match record.payload with
  | .actionVerified verification =>
    if evidenceValid policies seen verification then []
    else [violation .recoveryEvidenceInvalid record .empty]
  | _ => []

/-- The reservations of a stream that got no result in time. -/
def checkResults (now : Instant) (seen : Seen) : List Violation :=
  seen.reservedIds.flatMap fun actionId =>
    match seen.reserved actionId with
    | some (record, _) =>
      if (seen.results actionId).isNone ∧ RESULT_GRACE < now - ofStamp record.ts then
        [violation .actionWithoutResult record (.action actionId)]
      else []
    | none => []

/-- The violations of one stream. -/
def checkStream (policies : Nat → Option Policy) (now : Instant) (stream : List CentralRecord) :
    List Violation :=
  pass (checkEvidence policies) Seen.add .empty stream ++
    checkResults now (stream.foldl Seen.add .empty)

def summarize (stream : List CentralRecord) : StreamSummary :=
  let seen := stream.foldl Seen.add .empty
  { records := stream.length
    decisions := counter (stream.filterMap fun record =>
      match record.payload with
      | .decision decision _ _ _ => some (decision.outcome, decision.reason)
      | _ => none)
    actionsByMode := counter (seen.reservedIds.filterMap fun actionId =>
      (seen.reserved actionId).map (·.2.mode))
    actionStates := counter (seen.resultIds.filterMap fun actionId =>
      (seen.results actionId).map (·.1))
    verificationResults := counter (stream.filterMap fun record =>
      match record.payload with
      | .actionVerified verification => some verification.result
      | _ => none) }

/-- The counters of the second pass. -/
structure Tally where
  generations : String × ActionMode × String → Nat
  times : String × ActionMode → List Int

def Tally.empty : Tally := ⟨fun _ => 0, fun _ => []⟩

def Tally.add (tally : Tally) (record : CentralRecord) : Tally :=
  match record.payload with
  | .actionReserved reservation =>
    let key := (record.agentId, reservation.mode)
    let generation := (record.agentId, reservation.mode, reservation.generationKey)
    { generations := Function.update tally.generations generation (tally.generations generation + 1)
      times := Function.update tally.times key (tally.times key ++ [record.ts]) }
  | _ => tally

/-- The cooldown and the limits of a policy. -/
def checkLimits (policy : Policy) (previous : List Int) (record : CentralRecord) :
    List Violation :=
  let now := ofStamp record.ts
  (if previous.getLast?.any fun last => seconds (now - ofStamp last) < policy.cooldownSec then
    [violation .cooldown record .empty] else []) ++
  if policy.maxPerHour ≤ previous.countP (fun ts => now - ofStamp ts ≤ AgentStore.HOUR) ∨
      policy.maxPerDay ≤ previous.countP (fun ts => now - ofStamp ts ≤ AgentStore.DAY) then
    [violation .limit record .empty] else []

/-- `policies.get(version, BUILTIN.to_dict() if version == BUILTIN.version else None)`. -/
def governing (policies : Nat → Option Policy) (version : Nat) : Option Policy :=
  match policies version with
  | some policy => some policy
  | none => if version = BUILTIN.version then some BUILTIN else none

/-- What the second pass reports on a reservation. -/
def checkReservation (policies : Nat → Option Policy) (tally : Tally) (record : CentralRecord)
    (reservation : Reservation) : List Violation :=
  let key := (record.agentId, reservation.mode)
  let policy := governing policies reservation.policyVersion
  (if 1 < tally.generations (record.agentId, reservation.mode, reservation.generationKey) + 1 then
    [violation .duplicateGenerationAction record (.text reservation.generationKey)] else []) ++
  (match policy with
  | none => [violation .unknownPolicyVersion record (.policy reservation.policyVersion)]
  | some policy =>
    if reservation.mode = .enforce ∧ policy.mode ≠ .enforce then
      [violation .enforceWithoutEnforcePolicy record
        (.policyMode reservation.policyVersion policy.mode)]
    else []) ++
  (if reservation.evidence.network.all fun network =>
      network.networkDown || !network.ingestOk || network.timedOut then
    [violation .actionWithoutLocalizedStall record (.network reservation.evidence.network)]
    else []) ++
  match policy with
  | none => []
  | some policy => checkLimits policy (tally.times key) record

def checkRecord (policies : Nat → Option Policy) (tally : Tally) (record : CentralRecord) :
    List Violation :=
  match record.payload with
  | .actionReserved reservation => checkReservation policies tally record reservation
  | _ => []

/-- `sorted(records, key=lambda r: _parse(r["ts"]))`. -/
def sortedByTime (records : List CentralRecord) : List CentralRecord :=
  records.mergeSort fun left right => left.ts ≤ right.ts

/-- The keys of `streams`. -/
def streamKeys (records : List CentralRecord) : List (String × String) :=
  (records.map fun record => (record.agentId, record.instanceId)).eraseDups

def streamOf (records : List CentralRecord) (key : String × String) : List CentralRecord :=
  records.filter fun record => (record.agentId, record.instanceId) = key

/-- The entries of `last_seen`. -/
def lastSeen (records : List CentralRecord) : List (String × Int) :=
  (records.map (·.agentId)).eraseDups.map fun agentId =>
    (agentId, (((records.filter (·.agentId = agentId)).map (·.ts)).max?).getD 0)

/-- The violations that no record shows. -/
def checkPresence (records : List CentralRecord) (now : Instant) (expected : List String) :
    List Violation :=
  let seen := lastSeen records
  (if records = [] then
    [⟨.auditEmpty, none, none, none, .text "no observed audit records"⟩] else []) ++
  (expected.filter fun agentId => !(seen.map (·.1)).contains agentId).map (fun agentId =>
    ⟨.agentUnobserved, some agentId, none, none, .text "no audit received"⟩) ++
  (seen.filter fun entry => SILENT_AFTER < now - ofStamp entry.2).map fun entry =>
    ⟨.agentSilent, some entry.1, none, some entry.2, .empty⟩

/-- `verify(records, policies, now=…, expected_agents=…)`. -/
def verify (records : List CentralRecord) (policies : Nat → Option Policy) (now : Instant)
    (expected : List String) : Report where
  checkedAt := now
  violations :=
    (streamKeys records).flatMap (fun key => checkStream policies now (streamOf records key)) ++
      pass (checkRecord policies) Tally.add .empty (sortedByTime records) ++
      checkPresence records now expected
  summary := (streamKeys records).map fun key => (key, summarize (streamOf records key))

end LiveStream.Recovery

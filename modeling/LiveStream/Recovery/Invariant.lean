import LiveStream.Recovery.Agent
import LiveStream.Support.Log

/-! What holds of an agent's database, memory and calls in every reachable world: the log and
the rows tell the same, and every reservation, call and verification is justified. -/

namespace LiveStream.Recovery

open LiveStream.Support

/-- What a reservation says, in the log and in its row. -/
structure Head where
  ts : Int
  actionId : Nat
  generationKey : String
  mode : ActionMode
  policyVersion : Nat

def AuditRecord.head? (record : AuditRecord) : Option Head :=
  match record.payload with
  | .actionReserved reservation =>
    some ⟨record.ts, reservation.actionId, reservation.generationKey, reservation.mode,
      reservation.policyVersion⟩
  | _ => none

/-- The entry that a record makes in a dictionary of reservations. -/
def AuditRecord.reserves (record : AuditRecord) : Option (Nat × Head) :=
  record.head?.map fun head => (head.actionId, head)

/-- The entry that a record makes in a dictionary of results. -/
def AuditRecord.results (record : AuditRecord) : Option (Nat × ActionState × Response) :=
  match record.payload with
  | .actionResult actionId state response | .actionReconciled actionId state response =>
    some (actionId, state, response)
  | _ => none

def AuditRecord.verified? (record : AuditRecord) : Option Verification :=
  match record.payload with
  | .actionVerified verification => some verification
  | _ => none

/-- A record that says nothing about an action. -/
structure AuditRecord.Inert (record : AuditRecord) : Prop where
  head : record.head? = none
  results : record.results = none
  verified : record.verified? = none

def Action.head (action : Action) : Head :=
  ⟨action.createdAt, action.id, action.generationKey, action.mode, action.policyVersion⟩

/-- The result of a row: none while it is RESERVED. -/
def Action.outcome (action : Action) : Option (ActionState × Response) :=
  if action.state = .reserved then none else some (action.state, action.loaded)

/-- The probe found a network that is up, the ingest reachable, and no timeout. -/
def Localized (network : Option Network) : Prop :=
  ∃ found, network = some found ∧ found.networkDown = false ∧ found.ingestOk = true ∧
    found.timedOut = false

/-- A policy that the agent may act under. -/
def Known (adopted : List Policy) (policy : Policy) : Prop := policy = BUILTIN ∨ policy ∈ adopted

/-- A reservation that a known policy allowed, given the reservations of its mode before. -/
def Allowed (adopted : List Policy) (before : List Head) (head : Head) : Prop :=
  ∃ policy, Known adopted policy ∧ policy.version = head.policyVersion ∧
    (head.mode = .enforce → policy.mode = .enforce) ∧
    (∀ earlier ∈ before, earlier.generationKey ≠ head.generationKey) ∧
    (∀ earlier ∈ before, earlier.ts + policy.cooldownSec * 1000 ≤ head.ts) ∧
    (before.countP fun earlier => head.ts - 3600000 ≤ earlier.ts) < policy.maxPerHour ∧
    (before.countP fun earlier => head.ts - 86400000 ≤ earlier.ts) < policy.maxPerDay

/-- The thresholds of a request are those of a known policy of that version. -/
def Issued (adopted : List Policy) (version : Nat) (request : RequestContext) : Prop :=
  ∃ policy, Known adopted policy ∧ policy.version = version ∧ policy.mode = .enforce ∧
    request.verifyWindowSec = policy.verifyWindowSec ∧
    request.stallLastsndMs = policy.stallLastsndMs

/-- A row whose request was sent. -/
structure Placed (config : Config) (adopted : List Policy) (action : Action)
    (request : RequestContext) : Prop where
  mode : action.mode = .enforce
  key : action.generationKey = request.podUid ++ "/" ++ request.previousGeneration
  gap : request.maxSampleGapSec = config.maxGapSec
  issued : Issued adopted action.policyVersion request
  ended : action.state ≠ .reserved ∧ action.state ≠ .dryRun

/-- Two samples that show progress after the request of a response. -/
structure Progressed (config : Config) (response : Response) (request : RequestContext)
    (first second : DeliverySample) : Prop where
  answered : response.request = some request
  earlier : afterRequest (some first) response = true
  later : afterRequest (some second) response = true
  sending : sendingProgress (some first) (some second) config.maxGapSec request.stallLastsndMs = true

/-- The two labels that claim a delivery. -/
def VerifyResult.resumed : VerifyResult → Bool
  | .deliveryResumed | .deliveryResumedExecutionUnknown => true
  | .notExecuted | .generationChangedUnattributed | .outcomeUnresolved | .notRecovered
  | .selfRecovered | .generationChangedWithoutAction | .stillStalled | .recovered => false

/-- The state that a label of delivery goes with. -/
def VerifyResult.expected (result : VerifyResult) : ActionState :=
  if result = .deliveryResumed then .effectObserved else .outcomeUnknown

/-- A verification that the log before it bears out. -/
structure Borne (config : Config) (adopted : List Policy) (before : List AuditRecord)
    (verification : Verification) (head : Head) (response : Response) (request : RequestContext)
    (first : DeliverySample) : Prop where
  reserved : assigned AuditRecord.reserves before verification.actionId = some head
  recorded : assigned AuditRecord.results before verification.actionId =
    some (verification.executionState, response)
  state : verification.executionState = verification.result.expected
  mode : head.mode = .enforce
  key : head.generationKey = request.podUid ++ "/" ++ request.previousGeneration
  gap : request.maxSampleGapSec = config.maxGapSec
  issued : Issued adopted head.policyVersion request
  progressFrom : verification.progressFrom = some first
  progressed : Progressed config response request first verification.sample
  route : verification.sample.deliveryRoute.equal request.deliveryRoute = true
  routeGeneration :
    verification.sample.deliveryRouteGeneration.equal request.deliveryRouteGeneration = true

/-- A record that claims a delivery is borne out by the log before it. -/
def Evidenced (config : Config) (adopted : List Policy) (before : List AuditRecord)
    (record : AuditRecord) : Prop :=
  ∀ verification, record.verified? = some verification →
    verification.result ≠ .recovered ∧
      (verification.result.resumed = true → ∃ head response request first,
        Borne config adopted before verification head response request first)

/-- A call of the sender for a durable reservation that has no result yet, under the policy of
the step, in enforce mode and without a stop file when they were last looked at. -/
structure Justified (config : Config) (sent : Sent) : Prop where
  request : sent.request.requestId = config.requestIdFor sent.generationKey
  reserved : ∃ action ∈ sent.store.actions, action.id = sent.actionId ∧
    action.generationKey = sent.generationKey ∧ action.mode = .enforce ∧ action.state = .reserved
  pending : ∀ record ∈ sent.store.audit, ∀ state response,
    record.results ≠ some (sent.actionId, state, response)
  reread : sent.reread = some sent.policy
  enforce : sent.policy.mode = .enforce
  stopFile : sent.stopFile = some false

/-- What holds of the world of an agent at any time; `opened` is an earlier world. -/
structure Sound (config : Config) (opened world : World) : Prop where
  policy : ∀ policy, world.store.policy = some policy → policy ∈ world.adopted
  numbered : world.store.actions.map (·.id) = List.range' 1 world.store.actions.length
  heads : world.store.audit.filterMap AuditRecord.head? = world.store.actions.map Action.head
  reserves : ∀ action ∈ world.store.actions,
    assigned AuditRecord.reserves world.store.audit action.id = some action.head
  results : ∀ action ∈ world.store.actions,
    assigned AuditRecord.results world.store.audit action.id = action.outcome
  resultIds : ∀ record ∈ world.store.audit, ∀ actionId state response,
    record.results = some (actionId, state, response) →
      ∃ action ∈ world.store.actions, action.id = actionId ∧ action.state ≠ .reserved
  localized : ∀ record ∈ world.store.audit, ∀ reservation,
    record.payload = .actionReserved reservation → Localized reservation.evidence.network
  allowed : ∀ mode, EachAfter (Allowed world.adopted)
    ((world.store.actions.map Action.head).filter (·.mode = mode))
  placed : ∀ action ∈ world.store.actions, ∀ request, action.loaded.request = some request →
    Placed config world.adopted action request
  progress : ∀ actionId first second,
    world.memory.deliveryProgress actionId = some (first, second) →
      ∃ action ∈ world.store.actions, action.id = actionId ∧
        ∃ request, Progressed config action.loaded request first second
  evidenced : EachAfter (Evidenced config world.adopted) world.store.audit
  justified : ∀ sent ∈ world.sent, Justified config sent
  claimed : ∀ sent ∈ world.sent, world.store.claimed sent.generationKey .enforce = true
  once : (world.sent.map (·.generationKey)).Nodup
  kept : ∀ sent ∈ world.sent, sent.store.audit <+: world.store.audit
  later : opened.store.audit <+: world.store.audit
  resent : ∃ more, world.sent = opened.sent ++ more ∧
    ∀ sent ∈ more, opened.store.audit <+: sent.store.audit

end LiveStream.Recovery

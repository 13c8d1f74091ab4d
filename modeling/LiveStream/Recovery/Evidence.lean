import LiveStream.Recovery.Decide

/-! Delivery samples and what an action's response says about the request: `after_request`
and `sending_progress`, which the agent and its auditor share. -/

namespace LiveStream.Recovery

open LiveStream.Support

/-- `delivery_sample`. -/
structure DeliverySample where
  generationKey : String
  executorInstanceId : String
  deliveryRoute : Value
  deliveryRouteGeneration : Value
  sequence : Int
  observedAt : Instant
  uptimeSec : Int
  ffmpegRunning : Bool
  tcp : Option TcpMetrics

def deliverySample (obs : Observation) : DeliverySample where
  generationKey := obs.generationKey
  executorInstanceId := obs.executorInstanceId
  deliveryRoute := obs.get "delivery_route"
  deliveryRouteGeneration := obs.get "delivery_route_generation"
  sequence := obs.sequence
  observedAt := obs.observedAt
  uptimeSec := obs.ffmpegUptimeSec
  ffmpegRunning := obs.ffmpegRunning
  tcp := obs.tcp

/-- The two samples are of one generation on one route. -/
def DeliverySample.alike (first second : DeliverySample) : Bool :=
  first.generationKey = second.generationKey &&
    first.executorInstanceId = second.executorInstanceId &&
    first.deliveryRoute.equal second.deliveryRoute &&
    first.deliveryRouteGeneration.equal second.deliveryRouteGeneration

/-- The `agent_…` entries of a response. -/
structure RequestContext where
  requestIssuedAt : Instant
  executorInstanceId : String
  podUid : String
  verifyWindowSec : Nat
  previousGeneration : String
  deliveryRoute : Value
  deliveryRouteGeneration : Value
  maxSampleGapSec : ℚ
  stallLastsndMs : Nat

/-- The response of an action: the reply or the reason, the context of the request if one was
made, and the status that reconciled it. -/
structure Response where
  body : Fields
  request : Option RequestContext
  executorReconciliation : Option Fields

/-- `json.loads(row["response"] or "{}")` without a response. -/
def Response.empty : Response := ⟨[], none, none⟩

/-- `text.partition("/")`, without the separator. -/
def partitionSlash (text : String) : String × String :=
  let chars := text.toList
  (String.ofList (chars.takeWhile (· ≠ '/')), String.ofList ((chars.dropWhile (· ≠ '/')).drop 1))

/-- `after_request`; a missing sample or context raises what it catches. -/
def afterRequest (sample : Option DeliverySample) (response : Response) : Bool :=
  match sample, response.request with
  | some sample, some request =>
    let (pod, generation) := partitionSlash sample.generationKey
    let elapsed := seconds (sample.observedAt - request.requestIssuedAt)
    pod = request.podUid && sample.executorInstanceId = request.executorInstanceId &&
      generation ≠ "" && generation ≠ request.previousGeneration &&
      0 ≤ sample.uptimeSec && (sample.uptimeSec : ℚ) ≤ elapsed && elapsed ≤ request.verifyWindowSec
  | none, _ | some _, none => false

/-- The counters of `sending_progress`. -/
def sends (first second : Option TcpMetrics) (lastsndMs : Nat) : Bool :=
  match first, second with
  | some first, some second =>
    0 ≤ first.bytesSent && first.bytesSent < second.bytesSent &&
      0 ≤ second.lastsndMs && second.lastsndMs < lastsndMs
  | none, _ | some _, none => false

/-- `sending_progress`. -/
def sendingProgress (first second : Option DeliverySample) (maxGapSec : ℚ) (lastsndMs : Nat) :
    Bool :=
  match first, second with
  | some first, some second =>
    let gap := seconds (second.observedAt - first.observedAt)
    first.alike second && first.ffmpegRunning && second.ffmpegRunning &&
      first.sequence < second.sequence && 0 < gap && gap ≤ maxGapSec &&
      sends first.tcp second.tcp lastsndMs
  | none, _ | some _, none => false

end LiveStream.Recovery

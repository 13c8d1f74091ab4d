import LiveStream.Support.Equality
import LiveStream.Support.Operators

/-! What the reflex agent looks at: the recovery policy, the runtime observation and the
probe of the local network. -/

namespace LiveStream.Recovery

open LiveStream.Support

/-- A point in time, in the microseconds that `datetime` keeps. -/
abbrev Instant := Int

/-- `timedelta.total_seconds()`. -/
def seconds (span : Int) : ℚ := span / 1000000

/-- A timestamp of the stores: the time cut off at the millisecond. -/
def stamp (now : Instant) : Int := now / 1000

/-- `datetime.fromisoformat` of a timestamp of the stores. -/
def ofStamp (ts : Int) : Instant := ts * 1000

/-- `MODES`. -/
inductive PolicyMode where
  | off | dryRun | enforce
  deriving DecidableEq

structure Policy where
  version : Nat
  mode : PolicyMode
  stallConfirmSamples : Nat
  stallLastsndMs : Nat
  stallNotsentBytes : Nat
  stallUnacked : Nat
  stallGraceSec : Nat
  minFfmpegUptimeSec : Nat
  cooldownSec : Nat
  maxPerHour : Nat
  maxPerDay : Nat
  verifyWindowSec : Nat
  deriving DecidableEq

/-- `BUILTIN`: used until a signed policy is adopted. -/
def BUILTIN : Policy where
  version := 0
  mode := .dryRun
  stallConfirmSamples := 5
  stallLastsndMs := 4000
  stallNotsentBytes := 8192
  stallUnacked := 64
  stallGraceSec := 90
  minFfmpegUptimeSec := 20
  cooldownSec := 60
  maxPerHour := 4
  maxPerDay := 12
  verifyWindowSec := 60

/-- `adoption_error(current, candidate)`. -/
def adoptionError (current : Option Policy) (candidate : Policy) : Option String :=
  match current with
  | none => none
  | some current =>
    if candidate.version < current.version then some "POLICY_VERSION_REGRESSION"
    else if candidate.version = current.version then
      if candidate = current then none else some "POLICY_VERSION_REUSED"
    else none

structure TcpMetrics where
  bytesSent : Int
  notsent : Int
  unacked : Int
  lastsndMs : Int
  bytesAcked : Option Int
  deriving DecidableEq

/-- A parsed observation; `binding` is what the property of that name makes of `raw`. -/
structure Observation where
  observationId : String
  executorInstanceId : String
  sequence : Int
  observedAt : Instant
  podUid : String
  ffmpegGeneration : String
  ffmpegRunning : Bool
  ffmpegUptimeSec : Int
  activeProducerId : String
  activeProducerGeneration : Int
  inFlightCount : Int
  targetValid : Bool
  tcp : Option TcpMetrics
  raw : Fields
  binding : Option Fields

namespace Observation

/-- `self.raw.get(key)`. -/
def get (obs : Observation) (key : String) : Value := (obs.raw.get? key).getD .none

def generationKey (obs : Observation) : String := obs.podUid ++ "/" ++ obs.ffmpegGeneration

def bindingStatus (obs : Observation) : String :=
  if (obs.raw.get? "delivery_transport").isNone then "LEGACY_UNBOUND"
  else if obs.binding.isSome then "AVAILABLE" else "UNAVAILABLE"

end Observation

/-- The tuple `transport_identity`; its last part is the binding or its status. -/
structure TransportIdentity where
  executorInstanceId : String
  generationKey : String
  route : Value
  routeGeneration : Value
  binding : Option Fields
  status : String

/-- `left == right` on transport identities. -/
def TransportIdentity.same (left right : TransportIdentity) : Bool :=
  left.executorInstanceId = right.executorInstanceId && left.generationKey = right.generationKey &&
    left.route.equal right.route && left.routeGeneration.equal right.routeGeneration &&
    match left.binding, right.binding with
    | some first, some second => (Value.dict first).equal (.dict second)
    | none, none => left.status = right.status
    | some _, none | none, some _ => false

def Observation.transportIdentity (obs : Observation) : TransportIdentity where
  executorInstanceId := obs.executorInstanceId
  generationKey := obs.generationKey
  route := obs.get "delivery_route"
  routeGeneration := obs.get "delivery_route_generation"
  binding := obs.binding
  status := obs.bindingStatus

structure Endpoint where
  host : String
  port : Int
  deriving DecidableEq

structure Network where
  gatewayOk : Bool
  publicOkCount : Nat
  ingestOk : Bool
  timedOut : Bool
  deriving DecidableEq

def Network.networkDown (network : Network) : Bool :=
  !network.gatewayOk && network.publicOkCount = 0

/-- The configuration of an agent. `ingestEndpoint` looks a route up in `ingest_endpoints`,
and `requestIdFor` is the hash that names the request of a generation. -/
structure Config where
  producerId : String
  producerGeneration : Int
  ingestHost : String
  ingestPort : Int
  intervalSec : ℚ
  observationMaxAgeSec : ℚ
  hasCentral : Bool
  hasIngestEndpoints : Bool
  ingestEndpoint : Value → Option Endpoint
  requestIdFor : String → String

/-- The longest gap between two samples of one stall or of one progress. -/
def Config.maxGapSec (config : Config) : ℚ := config.intervalSec + config.observationMaxAgeSec

/-- The endpoint of a binding that was validated. -/
def bindingEndpoint (binding : Fields) : Option Endpoint :=
  match binding.get? "peer_host", binding.get? "peer_port" with
  | some (.str host), some (.int port) => some ⟨host, port⟩
  | _, _ => none

/-- `Config.endpoint`. -/
def Config.endpoint (config : Config) (obs : Observation) : Option Endpoint :=
  let route := obs.get "delivery_route"
  if (obs.raw.get? "delivery_transport").isSome then
    match obs.binding with
    | none => none
    | some binding =>
      match bindingEndpoint binding with
      | none => none
      | some endpoint => if config.ingestEndpoint route = some endpoint then some endpoint else none
  else if !route.isNone then config.ingestEndpoint route
  else if config.hasIngestEndpoints then none
  else some ⟨config.ingestHost, config.ingestPort⟩

end LiveStream.Recovery

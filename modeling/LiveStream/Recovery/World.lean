import LiveStream.Recovery.Store
import LiveStream.Support.Script

/-! The world of one agent: its database, the memory of the running process and the calls of
the executor. Every look outside takes a turn of the environment, which can let the
synchronisation thread write first and can raise an exception; without a turn the process is
killed. -/

namespace LiveStream.Recovery

open LiveStream.Support

/-- A `RESTART_FFMPEG` request for the executor. -/
structure RestartRequest where
  requestId : String
  producerId : String
  producerGeneration : Int
  reason : String
  issuedAt : Instant
  expiresAt : Instant
  ffmpegTargetIdentity : Value
  expectedFfmpegGeneration : String
  targetSnapshotId : Value
  runtimeObservationId : String
  expectedExecutorInstanceId : String
  maintenanceEvidenceStatus : Value
  projectionId : Value
  projectionSequence : Int

/-- A call of the sender with a restart request: the action and the generation it is for, the
policy of the step, what the last looks at the policy and the stop file found, and the
database at that moment. -/
structure Sent where
  request : RestartRequest
  actionId : Nat
  generationKey : String
  policy : Policy
  reread : Option Policy
  stopFile : Option Bool
  store : AgentStore

/-- What `Agent` keeps between its steps. -/
structure Memory where
  tracker : StallTracker
  recoverySamples : Nat → Option DeliverySample
  deliveryProgress : Nat → Option (DeliverySample × DeliverySample)
  lastReconcileAttempt : Option Instant
  lastSummary : String
  lastHeartbeat : Instant

def Memory.new (now : Instant) : Memory where
  tracker := .new
  recoverySamples := fun _ => none
  deliveryProgress := fun _ => none
  lastReconcileAttempt := none
  lastSummary := ""
  lastHeartbeat := now

/-- `adopted` is every policy that was ever adopted. -/
structure World where
  store : AgentStore
  memory : Memory
  reread : Option Policy
  stopFile : Option Bool
  sent : List Sent
  adopted : List Policy

/-- A write of the synchronisation thread: it was offered a signed policy, or an envelope that
it could not open. -/
inductive Sync where
  | offer (now : Instant) (candidate : Policy) (repeated : Bool)
  | reject (now : Instant) (reason : String)

def World.sync (world : World) : Sync → World
  | .offer now candidate repeated =>
    { world with
      store := world.store.offerPolicy now candidate repeated
      adopted :=
        if adoptionError world.store.policy candidate = none ∧
            world.store.policy ≠ some candidate then world.adopted ++ [candidate]
        else world.adopted }
  | .reject now reason => { world with store := world.store.append now (.policyRejected reason) }

/-- One turn of the environment: what it would answer to each kind of interaction. -/
structure Turn where
  syncs : List Sync
  raises : Option PyError
  now : Instant
  flag : Bool
  observation : Except String Observation
  network : Network
  reply : Fields
  scopes : List Fields

/-- The world after the writes of the synchronisation thread. -/
def World.synced (world : World) (turn : Turn) : World := turn.syncs.foldl World.sync world

/-- What a process of the agent does. -/
abbrev Process := Script Turn World PyError

namespace Process

open Script

/-- An interaction, unless the environment raises an exception instead. -/
def interact {α : Type} (answer : Turn → World → α × World) : Process α :=
  act fun turn world =>
    match turn.raises with
    | some error => (.raised error, world.synced turn)
    | none =>
      let answered := answer turn (world.synced turn)
      (.done answered.1, answered.2)

/-- `self.clock()`. -/
def clock : Process Instant := interact fun turn world => (turn.now, world)

/-- `self.policy()`. -/
def readPolicy (config : Config) : Process Policy :=
  interact fun _ world =>
    let policy := if config.hasCentral then world.store.policy.getD BUILTIN else BUILTIN
    (policy, { world with reread := some policy })

/-- `self.config.stop_file.exists()`. -/
def stopFileExists : Process Bool :=
  interact fun turn world => (turn.flag, { world with stopFile := some turn.flag })

/-- `self.cancelled()`. -/
def cancelled : Process Bool := interact fun turn world => (turn.flag, world)

/-- `self.cancelled() or self.config.stop_file.exists()`. -/
def stopped : Process Bool := do
  if ← cancelled then return true else stopFileExists

/-- `read_observation`, which refuses what is too old or too far ahead. -/
def readObservation (config : Config) (now : Instant) : Process (Except String Observation) :=
  interact fun turn world =>
    (match turn.observation with
      | .error why => .error why
      | .ok obs =>
        let age := seconds (now - obs.observedAt)
        if age < -1 ∨ config.observationMaxAgeSec < age then .error "OBSERVATION_STALE" else .ok obs,
      world)

/-- `self.prober.probe(endpoint)`. -/
def probe : Process Network := interact fun turn world => (turn.network, world)

/-- A query of the database. -/
def query {α : Type} (read : AgentStore → α) : Process α :=
  interact fun _ world => (read world.store, world)

/-- A transaction on the database. -/
def transact {α : Type} (change : AgentStore → AgentStore × α) : Process α :=
  interact fun _ world => ((change world.store).2, { world with store := (change world.store).1 })

/-- `self.store.audit(now, kind, payload)`. -/
def audit (now : Instant) (payload : Payload) : Process Unit :=
  transact fun store => (store.append now payload, ())

/-- The memory of the process. -/
def memory : Process Memory := do return (← get).memory

def remember (change : Memory → Memory) : Process Unit :=
  modify fun world => { world with memory := change world.memory }

/-- `self.sender(socket, request)` with a restart request, which the executor may get even if
an exception is raised. -/
def send (request : RestartRequest) (actionId : Nat) (generationKey : String) (policy : Policy) :
    Process Fields :=
  act fun turn world =>
    let before := world.synced turn
    let called : World :=
      { before with
        sent := before.sent ++ [⟨request, actionId, generationKey, policy, before.reread,
          before.stopFile, before.store⟩] }
    match turn.raises with
    | some error => (.raised error, called)
    | none => (.done turn.reply, called)

/-- Any other exchange with the executor: its status, its fences, or their reconciliation. -/
def exchange : Process Fields := interact fun turn world => (turn.reply, world)

/-- `self.unresolved_reader(socket)`. -/
def unresolvedScopes : Process (List Fields) := interact fun turn world => (turn.scopes, world)

end Process

end LiveStream.Recovery

import LiveStream.Support.Script
import LiveStream.Support.Mapping

/-! The durable session of a manual maintenance: the record in `session.json`, the disk
that keeps it, and one process that works on its copy of the record. -/

namespace LiveStream.Maintenance

open LiveStream.Support

/-- `PHASES`. -/
inductive Phase where
  | normal | preparing | awaitingSlateConfirmation | maintenance | resuming | verifying | restoring
  deriving DecidableEq

inductive EffectName where
  | quiesce | armSlate | sourceStop | sourceResume | restorePath | restoreUnits
  deriving DecidableEq

inductive Role where
  | dell | oci
  deriving DecidableEq

/-- The key of a role in a snapshot. -/
def Role.key : Role → String
  | .dell => "dell"
  | .oci => "oci"

inductive EffectResult where
  | pending | applied | outcomeUnknown
  deriving DecidableEq

/-- The action of an effect with its payload. -/
inductive Request where
  | quiesce (before ledger : Value)
  | pathPatch (before after configFingerprint : Value)
  | scaleMain (uid : Value) (before after : Int) (ledger : Value)
  | restoreUnits (restore ledger : Value)

/-- The main workload is to be scaled to 0. -/
def Request.scalesToZero : Request → Prop
  | .scaleMain _ _ after _ => after = 0
  | .quiesce _ _ | .pathPatch _ _ _ | .restoreUnits _ _ => False

/-- An entry of the effect list; its attempt is always 1. -/
structure Effect where
  name : EffectName
  role : Role
  request : Request
  result : EffectResult
  requestedAt : ℚ
  reconciledAt : Option ℚ

/-- The configuration of a run, as far as the commands use it. -/
structure Config where
  dellMachine : String
  ociMachine : String
  youtubeDestination : String
  slateFile : String
  deriving DecidableEq

/-- `stability`: since when the output is live, and the last sample. -/
structure Stability where
  since : ℚ
  sample : Value

/-- The record in `session.json`. The keys that the first record lacks are optional; a
configuration stands for its fingerprint, and a number for the session id that was drawn. -/
structure Session where
  phase : Phase
  sessionId : Option Nat
  generation : Int
  deadline : Option ℚ
  reason : Option String
  configSha : Option Config
  before : Option Value
  effects : List Effect
  history : List (ℚ × Phase)
  armedFields : Option Value
  updatedAt : Option ℚ
  slatePlayerConfirmation : Option ℚ
  livePlayerConfirmation : Option ℚ
  stability : Option Stability
  completedAt : Option ℚ

/-- What `Store.initialize` writes. -/
def Session.initial : Session where
  phase := .normal
  sessionId := none
  generation := 0
  deadline := none
  reason := none
  configSha := none
  before := none
  effects := []
  history := []
  armedFields := none
  updatedAt := none
  slatePlayerConfirmation := none
  livePlayerConfirmation := none
  stability := none
  completedAt := none

/-- `next((e for e in effects if e['name'] == name), None)`. -/
def Session.effect? (session : Session) (name : EffectName) : Option Effect :=
  session.effects.find? fun effect => effect.name = name

/-- The names of the effects, in order. -/
def Session.names (session : Session) : List EffectName := session.effects.map (·.name)

/-- Every effect of the session is APPLIED. -/
def Session.AllApplied (session : Session) : Prop :=
  ∀ effect ∈ session.effects, effect.result = .applied

instance (session : Session) : Decidable session.AllApplied :=
  inferInstanceAs (Decidable (∀ effect ∈ session.effects, effect.result = .applied))

/-- The entry with that name gets another result. -/
def Session.mark (session : Session) (name : EffectName) (result : EffectResult) : Session :=
  { session with
    effects := session.effects.map fun effect =>
      if effect.name = name then { effect with result := result } else effect }

/-- The entry of an effect with another time of reconciliation. -/
def Session.stamp (session : Session) (name : EffectName) (now : ℚ) : Session :=
  { session with
    effects := session.effects.map fun effect =>
      if effect.name = name then { effect with reconciledAt := some now } else effect }

/-- The methods of `Maintenance` that commands and other methods call. -/
inductive Method where
  | preflight | begin | advance | confirmSlate | on | off | resume | verify | check | complete
  | reconcile
  deriving DecidableEq

/-- The session file: what a reader finds, and what a power loss would leave of it. -/
structure Disk where
  visible : Session
  durable : Session

/-- What `atomic_json` does to the session file: nothing, the replacement without the
sync of the directory (`kept` if it reaches the disk all the same, and killed or raising
then), or all of it. -/
inductive Writing where
  | refused (error : PyError)
  | unsynced (kept : Bool) (error : Option PyError)
  | synced

def Disk.write (disk : Disk) (session : Session) : Writing → Disk
  | .refused _ => disk
  | .unsynced kept _ => ⟨session, if kept then session else disk.durable⟩
  | .synced => ⟨session, session⟩

/-- A call of `backend.request` with an effect, and the session file at that moment. -/
structure Dispatch where
  session : Option Nat
  effect : Effect
  disk : Disk

/-- A replacement of the session file within a method, and what the command observed
until then. -/
structure Write where
  method : Method
  samples : List Value
  before : Session
  after : Session

/-- A sample in which `applied` held for an effect. -/
structure Sighting where
  session : Option Nat
  effect : Effect
  sample : Value

/-- A store with the process that works on it, and what happened so far; `writes` and
`samples` are those of the running command. -/
structure World where
  memory : Session
  disk : Disk
  archives : List Nat
  issued : Nat
  method : Method
  dispatches : List Dispatch
  writes : List Write
  sightings : List Sighting
  samples : List Value

/-- One turn of the environment: what it would answer to each kind of interaction, and
the exception that a signal raises instead. -/
structure Turn where
  signal : Option PyError
  clock : ℚ
  snapshot : Except PyError Value
  reply : Option (Except PyError Unit)
  writing : Writing
  confirmed : Except PyError Bool

/-- What a process of the maintenance command does. -/
abbrev Process := Script Turn World PyError

namespace Process

open Script

/-- An interaction that no signal interrupts. -/
def interact {α : Type} (answer : Turn → World → Exit PyError α × World) : Process α :=
  act fun turn world =>
    match turn.signal with
    | some error => (.raised error, world)
    | none => answer turn world

/-- `self.clock()`. -/
def clock : Process ℚ := interact fun turn world => (.done turn.clock, world)

/-- `self.sleep(self.interval)`. -/
def sleep : Process Unit := interact fun _ world => (.done (), world)

/-- `self.state`. -/
def state : Process Session := do return (← get).memory

/-- A change of `self.state`. -/
def change (update : Session → Session) : Process Unit :=
  modify fun world => { world with memory := update world.memory }

/-- `raise ValueError(reason)`. -/
def fail {α : Type} (reason : String) : Process α := throw (valueError reason)

/-- `require(ok, reason)`. -/
def require (holds : Prop) [Decidable holds] (reason : String) : Process Unit :=
  if holds then return () else fail reason

/-- `require` of a condition that may raise. -/
def requireThat (check : Except PyError Bool) (reason : String) : Process Unit := do
  require ((← check) = true) reason

/-- `self.state[key]` for a key that the first record lacks. -/
def key {α : Type} (field : Session → Option α) (name : String) : Process α := do
  orReject (keyError name) (field (← state))

/-- `store.write(self.state)`. -/
def write : Process Unit :=
  interact fun turn world =>
    let written : World :=
      { world with
        disk := world.disk.write world.memory turn.writing
        writes := world.writes ++
          [⟨world.method, world.samples, world.disk.visible, world.memory⟩] }
    match turn.writing with
    | .refused error => (.raised error, world)
    | .unsynced _ (some error) => (.raised error, written)
    | .unsynced _ none => (.killed, written)
    | .synced => (.done (), written)

/-- The read-only request of `backend.snapshot`. -/
def observe : Process Value :=
  interact fun turn world =>
    match turn.snapshot with
    | .ok sample => (.done sample, { world with samples := world.samples ++ [sample] })
    | .error error => (.raised error, world)

/-- `backend.request(role, action, …)` with an effect, which may perform it or not. -/
def dispatch (effect : Effect) : Process Unit :=
  interact fun turn world =>
    let called : World :=
      { world with
        dispatches := world.dispatches ++ [⟨world.memory.sessionId, effect, world.disk⟩] }
    match turn.reply with
    | none => (.killed, called)
    | some (.ok ()) => (.done (), called)
    | some (.error error) => (.raised error, called)

/-- A sighting, for the record of what was observed. -/
def sight (effect : Effect) (sample : Value) : Process Unit :=
  modify fun world =>
    { world with sightings := world.sightings ++ [⟨world.memory.sessionId, effect, sample⟩] }

/-- `str(uuid.uuid4())`: an id that was never drawn before. -/
def uuid : Process Nat :=
  interact fun _ world => (.done world.issued, { world with issued := world.issued + 1 })

/-- The archive of the session that ended: never written over. -/
def archive (session : Nat) : Process Unit :=
  interact fun turn world =>
    if session ∈ world.archives then (.raised (valueError "existing_session_archive_preserved"), world)
    else
      let archived : World := { world with archives := session :: world.archives }
      match turn.writing with
      | .refused error => (.raised error, world)
      | .unsynced _ (some error) => (.raised error, archived)
      | .unsynced _ none => (.killed, archived)
      | .synced => (.done (), archived)

/-- The answer of the operator. -/
def confirm : Process Bool :=
  interact fun turn world =>
    match turn.confirmed with
    | .ok answer => (.done answer, world)
    | .error error => (.raised error, world)

/-- A script as the body of a method. -/
def within {α : Type} (method : Method) (body : Process α) : Process α := do
  let caller := (← get).method
  modify fun world => { world with method := method }
  let value ← body
  modify fun world => { world with method := caller }
  return value

end Process

end LiveStream.Maintenance

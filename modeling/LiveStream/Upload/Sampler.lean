import LiveStream.Upload.Samples

/-! The sampler of the upload counters. Its process dies and starts again from the file that
`sample_once` writes before it appends a row. -/

namespace LiveStream.Upload

/-- The `tcp_metrics` of an observation. What is missing or of another type is `none`. -/
structure TcpMetrics where
  bytesSent : Option ℤ
  bytesAcked : Option ℤ
  socketCookie : Option String
  deriving DecidableEq

/-- The counter file. -/
structure CounterValue where
  schemaVersion : Option String
  tcpMetrics : Option TcpMetrics
  ffmpegRunning : Bool
  managedChildCardinality : String
  localFfmpegPid : Option ℤ
  sequence : Option ℤ
  producerInstanceId : Option String
  ffmpegGeneration : Option String
  observedAt : Option String
  deriving DecidableEq

/-- A counter snapshot. -/
structure Snapshot where
  pid : ℤ
  sequence : ℤ
  producer : String
  generation : String
  connection : String
  observedAt : String
  observed : ℚ
  bytesSent : ℤ
  bytesAcked : ℤ
  readClock : ClockPoint
  counterAge : ℚ
  deriving DecidableEq

/-- A text that is there and not empty. -/
def named (text : Option String) : Option String :=
  text.filter fun text => text ≠ ""

def natural (number : Option ℤ) : Option ℤ :=
  number.filter fun number => 0 ≤ number

/-- `counter_snapshot`. -/
def counterSnapshot (stamps : Epoch) (value : CounterValue) (now : ClockPoint) :
    Except String Snapshot :=
  if value.schemaVersion ≠ some "runtime.ffmpeg_observation.v1" then .error "counter_schema_invalid"
  else
    match value.tcpMetrics with
    | none => .error "counter_unavailable"
    | some metrics =>
      if ¬ value.ffmpegRunning then .error "counter_unavailable"
      else if value.managedChildCardinality ≠ "1" then .error "counter_child_ambiguous"
      else
        match value.localFfmpegPid, value.sequence, named value.producerInstanceId,
            named value.ffmpegGeneration, named value.observedAt with
        | some pid, some sequence, some producer, some generation, some observedAt =>
          if pid ≤ 1 ∨ sequence ≤ 0 then .error "counter_identity_invalid"
          else
            match epoch stamps observedAt with
            | .error reason => .error reason
            | .ok stamp =>
              let age := now.wall - stamp
              if ¬ (0 ≤ age ∧ age ≤ 3) then .error "counter_timestamp_invalid"
              else
                match natural metrics.bytesSent, natural metrics.bytesAcked,
                    named metrics.socketCookie with
                | some sent, some acked, some cookie =>
                  .ok ⟨pid, sequence, producer, generation, cookie, observedAt, stamp, sent, acked,
                    now, age⟩
                | some _, some _, none => .error "counter_connection_invalid"
                | _, _, _ => .error "counter_invalid"
        | _, _, _, _, _ => .error "counter_identity_invalid"

/-- The two cursors and the epoch, which `reset` sets together. -/
structure Cursor where
  anchor : Snapshot
  seen : Snapshot
  measurementEpoch : ℕ
  deriving DecidableEq

/-- `Sampler.state`. -/
structure SamplerState where
  identity : HostIdentity
  cursor : Option Cursor := none
  deriving DecidableEq

/-- A `Sampler`. -/
structure Sampler where
  host : String
  state : SamplerState
  deriving DecidableEq

def Sampler.load (saved : Option SamplerState) (identity : HostIdentity) (host : String) : Sampler :=
  match saved with
  | none => ⟨host, { identity }⟩
  | some state => ⟨host, if state.identity = identity then state else { identity }⟩

def Sampler.move (sampler : Sampler) (cursor : Cursor) : Sampler :=
  { sampler with state := { sampler.state with cursor := some cursor } }

def Sampler.reset (sampler : Sampler) (current : Snapshot) (token : ℕ) : Sampler :=
  sampler.move ⟨current, current, token⟩

/-- The fields that name a connection. -/
def same (left right : Snapshot) : Prop :=
  left.pid = right.pid ∧ left.producer = right.producer ∧ left.generation = right.generation ∧
    left.connection = right.connection

instance (left right : Snapshot) : Decidable (same left right) :=
  inferInstanceAs (Decidable (_ ∧ _ ∧ _ ∧ _))

def stepLimit : ℚ := 1 / 20

/-- The row between the anchor and a snapshot. -/
def Sampler.row (sampler : Sampler) (cursor : Cursor) (current : Snapshot) (now : ClockPoint) : Sample :=
  let duration := current.observed - cursor.anchor.observed
  let delta := current.bytesSent - cursor.anchor.bytesSent
  { sourceMachine := sampler.state.identity.machineIdSha256
    sourceBoot := sampler.state.identity.bootId
    sourceHost := sampler.host
    sourceMono := now.mono
    sourceCounterAgeSec := current.counterAge
    sourceTsUtc := current.observedAt
    producerInstanceId := current.producer
    ffmpegGeneration := current.generation
    ffmpegPid := current.pid
    connectionId := current.connection
    measurementEpoch := cursor.measurementEpoch
    sequenceStart := cursor.anchor.sequence
    sequenceEnd := current.sequence
    sampleStartObservedAt := cursor.anchor.observedAt
    sampleEndObservedAt := current.observedAt
    bytesSent := current.bytesSent
    bytesSentDelta := delta
    bytesAcked := current.bytesAcked
    sampleIntervalSec := duration
    mbps := rate delta duration }

/-- What makes `step` start over before it looks at the sequence. -/
def broken (cursor : Cursor) (current : Snapshot) (now : ClockPoint) : Prop :=
  let elapsed := now.mono - cursor.seen.readClock.mono
  let wallElapsed := now.wall - cursor.seen.readClock.wall
  ¬ same current cursor.seen ∨ ¬ same current cursor.anchor ∨
    ¬ (0 < elapsed ∧ elapsed ≤ freshSeconds) ∨ stepLimit < |wallElapsed - elapsed| ∨
    current.bytesSent < cursor.seen.bytesSent ∨ current.sequence < cursor.seen.sequence

instance (cursor : Cursor) (current : Snapshot) (now : ClockPoint) :
    Decidable (broken cursor current now) :=
  inferInstanceAs (Decidable (_ ∨ _ ∨ _ ∨ _ ∨ _ ∨ _))

/-- `step` for a new snapshot, with the token that a reset draws. -/
def Sampler.advance (stamps : Epoch) (sampler : Sampler) (current : Snapshot) (now : ClockPoint)
    (token : ℕ) : Sampler × Except String (Option Sample) :=
  match sampler.state.cursor with
  | none => (sampler.reset current token, .ok none)
  | some cursor =>
    if broken cursor current now then (sampler.reset current token, .ok none)
    else if current.sequence = cursor.seen.sequence then (sampler, .ok none)
    else
      let elapsed := now.mono - cursor.seen.readClock.mono
      let sourceElapsed := current.observed - cursor.seen.observed
      if sourceElapsed ≤ 0 ∨ 6 < |sourceElapsed - elapsed| then
        (sampler.reset current token, .ok none)
      else
        let duration := current.observed - cursor.anchor.observed
        let seen := sampler.move { cursor with seen := current }
        if duration < 60 then (seen, .ok none)
        else if freshSeconds < duration then (sampler.reset current token, .ok none)
        else if current.bytesSent - cursor.anchor.bytesSent < 0 then
          (sampler.reset current token, .ok none)
        else
          let row := sampler.row cursor current now
          -- a row that is not valid raises with the snapshot already seen
          match validateSample stamps row sampler.state.identity.machineIdSha256 with
          | .error reason => (seen, .error reason)
          | .ok _ => (sampler.move { cursor with anchor := current, seen := current }, .ok (some row))

/-- `Sampler.step`. -/
def Sampler.step (stamps : Epoch) (sampler : Sampler) (value : CounterValue) (now : ClockPoint)
    (token : ℕ) : Sampler × Except String (Option Sample) :=
  match counterSnapshot stamps value now with
  | .error reason => (sampler, .error reason)
  | .ok current => sampler.advance stamps current now token

/-- A snapshot that the sampler took up, with its epoch. -/
structure Accepted where
  measurementEpoch : ℕ
  snapshot : Snapshot
  deriving DecidableEq

/-- A snapshot that was read under a boot. -/
structure Sighting where
  boot : String
  snapshot : Snapshot
  deriving DecidableEq

/-- The directory and the process. The snapshots taken up are kept with the state that knows them,
and those that were read at all: no code reads either. -/
structure World where
  disk : Option SamplerState := none
  diskTrail : List Accepted := []
  process : Option Sampler := none
  trail : List Accepted := []
  journal : List Sample := []
  drawn : ℕ := 0
  readings : List Sighting := []
  deriving DecidableEq

/-- `write_json` of the state. -/
def World.persist (world : World) (sampler : Sampler) (write : Write) : World :=
  let world := { world with process := some sampler }
  let world := if write.done then
    { world with disk := some sampler.state, diskTrail := world.trail } else world
  match write with
  | .dies _ => { world with process := none }
  | _ => world

/-- `append_sample`. -/
def World.append (world : World) (row : Sample) (write : Write) : World :=
  let world := if write.done then { world with journal := world.journal ++ [row] } else world
  match write with
  | .dies _ => { world with process := none }
  | _ => world

/-- How the writes of a `sample_once` go. -/
structure Faults where
  first : Write := .succeeds
  append : Write := .succeeds
  last : Write := .succeeds
  deriving DecidableEq

/-- What `sample_once` does once the step is made. -/
def World.commit (world : World) (sampler : Sampler) (outcome : Except String (Option Sample))
    (faults : Faults) : World :=
  match outcome with
  | .error _ => world.persist sampler faults.last
  | .ok row =>
    let world := world.persist sampler faults.first
    match faults.first with
    | .dies _ => world
    | .raises _ => world.persist sampler faults.last
    | .succeeds =>
      match row with
      | none => world.persist sampler faults.last
      | some row =>
        let world := world.append row faults.append
        match faults.append with
        | .dies _ => world
        | _ => world.persist sampler faults.last

/-- The trail with the snapshot that a step took up. -/
def extendTrail (trail : List Accepted) (before after : Option Cursor) : List Accepted :=
  match after with
  | none => trail
  | some cursor =>
    if before = some cursor then trail else trail ++ [⟨cursor.measurementEpoch, cursor.seen⟩]

/-- `sample_once`, with the counter file that is read, or not. -/
def World.sampleOnce (stamps : Epoch) (world : World) (sampler : Sampler)
    (value : Option CounterValue) (now : ClockPoint) (faults : Faults) : World :=
  match value with
  | none => world.persist sampler faults.last
  | some value =>
    let (after, outcome) := sampler.step stamps value now world.drawn
    let world := { world with
      drawn := world.drawn + 1
      trail := extendTrail world.trail sampler.state.cursor after.state.cursor
      readings := world.readings ++
        ((counterSnapshot stamps value now).toOption.map
          (Sighting.mk sampler.state.identity.bootId)).toList }
    world.commit after outcome faults

inductive SamplerEvent where
  | start (identity : HostIdentity) (host : String)
  | sample (value : Option CounterValue) (now : ClockPoint) (faults : Faults)
  | stop
  deriving DecidableEq

/-- A second process is refused by the lock. -/
def World.step (stamps : Epoch) (world : World) (event : SamplerEvent) : World × Unit :=
  match event, world.process with
  | .start identity host, none =>
    ({ world with
      process := some (Sampler.load world.disk identity host)
      trail := world.diskTrail }, ())
  | .sample value now faults, some sampler =>
    (world.sampleOnce stamps sampler value now faults, ())
  | .stop, some _ => ({ world with process := none }, ())
  | _, _ => (world, ())

end LiveStream.Upload

import LiveStream.Support.Mapping
import LiveStream.Support.Rows
import LiveStream.Twitch.Session

/-! The owner of the daily renewal: a journal of the state and of the commands, and a process that
observes the relay, decides, and dispatches each command once. -/

namespace LiveStream.Twitch

open LiveStream.Support

/-! ### The forward list -/

inductive Provider where
  | youtube | twitch
  deriving DecidableEq

/-- `provider`, as far as the parts of an address decide it; `none` where it raises. -/
abbrev Providers := Fields → Option Provider

/-- `twitch_forward_update`, after the provider of the first entry. -/
def twitchForwardUpdate (provider : Providers) (current : List Fields) (destination : Fields)
    (action : Action) : Except String (List Fields) :=
  match current with
  | [] => .error "TWITCH_FORWARD_ORDER_OR_PROVIDER_INVALID"
  | youtube :: rest => do
    rejectIf (1 < rest.length) "TWITCH_FORWARD_ORDER_OR_PROVIDER_INVALID"
    let first ← orReject "TWITCH_FORWARD_CONFIG_INVALID" (provider youtube)
    rejectIf (first ≠ .youtube) "TWITCH_FORWARD_ORDER_OR_PROVIDER_INVALID"
    let own ← orReject "TWITCH_FORWARD_CONFIG_INVALID" (provider destination)
    rejectIf (own ≠ .twitch) "TWITCH_FORWARD_ORDER_OR_PROVIDER_INVALID"
    rejectIf (rest.any fun other => provider other = none) "TWITCH_FORWARD_CONFIG_INVALID"
    rejectIf (rest.any fun other => provider other ≠ some .twitch ∨ ¬ (Value.dict other).same (.dict destination))
      "TWITCH_FORWARD_DESTINATION_DRIFT"
    return youtube :: if action = .startTwitch then [destination] else []

/-- An entry as it is sent: without an empty `moqTransport`. -/
def wire (entry : Fields) : Fields :=
  entry.filter fun field => ¬ (field.1 = "moqTransport" ∧ field.2.isText "")

/-! ### What the relay shows -/

structure Approval where
  broadcasterId : String
  relayInstance : String
  routeGeneration : Int
  authorityEpochId : Int
  forward : List Fields
  pathConfigurationSha256 : String
  youtubeHandlerId : String
  youtubeHandlerCreated : String
  twitchHandlerId : Option String

/-- What `bound` returns of the status of the guard. -/
structure GuardStatus where
  twitchDisabled : Bool
  leaseElapsedDeadline : ℚ

/-- A row of the forward destinations. -/
structure Handler where
  pos : Int
  id : String
  created : String
  state : String
  lastError : Bool
  outboundBytes : Int

/-- The answers to a call of `observe`: each read returns, or raises under a name. -/
structure Answers where
  bound : Except String GuardStatus
  forward : Except String (List Fields)
  pathConfigurationSha256 : String
  rows : Except String (List Handler)

/-- What a `Relay` keeps between its observations. -/
structure Relay where
  youtubeLast : Int
  lastYtProgress : ℚ
  twLast : Int
  lastTwProgress : ℚ

def Relay.initial : Relay := ⟨0, 0, 0, 0⟩

/-- What `observe` returns of an observation: the guard and the handler of Twitch. -/
structure Seen where
  guard : GuardStatus
  twitch : Option Handler

/-- Equality of two forward lists. -/
def sameForward (left right : List Fields) : Bool :=
  (Value.list (left.map .dict)).same (.list (right.map .dict))

variable (approval : Approval)

def observe (relay : Relay) (elapsed : ℚ) (answers : Answers) : Except String (Relay × Seen) := do
  let guard ← answers.bound
  let forward ← answers.forward
  rejectIf (¬ sameForward forward approval.forward ∧ ¬ sameForward forward (approval.forward.take 1))
    "DAILY_DESTINATION_CONFIG_DRIFT"
  rejectIf (answers.pathConfigurationSha256 ≠ approval.pathConfigurationSha256) "DAILY_PATH_CONFIGURATION_DRIFT"
  let rows ← answers.rows
  rejectIf (¬ (rows.map Handler.pos).Nodup ∨ ¬ rows.all fun row => row.pos = 1 ∨ row.pos = 2)
    "DAILY_FORWARD_POSITION_INVALID"
  let youtube ← orReject "DAILY_YOUTUBE_NOT_FORWARDING" (rows.find? fun row => row.pos = 1)
  rejectIf (youtube.state ≠ "forwarding" ∨ youtube.lastError = true) "DAILY_YOUTUBE_NOT_FORWARDING"
  rejectIf (youtube.id ≠ approval.youtubeHandlerId ∨ youtube.created ≠ approval.youtubeHandlerCreated)
    "DAILY_YOUTUBE_HANDLER_CHANGED"
  rejectIf (youtube.outboundBytes < relay.youtubeLast) "DAILY_YOUTUBE_COUNTER_REGRESSED"
  let progress := if relay.youtubeLast < youtube.outboundBytes then elapsed else relay.lastYtProgress
  rejectIf (4 < elapsed - progress) "DAILY_YOUTUBE_PROGRESS_STALE"
  let twitch := rows.find? fun row => row.pos = 2
  let moved := twitch.any fun row => relay.twLast < row.outboundBytes
  return ({
    youtubeLast := youtube.outboundBytes
    lastYtProgress := progress
    twLast := (twitch.map Handler.outboundBytes).getD 0
    lastTwProgress := if moved then elapsed else relay.lastTwProgress }, ⟨guard, twitch⟩)

/-! ### The journal -/

inductive RowPhase where
  | pending | dispatching | observed
  deriving DecidableEq

/-- A row of the outbox. -/
structure Row where
  requestId : RequestId
  command : Command
  phase : RowPhase
  attempts : Nat
  outcome : Option Outcome
  deriving DecidableEq

structure Writer where
  generation : Int
  handlerId : Option String
  legacyQuiesced : Bool

structure Journal where
  state : RenewalState
  outbox : List Row
  writer : Writer

def Journal.initial : Journal := ⟨.initial, [], ⟨1, approval.twitchHandlerId, false⟩⟩

/-- A row that is about to be dispatched. -/
def Row.isUntried (requestId : RequestId) (row : Row) : Bool :=
  row.requestId = requestId ∧ row.phase = .pending ∧ row.attempts = 0

/-- A row that was dispatched. -/
def Row.isTried (requestId : RequestId) (row : Row) : Bool :=
  row.requestId = requestId ∧ row.phase = .dispatching ∧ row.attempts = 1

def Row.dispatched (row : Row) : Row := { row with phase := .dispatching, attempts := 1 }

def Row.finished (outcome : Outcome) (row : Row) : Row := { row with phase := .observed, outcome := some outcome }

namespace Journal

variable (journal : Journal)

/-- `pending() != 0`. -/
def isPending : Bool := journal.outbox.any fun row => row.phase ≠ .observed

def commit (old new : RenewalState) (command : Option Command) : Except String Journal := do
  rejectIf (journal.state.revision ≠ old.revision) "DAILY_STATE_CAS_FAILED"
  match command with
  | none => return { journal with state := new }
  | some command =>
    rejectIf (journal.outbox.any fun row => row.requestId = command.requestId) "IntegrityError"
    return { journal with
      state := new
      outbox := journal.outbox ++ [⟨command.requestId, command, .pending, 0, none⟩] }

def dispatchOnce (command : Command) : Except String Journal := do
  rejectIf ((journal.outbox.filter (Row.isUntried command.requestId)).length ≠ 1) "DAILY_EFFECT_REPLAY_BLOCKED"
  return { journal with
    outbox := updateWhere (Row.isUntried command.requestId) Row.dispatched journal.outbox }

def finish (command : Command) (outcome : Outcome) (handlerId : Option String) : Except String Journal := do
  rejectIf ((journal.outbox.filter (Row.isTried command.requestId)).length ≠ 1) "DAILY_OUTCOME_CAS_FAILED"
  let outbox := updateWhere (Row.isTried command.requestId) (Row.finished outcome) journal.outbox
  if command.action = .startTwitch then
    let handler ← orReject "DAILY_NEW_WRITER_ID_REQUIRED" (handlerId.filter (· ≠ ""))
    return { journal with
      outbox := outbox
      writer := { journal.writer with
        generation := command.binding.writerGeneration + 1, handlerId := some handler } }
  else return { journal with outbox := outbox, writer := { journal.writer with legacyQuiesced := true } }

/-- The outcome in the journal of the command that a state waits for. -/
def outcome (state : RenewalState) : Option Outcome :=
  state.operation.bind fun operation =>
    let action := if state.phase = .waitStop then Action.stopTwitch else .startTwitch
    (journal.outbox.find? fun row => row.requestId = .renewal operation action).bind Row.outcome

end Journal

/-- How a transaction ends: it is durable, or it raises without or with an effect. -/
inductive Save where
  | kept | lost | replaced
  deriving DecidableEq

/-- The journal after a transaction, and whether it returned. -/
def transact (journal : Journal) (result : Except String Journal) (save : Save) : Journal × Except String Unit :=
  match result with
  | .error reason => (journal, .error reason)
  | .ok after =>
    match save with
    | .kept => (after, .ok ())
    | .lost => (journal, .error "OperationalError")
    | .replaced => (after, .error "OperationalError")

/-! ### The process -/

/-- Where a process stands: what it does next. `fault` marks the stop after a failure. -/
inductive Stage where
  | top
  | deciding (tick : Tick)
  | dispatching (command : Command) (fault : Bool)
  | changing (command : Command) (fault : Bool)
  | failed (known : String)

structure Process where
  exercise : Bool
  state : RenewalState
  facts : BroadcastFacts
  lastSave : ℚ
  pending : Option Command
  dispatchStarted : ℚ
  relay : Relay
  now : Clock
  stage : Stage

/-- A call of `relay.change`, with the list that it patched. -/
structure Change where
  command : Command
  patch : Option (List Fields)

/-- A state directory. `adopted` holds the ticks whose decisions were committed. -/
structure World where
  journal : Journal
  process : Option Process
  history : List Change
  adopted : List Tick

def World.initial : World := ⟨.initial approval, none, [], []⟩

/-- The clocks of a boot. -/
structure Instant where
  utc : ℚ
  elapsedSeconds : ℚ

/-- A poll of the provider, with the observation after it. -/
structure Poll where
  facts : BroadcastFacts
  now : Instant
  answers : Answers

/-- What a round of the loop is shown. -/
structure Look where
  now : Instant
  answers : Answers
  polled : Option Poll
  validated : Bool

inductive Event where
  /-- A process starts on a boot; `validated` tells whether an exercise has its grant. -/
  | boot (bootId : String) (exercise validated : Bool) (facts : BroadcastFacts)
  | look (look : Look) (save : Save)
  | decide (save : Save)
  | dispatch (save : Save)
  /-- `relay.change`: what it observes and reads again, and whether the patch returns. -/
  | change (answers : Answers) (again : Except String GuardStatus) (returned : Bool)
  /-- Something else raises in a round. -/
  | raise (known : String)
  /-- The handler of the exception. -/
  | fault (answers : Answers) (save : Save)
  | exit

section Rounds

variable (process : Process)

/-- `Clock(now, elapsed, boot)`. -/
def Process.clock (now : Instant) : Clock := ⟨now.utc, now.elapsedSeconds, process.now.bootId⟩

/-- The observations of a round. -/
def Process.sees (look : Look) : Except String (Process × Seen) := do
  let (relay, seen) ← observe approval process.relay look.now.elapsedSeconds look.answers
  match look.polled with
  | none => return ({ process with relay := relay, now := process.clock look.now }, seen)
  | some poll =>
    let (relay, seen) ← observe approval relay poll.now.elapsedSeconds poll.answers
    return ({ process with relay := relay, now := process.clock poll.now, facts := poll.facts }, seen)

/-- The checks of a round on the writer of Twitch. -/
def Process.checks (writer : Writer) (seen : Seen) : Except String Unit := do
  let tracking := process.state.phase = .tracking
  rejectIf (tracking ∧ seen.guard.twitchDisabled = true ∧ writer.legacyQuiesced = false)
    "LEGACY_TWITCH_FAILURE_NOT_MAINTENANCE"
  rejectIf (tracking ∧ seen.twitch.isNone) "TWITCH_WRITER_MISSING_OUTSIDE_MAINTENANCE"
  rejectIf (tracking ∧ seen.twitch.any fun twitch =>
      writer.handlerId.any fun expected => expected ≠ "" ∧ twitch.id ≠ expected)
    "TWITCH_WRITER_CHANGED_OUTSIDE_MAINTENANCE"
  rejectIf (tracking ∧ writer.legacyQuiesced = true ∧
      15 < process.now.elapsedSeconds - process.relay.lastTwProgress) "TWITCH_FORWARD_PROGRESS_STALE"
  rejectIf (seen.twitch.any Handler.lastError) "TWITCH_FORWARD_ERROR"

def Process.writerStatus (seen : Seen) : WriterStatus :=
  match seen.twitch with
  | some twitch => if twitch.state = "forwarding" ∧ twitch.lastError = false then .running else .unknown
  | none => if seen.guard.twitchDisabled then .stopped else .unknown

def Process.writerFacts (writer : Writer) (seen : Seen) : WriterFacts where
  observedAt := process.now.utc
  relayInstanceId := approval.relayInstance
  generation :=
    match process.state.binding with
    | none => writer.generation
    | some binding =>
      if process.state.phase ∈ [.waitStart, .verifying] ∧ seen.twitch.isSome then binding.writerGeneration + 1
      else writer.generation
  status := Process.writerStatus seen
  progressAgeSeconds :=
    if Process.writerStatus seen = .running then
      some (process.now.elapsedSeconds - process.relay.lastTwProgress)
    else none

/-- What `advance` is given. -/
def Process.tick (writer : Writer) (seen : Seen) (outcome : Option Outcome) (validated : Bool) : Tick where
  now := process.now
  context := ⟨approval.broadcasterId, "PRIMARY", approval.routeGeneration, approval.authorityEpochId,
    approval.relayInstance, process.now.bootId, some seen.guard.leaseElapsedDeadline, true, true, true, false⟩
  broadcast := process.facts
  writer := process.writerFacts approval writer seen
  outcome := outcome
  validationAuthorized := process.exercise && process.state.phase = .tracking && validated

/-- The writer facts confirm a command that is pending. -/
def confirms (command : Command) (writer : WriterFacts) : Bool :=
  if command.action = .stopTwitch then writer.status = .stopped
  else writer.status = .running ∧ writer.progressAgeSeconds.any (· < 2)

/-- The outcome that a process observes itself. -/
def Command.outcome (command : Command) (utc : ℚ) : Outcome :=
  ⟨command.action, command.requestId, command.binding,
    if command.action = .stopTwitch then .stopped else .started, utc⟩

end Rounds

namespace World

variable (policy : RenewalPolicy) (provider : Providers) (world : World) (process : Process)

def goto (stage : Stage) : World := { world with process := some { process with stage := stage } }

/-- A round up to its decision, with the outcome of a pending command when it is observed. -/
def look (look : Look) (save : Save) : World :=
  match process.sees approval look with
  | .error known => world.goto process (.failed known)
  | .ok (process, seen) =>
    match process.checks world.journal.writer seen with
    | .error known => world.goto process (.failed known)
    | .ok _ =>
      let tick := process.tick approval world.journal.writer seen (world.journal.outcome process.state) look.validated
      match process.pending with
      | none => world.goto process (.deciding tick)
      | some command =>
        if confirms command tick.writer then
          let outcome := command.outcome process.now.utc
          let (journal, returned) := transact world.journal
            (world.journal.finish command outcome (seen.twitch.map Handler.id)) save
          match returned with
          | .error known => { world with journal := journal }.goto process (.failed known)
          | .ok _ =>
            { world with journal := journal }.goto { process with pending := none }
              (.deciding { tick with outcome := some outcome })
        else if 15 < process.now.elapsedSeconds - process.dispatchStarted then
          world.goto process (.failed "TWITCH_PHYSICAL_OUTCOME_UNKNOWN")
        else world.goto process (.deciding tick)

/-- What follows a decision. -/
def settled (decision : Decision) : World :=
  match decision.command with
  | some command => world.goto process (.dispatching command false)
  | none =>
    if decision.status = .renewed ∧ process.exercise then { world with process := none }
    else if decision.state.phase = .unknown ∨ decision.state.phase = .cancelled then
      world.goto process (.failed decision.reason)
    else world.goto process .top

/-- The decision of a round, committed when it changes something or a minute has passed. -/
def decide (tick : Tick) (save : Save) : World :=
  if process.state.phase = .tracking ∧
      (process.facts.status ≠ .live ∨ 60 < process.now.utc - process.facts.observedAt) then
    world.goto process .top
  else
    let decision := advance policy process.state tick
    if decision.state.phase ≠ process.state.phase ∨ decision.command.isSome ∨ decision.status = .renewed ∨
        60 ≤ process.now.elapsedSeconds - process.lastSave then
      let result := world.journal.commit process.state decision.state decision.command
      let (journal, returned) := transact world.journal result save
      let adopted := if result.isOk ∧ save ≠ .lost then world.adopted ++ [tick] else world.adopted
      let world := { world with journal := journal, adopted := adopted }
      match returned with
      | .error known => world.goto process (.failed known)
      | .ok _ =>
        world.settled { process with state := decision.state, lastSave := process.now.elapsedSeconds } decision
    else world.settled process decision

/-- Where an exception leads: to the handler, or out of it. -/
def raised (fault : Bool) (known : String) : World :=
  if fault then { world with process := none } else world.goto process (.failed known)

def dispatch (command : Command) (fault : Bool) (save : Save) : World :=
  let (journal, returned) := transact world.journal (world.journal.dispatchOnce command) save
  let world := { world with journal := journal }
  match returned with
  | .error known => world.raised process fault known
  | .ok _ => world.goto process (.changing command fault)

def noted (change : Change) : World := { world with history := world.history ++ [change] }

/-- The list that `relay.change` patches. -/
def patch (command : Command) (answers : Answers) (again : Except String GuardStatus) :
    Except String (List Fields) := do
  let _ ← observe approval process.relay process.now.elapsedSeconds answers
  let _ ← again
  let destination ← orReject "IndexError" (approval.forward[1]?)
  let list ← twitchForwardUpdate provider approval.forward destination command.action
  return list.map wire

def change (command : Command) (fault : Bool) (answers : Answers) (again : Except String GuardStatus)
    (returned : Bool) : World :=
  match patch approval provider process command answers again with
  | .error known => (world.noted ⟨command, none⟩).raised process fault known
  | .ok list =>
    let world := world.noted ⟨command, some list⟩
    if returned then
      if fault then { world with process := none }
      else world.goto { process with
        pending := some command, dispatchStarted := process.now.elapsedSeconds } .top
    else world.raised process fault "URLError"

/-- The stop of Twitch after a failure. -/
def faultStop (handler : Handler) : Command :=
  ⟨.stopTwitch, .faultStop approval.relayInstance handler.id,
    ⟨approval.broadcasterId, approval.routeGeneration, approval.authorityEpochId, approval.relayInstance,
      process.now.bootId, world.journal.writer.generation⟩⟩

/-- The handler of an exception: it may stop Twitch, and the process ends. -/
def fault (known : String) (answers : Answers) (save : Save) : World :=
  let ended := { world with process := none }
  if (known.startsWith "TWITCH_FORWARD_" ∨ known.startsWith "TWITCH_PHYSICAL_") ∧
      world.journal.writer.legacyQuiesced = true then
    match observe approval process.relay process.now.elapsedSeconds answers with
    | .error _ => ended
    | .ok (relay, seen) =>
      match seen.twitch with
      | none => ended
      | some handler =>
        let command := world.faultStop approval process handler
        let state := { process.state with revision := process.state.revision + 1, phase := .unknown }
        let (journal, returned) := transact world.journal
          (world.journal.commit process.state state (some command)) save
        match returned with
        | .error _ => { ended with journal := journal }
        | .ok _ => { world with journal := journal }.goto { process with relay := relay, state := state }
            (.dispatching command true)
  else ended

/-- A process that starts: not with a command whose outcome is unknown, nor on another boot. -/
def boot (bootId : String) (exercise validated : Bool) (facts : BroadcastFacts) : World :=
  if world.journal.isPending then world
  else if world.journal.state.lastClock.any fun clock => clock.bootId ≠ bootId then world
  else if exercise ∧ validated = false then world
  else { world with process := some ⟨exercise, world.journal.state, facts, 0, none, 0, .initial,
    ⟨facts.observedAt, 0, bootId⟩, .top⟩ }

def act (event : Event) : World :=
  match process.stage, event with
  | _, .exit => { world with process := none }
  | .top, .look look save => world.look approval process look save
  | .top, .raise known => world.goto process (.failed known)
  | .deciding tick, .decide save => world.decide policy process tick save
  | .dispatching command fault, .dispatch save => world.dispatch process command fault save
  | .changing command fault, .change answers again returned =>
    world.change approval provider process command fault answers again returned
  | .failed known, .fault answers save => world.fault approval process known answers save
  | _, _ => world

def step (event : Event) : World :=
  match world.process with
  | some process => world.act approval policy provider process event
  | none =>
    match event with
    | .boot bootId exercise validated facts => world.boot bootId exercise validated facts
    | _ => world

def run (events : List Event) : World := events.foldl (step approval policy provider) (.initial approval)

end World

end LiveStream.Twitch

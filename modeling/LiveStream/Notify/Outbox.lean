import LiveStream.Support.Keyed
import LiveStream.Support.Script
import LiveStream.Support.Value

/-! The notification outbox: one file of JSON lines that is read and rewritten whole by every
delivery and every flush, with a dead-letter file and an event log beside it. -/

namespace LiveStream.Notify

open LiveStream.Support

/-- A row of the outbox; an empty `messageId` or `route` stands for one that is missing. -/
structure Row where
  messageId : String
  phase : String
  incidentIds : List (Option String)
  content : String
  username : String
  route : String
  status : String
  attempts : Int
  createdTs : Int
  updatedTs : Int
  lastError : String
  forceFallback : Bool
  deriving DecidableEq

def DEFAULT_ROUTE : String := "discord"

/-- `notify_route`. -/
def Row.notifyRoute (row : Row) : String := if row.route = "" then DEFAULT_ROUTE else row.route

/-- An incident as a message carries it. -/
structure Incident where
  id : Option String
  firstSeenTs : Option Int
  observedTs : Option Int
  recoveredTs : Option Int

/-- `(phase, incidents, content)`. -/
structure Message where
  phase : String
  incidents : List Incident
  content : String

/-- A record of the dead-letter file. -/
structure DeadLetter where
  row : Row
  disposition : String
  archivedTs : Int

/-- A record of the event log, without the texts of its times. -/
structure Event where
  ts : Int
  phase : String
  incidentIds : List (Option String)
  enabled : Bool
  route : String
  message : String
  messageId : String
  fromOutbox : Bool
  outboxAttempt : Int
  queuedTs : Int
  fallbackFrom : Option String
  sendOk : Bool
  sendReason : String

/-- What the caller is told about a message. -/
structure Receipt where
  phase : String
  incidentIds : List (Option String)
  route : String
  fallbackFrom : Option String
  disposition : Option String

/-- What happened to messages, in order: the file was rewritten, a message was handed to a
sender with this outcome, or a dead-letter record was appended for it. -/
inductive Entry where
  | saved (rows : List Row)
  | handed (row : Row) (fallback : Bool) (ok : Bool)
  | deadLettered (messageId : String)

/-- The files, what the caller was told, and what happened. -/
structure Files where
  outbox : Option (List Row)
  deadLetters : List DeadLetter
  events : List Event
  acknowledged : List Receipt
  log : List Entry

def Files.empty : Files := ⟨none, [], [], [], []⟩

/-- What one touch of the outside meets: whether reading the outbox fails, whether writing a
file fails, and the answer of a sender. -/
structure Turn where
  reading : Except PyError Unit
  writing : Except PyError Unit
  sending : Except PyError (Bool × String)

abbrev Delivery := Script Turn Files PyError

/-- The characters that `splitlines` splits at and that JSON texts keep as they are. -/
def splitsLines (c : Char) : Bool := c.toNat = 133 || c.toNat = 8232 || c.toNat = 8233

def cutsLine (text : String) : Bool := text.toList.any splitsLines

/-- The line of the row is cut when it is read. -/
def Row.cut (row : Row) : Bool :=
  ([row.messageId, row.phase, row.content, row.username, row.route, row.status, row.lastError] ++
    row.incidentIds.reduceOption).any cutsLine

section File

-- The rows that are read from the pieces of a line that is cut.
variable (pieces : Row → List Row)

/-- The rows that the line of a row gives. -/
def Row.readBack (row : Row) : List Row := if row.cut then pieces row else [row]

/-- `load_notify_outbox`. -/
def loadNotifyOutbox : Delivery (List Row) :=
  Script.act fun turn files =>
    match files.outbox, turn.reading with
    | none, _ => (.done [], files)
    | some rows, .ok _ =>
      (.done ((rows.flatMap (Row.readBack pieces)).filter fun row => row.status = "pending"), files)
    | some _, .error error => if error.kind = .os then (.done [], files) else (.raised error, files)

/-- `save_notify_outbox`: the file is replaced by a new one. -/
def saveNotifyOutbox (rows : List Row) : Delivery Unit :=
  Script.act fun turn files =>
    match turn.writing with
    | .ok _ => (.done (), { files with outbox := some rows, log := files.log ++ [.saved rows] })
    | .error error => (.raised error, files)

def appendDeadLetter (record : DeadLetter) : Delivery Unit :=
  Script.act fun turn files =>
    match turn.writing with
    | .ok _ =>
      (.done (), { files with
        deadLetters := files.deadLetters ++ [record]
        log := files.log ++ [.deadLettered record.row.messageId] })
    | .error error => (.raised error, files)

def appendEvent (event : Event) : Delivery Unit :=
  Script.act fun turn files =>
    match turn.writing with
    | .ok _ => (.done (), { files with events := files.events ++ [event] })
    | .error error => (.raised error, files)

def acknowledge (receipt : Receipt) : Delivery Unit :=
  Script.modify fun files => { files with acknowledged := files.acknowledged ++ [receipt] }

end File

/-- `a or default` of a number. -/
def orElse (number default : Int) : Int := if number = 0 then default else number

/-- `min(…, default=…)`. -/
def minOr (numbers : List Int) (default : Int) : Int := numbers.min?.getD default

def maxOr (numbers : List Int) (default : Int) : Int := numbers.max?.getD default

/-- `",".join(sorted(…))` of the ids that there are. -/
def joinedIds (incidents : List Incident) : String :=
  String.intercalate ","
    (((incidents.map (·.id)).reduceOption.filter (· ≠ "")).insertionSort (· ≤ ·))

/-- `notify_message_id`. -/
def notifyMessageId (phase : String) (incidents : List Incident) (nowTs : Int) (route : String) :
    String :=
  let ids := joinedIds incidents
  let base :=
    if phase = "status" then "status|" ++ ids
    else if phase = "detected" then
      let firstSeen := minOr (incidents.map fun item =>
        orElse (item.firstSeenTs.getD (item.observedTs.getD nowTs)) nowTs) nowTs
      "detected|" ++ ids ++ "|" ++ toString firstSeen
    else if phase = "recovered" then
      let recoveredTs := maxOr (incidents.map fun item =>
        orElse (item.recoveredTs.getD nowTs) nowTs) nowTs
      "recovered|" ++ ids ++ "|" ++ toString recoveredTs
    else if ["restart_observed", "recovery_unconfirmed", "auto_recovered", "planned_rollout"].contains phase then
      let eventTs := maxOr (incidents.map fun item =>
        orElse (item.observedTs.getD nowTs) nowTs) nowTs
      phase ++ "|" ++ ids ++ "|" ++ toString eventTs
    else phase ++ "|" ++ ids ++ "|" ++ toString nowTs
  if route = DEFAULT_ROUTE then base else route ++ "|" ++ base

/-- `str(route or DEFAULT_ROUTE)`. -/
def routeName (route : String) : String := if route = "" then DEFAULT_ROUTE else route

/-- The rows by their id, and the ids in order. -/
structure Enqueued where
  byId : List Row
  order : List String

def Message.ids (message : Message) : List (Option String) := message.incidents.map (·.id)

/-- The row of a message that is new. -/
def Message.row (message : Message) (messageId username route : String) (nowTs : Int) : Row where
  messageId := messageId
  phase := message.phase
  incidentIds := message.ids
  content := message.content
  username := username
  route := route
  status := "pending"
  attempts := 0
  createdTs := nowTs
  updatedTs := nowTs
  lastError := ""
  forceFallback := false

/-- The round of `enqueue_notify_messages` for one message. -/
def enqueueMessage (username route : String) (nowTs : Int) (enqueued : Enqueued)
    (message : Message) : Enqueued :=
  let messageId := notifyMessageId message.phase message.incidents nowTs route
  match lookup Row.messageId enqueued.byId messageId with
  | some existing =>
    { enqueued with
      byId := upsert Row.messageId enqueued.byId
        { existing with
          updatedTs := nowTs
          phase := message.phase
          incidentIds := message.ids
          content := message.content
          username := username
          route := route
          status := "pending" } }
  | none =>
    ⟨upsert Row.messageId enqueued.byId (message.row messageId username route nowTs),
      enqueued.order ++ [messageId]⟩

/-- `enqueue_notify_messages`. -/
def enqueueNotifyMessages (outbox : List Row) (messages : List Message) (username : String)
    (nowTs : Int) (route : String) : List Row :=
  let known := outbox.filter (·.messageId ≠ "")
  let enqueued := messages.foldl (enqueueMessage username (routeName route) nowTs)
    ⟨known.foldl (upsert Row.messageId) [], known.map (·.messageId)⟩
  enqueued.order.filterMap (lookup Row.messageId enqueued.byId)

/-- The round of `archive_overflow` for one row, after `count` rows of the route. -/
def archiveRow (route : String) (limit nowTs : Int) (state : List Row × Nat) (item : Row) :
    Delivery (List Row × Nat) :=
  if item.notifyRoute ≠ route then return (state.1 ++ [item], state.2)
  else if ((state.2 + 1 : Nat) : Int) ≤ max 1 limit then return (state.1 ++ [item], state.2 + 1)
  else do
    appendDeadLetter ⟨{ item with status := "dead_letter" }, "pending_capacity_exceeded", nowTs⟩
    acknowledge ⟨item.phase, item.incidentIds, route, none, some "dead_letter"⟩
    appendEvent ⟨nowTs, "delivery_dead_letter", item.incidentIds, true, route, "", item.messageId,
      false, 0, item.createdTs, none, false, "pending_capacity_exceeded"⟩
    return (state.1, state.2 + 1)

/-- `archive_overflow`. -/
def archiveOverflow (route : String) (limit nowTs : Int) (rows : List Row) : Delivery (List Row) := do
  let (kept, _) ← rows.foldlM (archiveRow route limit nowTs) ([], 0)
  return kept

/-- The settings of a route. -/
structure RouteConfig where
  enabled : Bool
  webhookUrl : String
  username : String
  outboxMaxPending : Int
  outboxFlushLimit : Int

/-- The arguments that a delivery and a flush share. -/
structure FlushArgs where
  cfg : RouteConfig
  nowTs : Int
  dryRun : Bool
  route : String
  fallbackCfg : Option RouteConfig

/-- `type(error).__name__`. -/
def className : ErrorKind → String
  | .value => "ValueError"
  | .key => "KeyError"
  | .type => "TypeError"
  | .attribute => "AttributeError"
  | .overflow => "OverflowError"
  | .os => "OSError"
  | .runtime => "RuntimeError"
  | .database => "IntegrityError"
  | .interrupt => "KeyboardInterrupt"

/-- `try: ok, reason = send(…) except Exception: …`. -/
def handTo (row : Row) (fallback : Bool) : Delivery (Bool × String) :=
  Script.act fun turn files =>
    let handed (ok : Bool) : Files := { files with log := files.log ++ [.handed row fallback ok] }
    match turn.sending with
    | .ok (ok, reason) => (.done (ok, reason), handed ok)
    | .error error =>
      if error.kind = .interrupt then (.raised error, handed false)
      else (.done (false, className error.kind), handed false)

/-- How far a flush is. -/
structure Progress where
  remaining : List Row
  sent : Nat
  failures : Nat
  attempted : Nat

/-- `phase in {"detected", "status"}`. -/
def Row.detects (row : Row) : Bool := row.phase = "detected" || row.phase = "status"

/-- The two rows have an incident in common. -/
def Row.shares (row other : Row) : Bool := row.incidentIds.any other.incidentIds.contains

/-- A recovery whose detection is still to be sent. -/
def Row.waits (row : Row) (route : String) (remaining : List Row) : Bool :=
  row.phase = "recovered" &&
    remaining.any fun prior => prior.notifyRoute = route && prior.detects && row.shares prior

/-- `later["force_fallback"] = True` on a recovery whose detection went to the fallback. -/
def Row.follow (item row : Row) : Row :=
  if item.detects && row.phase = "recovered" && row.notifyRoute = "slack" && item.shares row then
    { row with forceFallback := true }
  else row

/-- What came of an attempt: its outcome, the reason of the sender, and whether the fallback
delivered it. -/
structure Attempt where
  ok : Bool
  reason : String
  byFallback : Bool

/-- The send of an attempt, unless the detection went to the fallback. -/
def firstTry (item : Row) : Delivery (Bool × String) :=
  if item.forceFallback then return (false, "detection_delivered_to_discord") else handTo item false

/-- One attempt of a flush, up to the outcome. -/
def attemptRow (args : FlushArgs) (route : String) (item : Row) : Delivery Attempt := do
  let (ok, reason) ← firstTry item
  let event : Event := ⟨args.nowTs, item.phase, item.incidentIds, args.cfg.enabled, route,
    item.content, item.messageId, true, item.attempts + 1, item.createdTs, none, ok, reason⟩
  appendEvent event
  match args.fallbackCfg with
  | some cfg =>
    if !ok && route = "slack" && cfg.enabled && cfg.webhookUrl ≠ "" then
      let (delivered, fallbackReason) ← handTo item true
      appendEvent { event with
        route := "discord"
        fallbackFrom := some "slack"
        message := "[Slack delivery failed; using Discord]\n" ++ item.content
        sendOk := delivered
        sendReason := fallbackReason }
      return ⟨delivered, reason, delivered⟩
    else return ⟨ok, reason, false⟩
  | none => return ⟨ok, reason, false⟩

/-- The rows that are left, each as its detection's way to the fallback requires. -/
def Attempt.mark (attempt : Attempt) (item : Row) (rows : List Row) : List Row :=
  if attempt.byFallback then rows.map item.follow else rows

/-- The row after an attempt that failed. -/
def Row.failed (row : Row) (reason : String) (nowTs : Int) : Row :=
  { row with attempts := row.attempts + 1, lastError := reason, updatedTs := nowTs }

/-- The loop of `flush_notify_outbox`. -/
def flushRows (args : FlushArgs) (route : String) (todo : List Row) (progress : Progress) :
    Delivery Progress :=
  match todo with
  | [] => return progress
  | item :: rest =>
    if item.notifyRoute ≠ route ∨ max 1 args.cfg.outboxFlushLimit ≤ progress.attempted ∨
        item.waits route progress.remaining then
      flushRows args route rest { progress with remaining := progress.remaining ++ [item] }
    else do
      let attempt ← attemptRow args route item
      let remaining := attempt.mark item progress.remaining
      if attempt.ok then
        acknowledge ⟨item.phase, item.incidentIds, if attempt.byFallback then "discord" else route,
          if attempt.byFallback then some "slack" else none, none⟩
        flushRows args route (attempt.mark item rest)
          ⟨remaining, progress.sent + 1, progress.failures, progress.attempted + 1⟩
      else
        flushRows args route (attempt.mark item rest)
          ⟨remaining ++ [item.failed attempt.reason args.nowTs], progress.sent,
            progress.failures + 1, progress.attempted + 1⟩
termination_by todo.length
decreasing_by all_goals simp [Attempt.mark]; try split <;> simp

section Calls

-- The rows that are read from the pieces of a line that is cut.
variable (pieces : Row → List Row)

/-- How many rows are pending on a route. -/
def pendingOn (route : String) (rows : List Row) : Nat := rows.countP (·.notifyRoute = route)

/-- `flush_notify_outbox`, with the numbers of messages sent, failed and pending. -/
def flushNotifyOutbox (args : FlushArgs) : Delivery (Nat × Nat × Nat) := do
  let route := routeName args.route
  let outbox ← loadNotifyOutbox pieces
  if args.dryRun ∨ args.cfg.enabled = false ∨ args.cfg.webhookUrl = "" then
    return (0, 0, pendingOn route outbox)
  else
    let progress ← flushRows args route outbox ⟨[], 0, 0, 0⟩
    saveNotifyOutbox progress.remaining
    return (progress.sent, progress.failures, pendingOn route progress.remaining)

/-- The event of a message that is not queued. -/
def undelivered (args : FlushArgs) (message : Message) : Event :=
  ⟨args.nowTs, message.phase, message.ids, args.cfg.enabled, args.route, message.content, "", false,
    0, 0, none, !args.cfg.enabled, if args.cfg.enabled then "missing_webhook_url" else "disabled"⟩

/-- `deliver_rendered_messages`. -/
def deliverRenderedMessages (args : FlushArgs) (messages : List Message) :
    Delivery (Nat × Nat × Nat) :=
  if args.dryRun = false ∧ args.cfg.enabled ∧ args.cfg.webhookUrl ≠ "" then do
    let loaded ← loadNotifyOutbox pieces
    let outbox := enqueueNotifyMessages loaded messages args.cfg.username args.nowTs args.route
    let kept ← archiveOverflow args.route args.cfg.outboxMaxPending args.nowTs outbox
    saveNotifyOutbox kept
    flushNotifyOutbox pieces args
  else if args.dryRun = false ∧ messages ≠ [] then do
    messages.forM fun message => appendEvent (undelivered args message)
    return if args.cfg.enabled then (0, messages.length, 0) else (messages.length, 0, 0)
  else if args.dryRun = false then flushNotifyOutbox pieces args
  else return (0, 0, 0)

/-- A call in a process of its own, with the turns that it meets. -/
structure Call where
  args : FlushArgs
  messages : Option (List Message)
  turns : List Turn

/-- The files after a call, however it ended. -/
def Call.leaves (files : Files) (call : Call) : Files :=
  let script := match call.messages with
    | some messages => deliverRenderedMessages pieces call.args messages
    | none => flushNotifyOutbox pieces call.args
  (script.run call.turns { files with acknowledged := [] }).2.2

/-- A run of calls over one outbox file that is not there at first. -/
def runCalls (calls : List Call) : Files := calls.foldl (Call.leaves pieces) .empty

end Calls

end LiveStream.Notify

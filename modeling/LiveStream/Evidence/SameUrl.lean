import LiveStream.Support.Value

/-! The ledger of same-URL evidence: how a watchdog event is recorded as it happens, and how a
list of events is filled in later. -/

namespace LiveStream.Evidence

open LiveStream.Support

/-- An event of the watchdog. A text is `str(payload.get(key) or "")`. -/
structure Payload where
  tsUtc : String
  eventId : String
  liveUrl : String := ""
  videoId : String := ""
  expectedVideoId : String := ""
  candidateNewUrlFound : Bool := false
  forceLiveTriggered : Bool := false
  controlledTransition : Option Bool := none

/-- The digest, and the whole seconds of a text that `datetime.fromisoformat` reads. -/
structure Runtime where
  hexdigest : String → String
  timestamp : String → Option Int

/-- `_hash`. -/
def Runtime.hash (runtime : Runtime) (value : String) : String :=
  if strip value = "" then "" else runtime.hexdigest (strip value)

/-- `text.replace("Z", "+00:00")`. -/
def withOffset (text : String) : String :=
  String.ofList (text.toList.flatMap fun letter =>
    if letter = 'Z' then "+00:00".toList else [letter])

/-- `_parse_ts`. -/
def Runtime.parseTs (runtime : Runtime) (value : String) : Int :=
  if strip value = "" then 0
  else (runtime.timestamp (withOffset (strip value))).getD 0

/-- What both paths read of an event. -/
structure Event where
  observedTs : Int
  eventId : String
  liveHash : String
  videoHash : String
  expectedHash : String
  candidate : Bool
  forced : Bool
  controlled : Option Bool
  deriving DecidableEq

def Runtime.read (runtime : Runtime) (payload : Payload) : Event where
  observedTs := runtime.parseTs payload.tsUtc
  eventId := strip payload.eventId
  liveHash := runtime.hash payload.liveUrl
  videoHash := runtime.hash payload.videoId
  expectedHash := runtime.hash payload.expectedVideoId
  candidate := payload.candidateNewUrlFound
  forced := payload.forceLiveTriggered
  controlled := payload.controlledTransition

/-- The event has a timestamp and an id. -/
def Event.valid (event : Event) : Bool := 0 < event.observedTs && event.eventId ≠ ""

inductive EventType where
  | urlTransition | baseline | candidateNewUrl | forceLiveAttempt | dailyCheckpoint
  deriving DecidableEq

/-- A row of `same_url_transition_ledger`; a day is its number. -/
structure Row where
  eventId : String
  observedTs : Int
  observedDayJst : Int
  eventType : EventType
  liveHash : String
  previousHash : String
  videoHash : String
  expectedHash : String
  controlled : Option Bool
  candidate : Bool
  forced : Bool
  source : String
  revision : String
  deriving DecidableEq

/-- The rows in the order of their insertion. -/
abbrev Ledger := List Row

/-- `datetime.fromtimestamp(ts, JST).date()`, which raises past the end of the calendar. -/
def dayJst (observedTs : Int) : Except PyError Int :=
  if observedTs + 32400 < 253402300800 then .ok ((observedTs + 32400) / 86400)
  else .error (valueError "year 10000 is out of range")

/-- The live row with the last timestamp, the latest of them where several have it. -/
def newestLive (rows : Ledger) : Option Row :=
  (rows.filter fun row => row.liveHash ≠ "").foldl (fun best row =>
    match best with
    | some found => if found.observedTs ≤ row.observedTs then some row else some found
    | none => some row) none

/-- The live hash of the newest live row before a time. -/
def previousHash (rows : Ledger) (observedTs : Int) : String :=
  ((newestLive (rows.filter fun row => row.observedTs < observedTs)).map Row.liveHash).getD ""

/-- The chain of conditions that both paths decide the type by. -/
def eventType (event : Event) (previousHash : String) (dailyExists : Bool) : Option EventType :=
  if event.liveHash ≠ "" ∧ previousHash ≠ "" ∧ event.liveHash ≠ previousHash then
    some .urlTransition
  else if previousHash = "" ∧ event.liveHash ≠ "" then some .baseline
  else if event.candidate then some .candidateNewUrl
  else if event.forced then some .forceLiveAttempt
  else if event.liveHash ≠ "" ∧ ¬ dailyExists then some .dailyCheckpoint
  else none

def EventType.isDaily (type : EventType) : Bool := type = .baseline || type = .dailyCheckpoint

def Event.row (event : Event) (day : Int) (type : EventType) (previousHash source revision : String) :
    Row where
  eventId := event.eventId
  observedTs := event.observedTs
  observedDayJst := day
  eventType := type
  liveHash := event.liveHash
  previousHash := previousHash
  videoHash := event.videoHash
  expectedHash := event.expectedHash
  controlled := event.controlled
  candidate := event.candidate
  forced := event.forced
  source := source
  revision := revision

/-- `INSERT OR IGNORE`. -/
def insertOrIgnore (rows : Ledger) (row : Row) : Ledger :=
  if row.eventId ∈ rows.map Row.eventId then rows else rows ++ [row]

/-- `record_same_url_event`. -/
def record (revision : String) (rows : Ledger) (event : Event) : Except PyError Ledger :=
  if event.valid then
    if event.eventId ∈ rows.map Row.eventId then .ok rows
    else do
      let day ← dayJst event.observedTs
      let previous := previousHash rows event.observedTs
      let dailyExists := rows.any fun row =>
        row.observedDayJst = day && row.liveHash = event.liveHash && row.eventType.isDaily
      match eventType event previous dailyExists with
      | some type =>
        return insertOrIgnore rows (event.row day type previous "youtube_watchdog" revision)
      | none => return rows
  else .ok rows

/-- Record events one after the other. -/
def recordAll (revision : String) (rows : Ledger) (events : List Event) : Except PyError Ledger :=
  events.foldlM (record revision) rows

/-- What the loop of `backfill_same_url_events` carries. -/
structure Filling where
  rows : Ledger
  existingIds : List String
  dailyKeys : List (Int × String)
  lastLiveHash : String

/-- The loop of `backfill_same_url_events` on one event. -/
def Filling.next (revision : String) (filling : Filling) (event : Event) :
    Except PyError Filling :=
  if event.valid then do
    let day ← dayJst event.observedTs
    let known := event.eventId ∈ filling.existingIds
    let type := if known then none
      else eventType event filling.lastLiveHash ((day, event.liveHash) ∈ filling.dailyKeys)
    let lastLiveHash := if event.liveHash ≠ "" then event.liveHash else filling.lastLiveHash
    match type with
    | some type =>
      let row := event.row day type filling.lastLiveHash "youtube_watchdog_backfill" revision
      return {
        rows := insertOrIgnore filling.rows row
        existingIds := filling.existingIds ++ [event.eventId]
        dailyKeys := if type.isDaily then filling.dailyKeys ++ [(day, event.liveHash)]
          else filling.dailyKeys
        lastLiveHash }
    | none => return { filling with lastLiveHash }
  else .ok filling

/-- What `backfill_same_url_events` reads of the ledger before its loop. -/
def Filling.start (rows : Ledger) (firstTs : Int) : Filling where
  rows := rows
  existingIds := rows.map Row.eventId
  dailyKeys := (rows.filter (·.eventType.isDaily)).map fun row =>
    (row.observedDayJst, row.liveHash)
  lastLiveHash := previousHash rows firstTs

/-- `sorted(events, key=…)`. -/
def inOrder (events : List Event) : List Event :=
  events.mergeSort fun left right => left.observedTs ≤ right.observedTs

/-- `_parse_ts(ordered[0].get("ts_utc"))`. -/
def firstTs (events : List Event) : Int := (((inOrder events).head?).map Event.observedTs).getD 0

/-- `backfill_same_url_events`; its transaction is rolled back if it raises. -/
def backfill (revision : String) (rows : Ledger) (events : List Event) : Except PyError Ledger :=
  if events = [] then .ok rows
  else do
    let filled ← (inOrder events).foldlM (Filling.next revision)
      (Filling.start rows (firstTs events))
    return filled.rows

end LiveStream.Evidence

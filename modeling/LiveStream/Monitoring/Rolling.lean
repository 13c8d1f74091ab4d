import LiveStream.Support.Keyed
import LiveStream.Support.Value

/-! The rolling windows of the monitoring history: one row a minute, and the totals of
three windows that are moved along instead of being counted again. -/

namespace LiveStream.Monitoring

open LiveStream.Support

/-- `STATUSES`, with the column of each. -/
inductive Status where
  | good | bad | unknown | notApplicable
  deriving DecidableEq

def Status.text : Status → String
  | .good => "good"
  | .bad => "bad"
  | .unknown => "unknown"
  | .notApplicable => "not_applicable"

def STATUSES : List Status := [.good, .bad, .unknown, .notApplicable]

/-- `status in STATUSES`, with the status. -/
def Status.ofText? (text : String) : Option Status := STATUSES.find? fun status => status.text = text

def WINDOWS : List Int := [3600, 86400, 7 * 86400]

def CORRECTION_LIMIT_SEC : Int := 7 * 86400

/-- A row of `metric_series`. -/
structure SeriesRow where
  seriesId : String
  metric : String
  target : String
  definitionRevision : String
  startedTs : Int

/-- A row of `metric_minutes`, with its primary key. -/
structure MinuteRow where
  seriesId : String
  minuteTs : Int
  sampleTs : Int
  eventId : String
  status : Status

def MinuteRow.key (row : MinuteRow) : String × Int := (row.seriesId, row.minuteTs)

/-- A row of `metric_windows`, with its primary key; the totals are the columns named after
the statuses. -/
structure WindowRow where
  seriesId : String
  windowSec : Int
  endTs : Int
  totals : Status → Int

def WindowRow.key (row : WindowRow) : String × Int := (row.seriesId, row.windowSec)

/-- The three tables. -/
structure History where
  series : List SeriesRow
  minutes : List MinuteRow
  windows : List WindowRow

def History.empty : History := ⟨[], [], []⟩

/-- Whether a minute is counted in the window of a series from one time to another. -/
def MinuteRow.within (seriesId : String) (start stop : Int) (row : MinuteRow) : Bool :=
  row.seriesId = seriesId ∧ start ≤ row.minuteTs ∧ row.minuteTs < stop

/-- `_counts`. -/
def History.counts (history : History) (seriesId : String) (start stop : Int) (status : Status) : Int :=
  history.minutes.countP fun row => row.within seriesId start stop && row.status = status

/-- `ts // 60 * 60`. -/
def minuteOf (ts : Int) : Int := ts / 60 * 60

/-- `INSERT INTO metric_windows … ON CONFLICT DO UPDATE`; the series is a foreign key. -/
def History.putWindow (history : History) (row : WindowRow) : Except PyError History := do
  rejectIf (history.series.all fun series => series.seriesId ≠ row.seriesId)
    (integrityError "FOREIGN KEY constraint failed")
  return { history with windows := upsert WindowRow.key history.windows row }

/-- The round of `advance` for one window. -/
def advanceWindow (seriesId : String) (stop : Int) (history : History) (window : Int) :
    Except PyError History :=
  match lookup WindowRow.key history.windows (seriesId, window) with
  | none => history.putWindow ⟨seriesId, window, stop, history.counts seriesId (stop - window) stop⟩
  | some row =>
    if stop < row.endTs then .error (valueError "rolling clock regressed")
    else if stop = row.endTs then .ok history
    else if window ≤ stop - row.endTs then
      history.putWindow ⟨seriesId, window, stop, history.counts seriesId (stop - window) stop⟩
    else
      let added := history.counts seriesId row.endTs stop
      let removed := history.counts seriesId (row.endTs - window) (stop - window)
      history.putWindow
        ⟨seriesId, window, stop, fun status => row.totals status + added status - removed status⟩

/-- `advance(connection, series, end_ts=…)`. -/
def advance (history : History) (seriesId : String) (endTs : Int) : Except PyError History :=
  WINDOWS.foldlM (advanceWindow seriesId (minuteOf endTs)) history

/-- The arguments of `record_slot`. -/
structure Slot where
  metric : String
  target : String
  sampleTs : Int
  eventId : String
  status : String
  nowTs : Int
  definitionRevision : String

/-- `1` if so, else `0`. -/
def indicator (holds : Bool) : Int := if holds then 1 else 0

/-- What a late sample adds to the total of a status, and what the one that it replaces did. -/
def delta (fresh : Status) (old : Option MinuteRow) (status : Status) : Int :=
  indicator (fresh = status) - indicator (old.any fun row => row.status = status)

/-- The correction of one window for a sample that it already accounts for. -/
def correctWindow (seriesId : String) (minute : Int) (fresh : Status) (old : Option MinuteRow)
    (history : History) (window : Int) : History :=
  match lookup WindowRow.key history.windows (seriesId, window) with
  | none => history
  | some row =>
    if row.endTs - window ≤ minute ∧ minute < row.endTs then
      { history with
        windows := updateWhere (fun other => other.key = (seriesId, window))
          (fun other => { other with totals := fun status => other.totals status + delta fresh old status })
          history.windows }
    else history

section Identity

-- `series_identity`: the digest of the three texts.
variable (seriesIdentity : String → String → String → String)

/-- The series and the minute of a slot. -/
def Slot.key (slot : Slot) : String × Int :=
  (seriesIdentity slot.metric slot.target slot.definitionRevision, minuteOf slot.sampleTs)

/-- The row of `metric_series` that a slot finds or inserts. -/
def History.openSeries (history : History) (row : SeriesRow) : History × SeriesRow :=
  match lookup SeriesRow.seriesId history.series row.seriesId with
  | some started => (history, started)
  | none => ({ history with series := history.series ++ [row] }, row)

/-- `record_slot` from the sample on that is new or newer. -/
def History.replaceMinute (history : History) (row : MinuteRow) (old : Option MinuteRow)
    (nowTs : Int) : Except PyError History :=
  let replaced := { history with minutes := upsert MinuteRow.key history.minutes row }
  advance (WINDOWS.foldl (correctWindow row.seriesId row.minuteTs row.status old) replaced)
    row.seriesId nowTs

/-- `record_slot`, with the answer whether the sample counts. -/
def recordSlot (history : History) (slot : Slot) : Except PyError (History × Bool) := do
  let status ← orReject (valueError "invalid metric slot") (Status.ofText? slot.status)
  rejectIf (slot.metric = "" ∨ slot.target = "" ∨ slot.definitionRevision = "" ∨ slot.eventId = "")
    (valueError "invalid metric slot")
  rejectIf (slot.nowTs < slot.sampleTs ∨ slot.sampleTs < slot.nowTs - CORRECTION_LIMIT_SEC)
    (valueError "sample outside the normal correction interval; use offline reprocessing")
  let (seriesId, minute) := slot.key seriesIdentity
  let (history, series) := history.openSeries
    ⟨seriesId, slot.metric, slot.target, slot.definitionRevision, minute⟩
  rejectIf (minute < series.startedTs)
    (valueError "sample precedes measurement start; use explicit offline reprocessing")
  let fresh : MinuteRow := ⟨seriesId, minute, slot.sampleTs, slot.eventId, status⟩
  match lookup MinuteRow.key history.minutes (seriesId, minute) with
  | none => return (← history.replaceMinute fresh none slot.nowTs, true)
  | some old =>
    if old.eventId = slot.eventId then
      rejectIf (old.status ≠ status ∨ old.sampleTs ≠ slot.sampleTs)
        (valueError "conflicting metric event identity")
      return (← advance history seriesId slot.nowTs, false)
    else if toLex (slot.sampleTs, slot.eventId) ≤ toLex (old.sampleTs, old.eventId) then
      return (← advance history seriesId slot.nowTs, false)
    else return (← history.replaceMinute fresh (some old) slot.nowTs, true)

/-- An item of `read_windows`. -/
structure WindowItem where
  metric : String
  definitionRevision : String
  startedTs : Int
  row : WindowRow
  expected : Int
  observed : Int
  missing : Int
  windowElapsed : Bool
  coveragePct : Option ℚ
  goodPctKnown : Option ℚ
  goodPctConservative : Option ℚ

/-- `100 * part / whole if whole else None`. -/
def percent (part whole : Int) : Option ℚ :=
  if whole = 0 then none else some (100 * part / whole)

/-- `read_windows` on one row of the join. -/
def WindowRow.item (row : WindowRow) (series : SeriesRow) : WindowItem :=
  let start := max (row.endTs - row.windowSec) series.startedTs
  let expected := max 0 ((row.endTs - start) / 60)
  let observed := (STATUSES.map row.totals).sum
  { metric := series.metric
    definitionRevision := series.definitionRevision
    startedTs := series.startedTs
    row := row
    expected := expected
    observed := observed
    missing := max 0 (expected - observed)
    windowElapsed := row.windowSec ≤ row.endTs - series.startedTs
    coveragePct := percent observed expected
    goodPctKnown := percent (row.totals .good) (row.totals .good + row.totals .bad)
    goodPctConservative := percent (row.totals .good) (expected - row.totals .notApplicable) }

/-- `ORDER BY metric, window_sec`. -/
def WindowItem.before (left right : WindowItem) : Bool :=
  toLex (left.metric, left.row.windowSec) ≤ toLex (right.metric, right.row.windowSec)

/-- `read_windows`. -/
def History.readWindows (history : History) (target : String) : List WindowItem :=
  (history.windows.flatMap fun row =>
    (history.series.filter fun series => series.seriesId = row.seriesId ∧ series.target = target).map
      row.item).mergeSort WindowItem.before

/-- A call, in its own transaction. -/
inductive Recording where
  | recordSlot (slot : Slot)
  | advance (seriesId : String) (endTs : Int)

/-- The tables, and the slots whose calls returned so far. -/
structure Recorded where
  history : History
  slots : List Slot

/-- A call; what it changed is rolled back if it raises. -/
def Recorded.step (recorded : Recorded) : Recording → Recorded
  | .recordSlot slot =>
    match recordSlot seriesIdentity recorded.history slot with
    | .ok (history, _) => ⟨history, recorded.slots ++ [slot]⟩
    | .error _ => recorded
  | .advance seriesId endTs =>
    match advance recorded.history seriesId endTs with
    | .ok history => { recorded with history := history }
    | .error _ => recorded

def Recorded.run (calls : List Recording) : Recorded :=
  calls.foldl (Recorded.step seriesIdentity) ⟨.empty, []⟩

end Identity

end LiveStream.Monitoring

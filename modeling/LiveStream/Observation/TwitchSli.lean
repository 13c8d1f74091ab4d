import LiveStream.Support.Keyed

/-! The minute history of the Twitch channel and its daily renewals, as one collection cycle after
the other writes them. -/

namespace LiveStream.Observation

open LiveStream.Support

inductive SlotState where
  | good | bad | unknown
  deriving DecidableEq

section Samples

/-- What `api_sample` reads of the collector's evidence. A field that is missing or does not parse
is `none`; `trusted` is the outcome of the comparisons with the binding and the host. -/
structure ApiEvidence where
  trusted : Bool
  collectedAt : Option ℚ
  validUntil : Option ℚ
  probeStatus : Option String
  httpStatus : Option Int
  providerState : Option String
  streamId : String
  startedAt : Option ℚ

/-- `started` is the time that `stamp` reads of the field. -/
structure ApiSample where
  observed : ℚ
  api : SlotState
  live : SlotState
  stream : String
  started : Option ℚ
  deriving DecidableEq

/-- `probe_status == 'ok' and http_status == 200 and provider_state in (…)`. -/
def ApiEvidence.ok (raw : ApiEvidence) : Option Bool := do
  if (← raw.probeStatus) ≠ "ok" then return false
  if (← raw.httpStatus) ≠ 200 then return false
  let state ← raw.providerState
  return state = "LIVE" ∨ state = "OFFLINE"

def apiSample (raw : ApiEvidence) (now : ℚ) : Option ApiSample := do
  guard raw.trusted
  let observed ← raw.collectedAt
  guard (0 ≤ now - observed ∧ now - observed ≤ 180)
  guard (now ≤ (← raw.validUntil))
  let ok ← raw.ok
  let live := if raw.providerState = some "LIVE" then .good else .bad
  return {
    observed
    api := if ok then .good else .bad
    live := if ok then live else .unknown
    stream := if ok then raw.streamId else ""
    started := if ok then raw.startedAt else none }

structure RelayEvidence where
  fresh : Bool
  observedAt : Option ℚ
  status : Option String

structure RelaySample where
  observed : ℚ
  flow : SlotState
  deriving DecidableEq

def relaySample (raw : RelayEvidence) (now : ℚ) : Option RelaySample := do
  guard raw.fresh
  let observed ← raw.observedAt
  guard (0 ≤ now - observed ∧ now - observed ≤ 180)
  let state ← raw.status
  return {
    observed
    flow := if state = "FLOWING" then .good
      else if state = "STALLED" ∨ state = "DISCONNECTED" then .bad else .unknown }

end Samples

section Tables

inductive Kind where
  | providerLive | apiMeasurement | relayFlow
  deriving DecidableEq

/-- A row of `minutes`. -/
structure Slot where
  minute : Int
  kind : Kind
  state : SlotState
  observed : ℚ
  deriving DecidableEq

def Slot.key (slot : Slot) : Int × Kind := (slot.minute, slot.kind)

inductive RenewalResult where
  | pending | good | bad | unknown
  deriving DecidableEq

/-- A row of `renewals`. -/
structure Renewal where
  due : Int
  beforeId : Option String
  offlineAt : Option ℚ := none
  result : RenewalResult := .pending
  completedAt : Option ℚ := none
  deriving DecidableEq

/-- The database, with the two rows of `meta`. -/
structure Database where
  started : Option ℚ := none
  lastApi : Option ApiSample := none
  minutes : List Slot := []
  renewals : List Renewal := []
  deriving DecidableEq

structure History where
  db : Database
  started : ℚ
  deriving DecidableEq

/-- `History(path, now)`: the first opening decides when the history started. -/
def History.opened (db : Database) (now : ℚ) : History where
  db := { db with started := some (db.started.getD now) }
  started := db.started.getD now

/-- The order of `rank`. -/
def SlotState.rank : SlotState → Nat
  | .good => 0
  | .unknown => 1
  | .bad => 2

/-- `max((state, old), key=rank.get)`. -/
def SlotState.worst (state old : SlotState) : SlotState :=
  if state.rank < old.rank then old else state

/-- `record`. -/
def recordSlot (started now : ℚ) (kind : Kind) (state : SlotState) (observed : ℚ)
    (minutes : List Slot) : List Slot :=
  if observed < started ∨ ¬ (0 ≤ now - observed ∧ now - observed ≤ 180) then minutes
  else
    match lookup Slot.key minutes (⌊observed / 60⌋, kind) with
    | some old =>
      if observed ≤ old.observed then minutes
      else upsert Slot.key minutes ⟨⌊observed / 60⌋, kind, state.worst old.state, observed⟩
    | none => upsert Slot.key minutes ⟨⌊observed / 60⌋, kind, state, observed⟩

end Tables

section Tick

/-- The last renewal instant up to a time: 15:00 UTC. -/
def dueAt (time : ℚ) : Int := ⌊(time - 54000) / 86400⌋ * 86400 + 54000

/-- The first one that the history can have observed. -/
def firstDue (started : ℚ) : Int :=
  if (dueAt started : ℚ) < started then dueAt started + 86400 else dueAt started

/-- The id that was live when the renewal came due. -/
def idBefore (last : Option ApiSample) (due : Int) : Option String :=
  match last with
  | some last =>
    if last.live = .good ∧ 0 ≤ due - last.observed ∧ due - last.observed ≤ 180 then
      some last.stream
    else none
  | none => none

/-- The registration of the renewal that is due, with `INSERT OR IGNORE`. -/
def register (started now : ℚ) (last : Option ApiSample) (renewals : List Renewal) :
    List Renewal :=
  if firstDue started ≤ dueAt now then
    if renewals.any fun row => row.due = dueAt now then renewals
    else renewals ++ [{ due := dueAt now, beforeId := idBefore last (dueAt now) }]
  else renewals

/-- Whether a sample proves the renewal of a row. A start that does not parse counts as 0. -/
def Renewal.proved (row : Renewal) (sample : ApiSample) : Bool :=
  row.beforeId.any (· ≠ "") ∧ sample.live = .good ∧ sample.stream ≠ "" ∧
    some sample.stream ≠ row.beforeId ∧ row.due ≤ sample.started.getD 0 ∧
    sample.started.getD 0 ≤ sample.observed

/-- `offline_at` keeps the first failure in the ten minutes. -/
def Renewal.noted (row : Renewal) (sample : ApiSample) : Renewal :=
  if sample.live = .bad ∧ row.offlineAt = none then { row with offlineAt := some sample.observed }
  else row

@[simp] theorem noted_due (row : Renewal) (sample : ApiSample) :
    (row.noted sample).due = row.due := by
  unfold Renewal.noted
  split <;> rfl

@[simp] theorem noted_beforeId (row : Renewal) (sample : ApiSample) :
    (row.noted sample).beforeId = row.beforeId := by
  unfold Renewal.noted
  split <;> rfl

@[simp] theorem noted_result (row : Renewal) (sample : ApiSample) :
    (row.noted sample).result = row.result := by
  unfold Renewal.noted
  split <;> rfl

/-- The number of known provider slots in the ten minutes after a renewal came due. -/
def knownSlots (minutes : List Slot) (due : Int) : Nat :=
  minutes.countP fun slot => slot.kind = .providerLive ∧ due / 60 ≤ slot.minute ∧
    slot.minute < due / 60 + 10 ∧ (slot.state = .good ∨ slot.state = .bad)

/-- The closing of a row whose deadline has passed. -/
def Renewal.close (row : Renewal) (now : ℚ) (minutes : List Slot) : Renewal :=
  if row.due + 780 < now then
    { row with
      result :=
        if row.beforeId.any (· ≠ "") ∧ knownSlots minutes row.due = 10 then .bad else .unknown
      completedAt := some now }
  else row

/-- The body of the loop over the pending rows. -/
def Renewal.review (row : Renewal) (now : ℚ) (api : Option ApiSample) (minutes : List Slot) :
    Renewal :=
  if row.result ≠ .pending then row
  else
    match api with
    | some sample =>
      if row.due ≤ sample.observed ∧ sample.observed ≤ row.due + 600 then
        if row.proved sample then
          { row.noted sample with result := .good, completedAt := some sample.observed }
        else (row.noted sample).close now minutes
      else row.close now minutes
    | none => row.close now minutes

/-- The slots that a tick records. -/
def recordAll (started now : ℚ) (api : Option ApiSample) (relay : Option RelaySample)
    (minutes : List Slot) : List Slot :=
  let provider := match api with
    | some sample =>
      recordSlot started now .apiMeasurement sample.api sample.observed
        (recordSlot started now .providerLive sample.live sample.observed minutes)
    | none => minutes
  match relay with
  | some sample => recordSlot started now .relayFlow sample.flow sample.observed provider
  | none => provider

/-- The last sample, which a later one replaces. -/
def latestSample (last api : Option ApiSample) : Option ApiSample :=
  match api, last with
  | none, last => last
  | some sample, none => some sample
  | some sample, some last => if last.observed < sample.observed then some sample else some last

/-- `_tick`. -/
def History.tick (history : History) (now : ℚ) (api : Option ApiSample)
    (relay : Option RelaySample) : History :=
  let minutes := recordAll history.started now api relay history.db.minutes
  let renewals := (register history.started now history.db.lastApi history.db.renewals).map
    fun row => row.review now api minutes
  { history with
    db := { history.db with
      lastApi := latestSample history.db.lastApi api
      minutes := minutes.filter fun slot => ⌊now / 60⌋ - 35 * 1440 ≤ slot.minute
      renewals := renewals.filter fun row => now - 35 * 86400 ≤ row.due } }

end Tick

end LiveStream.Observation

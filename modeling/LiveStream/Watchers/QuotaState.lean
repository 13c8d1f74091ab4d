import LiveStream.Support.Operators
import LiveStream.Support.Run

/-! The quota latch of the watchers: a state file under a lock, the call that latches it, and the
call that reads it and clears it once it has expired. -/

namespace LiveStream.Watchers

open LiveStream.Support

/-- What a mark reads besides its arguments. The Pacific calendar is given, `none` where it
raises. -/
structure QuotaConfig where
  nextQuotaResetTsPacific : Int → Option Int
  QUOTA_RESET_MARGIN_SEC : Int
  QUOTA_EXHAUSTED_COOLDOWN_SEC : Int

def QuotaConfig.quotaGuardUntilTsPacific (config : QuotaConfig) (nowTs : Int) : Option Int :=
  (config.nextQuotaResetTsPacific nowTs).map fun base =>
    if config.QUOTA_RESET_MARGIN_SEC ≤ 0 then base else base + config.QUOTA_RESET_MARGIN_SEC

/-- The `until_ts` of a mark; `none` where the guard is disabled. -/
def QuotaConfig.untilTs (config : QuotaConfig) (current : Int) : Option Int :=
  match config.quotaGuardUntilTsPacific current with
  | some untilTs => some untilTs
  | none =>
    if config.QUOTA_EXHAUSTED_COOLDOWN_SEC ≤ 0 then none
    else some (current + config.QUOTA_EXHAUSTED_COOLDOWN_SEC)

/-- `int(state.get(key, 0) or 0)`. -/
def count (state : Fields) (key : String) : Except PyError Int :=
  match state.get? key with
  | some value => if value.truthy then value.toInt else .ok 0
  | none => .ok 0

/-- `bool(state.get("quota_exhausted", False))`. -/
def quotaExhausted (state : Fields) : Bool := (state.get? "quota_exhausted").any Value.truthy

/-- The reason of a mark. No letter outside ASCII has a lower case that either phrase contains. -/
def normalizedReason (detail reasonHint : String) : String :=
  let text := detail.toLower.toList
  if strip reasonHint ≠ "" then strip reasonHint
  else if "daily limit".toList <:+: text then "dailyLimitExceeded"
  else if "exceeded your quota".toList <:+: text then "quotaExceeded"
  else "unknown"

/-- What a mark has computed before it takes the lock. -/
structure Mark where
  current : Int
  untilTs : Int
  source : String
  detail : String
  reason : String

/-- `_updater`: the latched state, and whether it was latched before. -/
def Mark.updater (mark : Mark) (utcNow : String) (state : Fields) :
    Except PyError (Fields × Bool) := do
  let sinceTs ← count state "quota_exhausted_since_ts"
  let latched := ((((((state.set "quota_exhausted" (.bool true)).set
    "quota_exhausted_since_ts" (.int (if sinceTs ≤ 0 then mark.current else sinceTs))).set
    "quota_exhausted_until_ts" (.int mark.untilTs)).set
    "quota_exhausted_source" (.str mark.source)).set
    "quota_exhausted_reason_code" (.str mark.reason)).set
    "quota_exhausted_reason" (.str (String.ofList (mark.detail.toList.take 600)))).set
    "quota_exhausted_updated_at_utc" (.str utcNow)
  return (latched, quotaExhausted state)

def Mark.answer (mark : Mark) : Bool × String :=
  (true, s!"quota exhausted guard latched for {max 0 (mark.untilTs - mark.current)}s " ++
    s!"(source={mark.source})")

/-- What `quota_exhausted_active` decides on the state that it loaded. -/
inductive Verdict where
  | inactive
  | active
  | expired (cleared : Fields)

def verdict (current : Int) (utcNow : String) (state : Fields) : Except PyError Verdict :=
  if quotaExhausted state then do
    let untilTs ← count state "quota_exhausted_until_ts"
    if 0 < untilTs ∧ untilTs ≤ current then
      return .expired ((state.set "quota_exhausted" (.bool false)).set
        "quota_exhausted_cleared_at_utc" (.str utcNow))
    else return .active
  else .ok .inactive

/-- Where a check comes in: the clock, and the `until_ts` of every mark completed by then. -/
structure Entry where
  started : Int
  completed : List Int
  deriving DecidableEq

/-- The marks that the check has to see: they last beyond its start. -/
def Entry.owed (entry : Entry) : List Int := entry.completed.filter (entry.started < ·)

/-- A call under way, at the file operation that it makes next, or with its answer. -/
inductive Call where
  | entered (entry : Entry) (nowTs : Option Int)
  | loaded (entry : Entry) (nowTs : Option Int) (state : Fields)
  | clearing (entry : Entry) (state : Fields)
  | checked (entry : Entry) (answer : Except PyError (Bool × Fields))
  | marking (mark : Mark)
  | marked (answer : Except PyError (Bool × String))

/-- The clock, the state file, the completed marks, and the calls of every process. -/
structure World where
  clock : Int
  file : Fields
  completed : List Int := []
  calls : List Call := []

inductive Turn where
  /-- Time passes. -/
  | pass (seconds : Nat)
  /-- A process calls `quota_exhausted_active`, with a time that it read `age` seconds ago
  (`quota_guard_status` reads its own), or with none. -/
  | check (age : Option Nat)
  /-- A process calls `mark_quota_exhausted`. -/
  | mark (age : Nat) (source detail reasonHint : String)
  /-- A call makes its next step; `utcNow` is what the step reads of `utc_now()`. -/
  | advance (index : Nat) (utcNow : String)

/-- The next step of a call, with the lock of the file where it touches it. -/
def World.proceed (world : World) (utcNow : String) : Call → World × Call
  | .entered entry nowTs => (world, .loaded entry nowTs world.file)
  | .loaded entry nowTs state =>
    match verdict (nowTs.getD world.clock) utcNow state with
    | .ok .inactive => (world, .checked entry (.ok (false, state)))
    | .ok .active => (world, .checked entry (.ok (true, state)))
    | .ok (.expired cleared) => (world, .clearing entry cleared)
    | .error error => (world, .checked entry (.error error))
  -- the save does not look at what the file has become since the load
  | .clearing entry state => ({ world with file := state }, .checked entry (.ok (false, state)))
  | .marking mark =>
    match mark.updater utcNow world.file with
    | .ok (state, _) =>
      ({ world with file := state, completed := world.completed ++ [mark.untilTs] },
        .marked (.ok mark.answer))
    | .error error => (world, .marked (.error error))
  | .checked entry answer => (world, .checked entry answer)
  | .marked answer => (world, .marked answer)

/-- How a call of `mark_quota_exhausted` starts. -/
def QuotaConfig.startMark (config : QuotaConfig) (current : Int)
    (source detail reasonHint : String) : Call :=
  match config.untilTs current with
  | some untilTs =>
    .marking ⟨current, untilTs, source, detail, normalizedReason detail reasonHint⟩
  | none =>
    .marked (.ok (false, "quota guard disabled (no PT timezone and cooldown disabled)"))

def World.turn (config : QuotaConfig) (world : World) : Turn → World × Unit
  | .pass seconds => ({ world with clock := world.clock + seconds }, ())
  | .check age =>
    ({ world with
        calls := world.calls ++ [.entered ⟨world.clock, world.completed⟩
          (age.map fun seconds : Nat => world.clock - (seconds : Int))] }, ())
  | .mark age source detail reasonHint =>
    ({ world with
        calls := world.calls ++
          [config.startMark (world.clock - age) source detail reasonHint] }, ())
  | .advance index utcNow =>
    match world.calls[index]? with
    | some call =>
      let taken := world.proceed utcNow call
      ({ taken.1 with calls := world.calls.set index taken.2 }, ())
    | none => (world, ())

end LiveStream.Watchers

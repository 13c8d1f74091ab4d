import LiveStream.Support.Run

/-! One call of `observe` of the Airspy reception guard: what it makes of a reading of the
receiver, and the writes, the events and the restart that follow, in their order. -/

namespace LiveStream.Reception

open LiveStream.Support

/-- The values of `Policy`. -/
structure PolicyValues where
  rateRatio : ℚ
  baselineSec : ℚ
  graceSec : ℚ
  sustainSec : ℚ
  startupWindowSec : ℚ
  sampleMaxAgeSec : ℚ
  readsbMaxAgeSec : ℚ
  minSamples : Nat
  baselineMinSamples : Nat
  baselineMinPositions : Nat
  cooldownSec : ℚ
  deriving DecidableEq

/-- What `from_env` checks. -/
structure PolicyValues.Valid (values : PolicyValues) : Prop where
  positive : ∀ value ∈ [values.rateRatio, values.baselineSec, values.graceSec, values.sustainSec,
    values.startupWindowSec, values.sampleMaxAgeSec, values.readsbMaxAgeSec, values.cooldownSec],
    0 < value
  ratio : values.rateRatio < 1
  minSamples : 2 ≤ values.minSamples
  baselineMinSamples : 2 ≤ values.baselineMinSamples
  baselineMinPositions : 0 < values.baselineMinPositions
  startupWindow : values.graceSec + values.sustainSec < values.startupWindowSec

/-- A policy that `from_env` returns. -/
structure Policy where
  values : PolicyValues
  valid : values.Valid

theorem Policy.cooldown_pos (policy : Policy) : 0 < policy.values.cooldownSec :=
  policy.valid.positive _ (by simp)

/-- What a process and its files are known by. -/
structure Binding where
  boot : String
  instance_ : String
  configSha : String
  binarySha : String
  commandSha : String
  deriving DecidableEq

/-- What `collect` returns. -/
structure Sample where
  mono : ℚ
  binding : Binding
  startMono : ℚ
  startEpoch : ℚ
  sourceNow : ℚ
  readsbNow : ℚ
  rate : ℚ
  lostBuffers : ℚ
  positions : ℚ
  readsbStart : ℚ
  freshPositions : Nat
  deriving DecidableEq

/-- The traffic before a startup, as `baseline_for` returns it. -/
structure Baseline where
  rate : ℚ
  samples : Nat
  readsbStart : ℚ
  lastPositions : ℚ
  capturedMono : ℚ
  deriving DecidableEq

/-- The phases of an episode. -/
inductive Phase where
  | starting | healthy | verifying | restartReserved | restartFailed | outcomeUnknown
  deriving DecidableEq

def Phase.text : Phase → String
  | .starting => "STARTING"
  | .healthy => "HEALTHY"
  | .verifying => "VERIFYING"
  | .restartReserved => "RESTART_RESERVED"
  | .restartFailed => "RESTART_FAILED"
  | .outcomeUnknown => "OUTCOME_UNKNOWN"

/-- An entry of `bad`. -/
structure BadEntry where
  sourceNow : ℚ
  mono : ℚ
  rate : ℚ
  ratio : ℚ
  positions : ℚ
  deriving DecidableEq

/-- What a status says of the receiver. -/
structure Verdict where
  phase : String
  reason : String
  alert : Bool
  confirmed : Bool
  deriving DecidableEq

/-- `episode`; the previous invocation is there while a scheduled restart is waited for. -/
structure Episode where
  binding : Binding
  waitingOrigin : Option String
  startMono : ℚ
  retryStartMono : Option ℚ
  baseline : Option Baseline
  attempts : Nat
  phase : Phase
  bad : List BadEntry
  good : Nat
  lastSource : Option ℚ
  lastPost : Option Sample
  policy : PolicyValues
  restartReturncode : Option Int
  restartError : Option String
  status : Option Verdict
  deriving DecidableEq

/-- The durable state. -/
structure State where
  episode : Option Episode
  history : List Sample
  lastRestartMono : Option ℚ
  lastRestartBoot : Option String
  deriving DecidableEq

/-- What `initialize` saves. -/
def State.initial : State := ⟨none, [], none, none⟩

/-- The rows of `events.jsonl`. -/
inductive Event where
  | startupObserved (binding : Binding) (baseline : Option Baseline)
  | scheduledRestartObserved (binding : Binding)
  | recoveryRestartReserved (baseline : Option Baseline) (badWindow : List BadEntry) (last : Sample)
  | recoveryRestartResult (phase : Phase) (returncode : Option Int) (error : Option String)
  deriving DecidableEq

/-- What a call does to the world. -/
inductive Effect where
  | save (state : State)
  | event (row : Event)
  | restart
  | status (verdict : Verdict)
  deriving DecidableEq

/-- `statistics.median` of a list that is not empty. -/
def median (values : List ℚ) : ℚ :=
  let sorted := values.insertionSort (· ≤ ·)
  let middle := sorted.length / 2
  if sorted.length % 2 = 1 then sorted.getD middle 0
  else (sorted.getD (middle - 1) 0 + sorted.getD middle 0) / 2

/-- The rows of the history that are young enough and of the same boot. -/
def recent (values : PolicyValues) (history : List Sample) (sample : Sample) : List Sample :=
  history.filter fun row => row.binding.boot = sample.binding.boot ∧
    0 ≤ sample.mono - row.mono ∧ sample.mono - row.mono ≤ values.baselineSec

/-- `baseline_for`. -/
def baselineFor (values : PolicyValues) (history : List Sample) (sample : Sample) :
    Option Baseline :=
  let rows := recent values history sample
  if rows.length < values.baselineMinSamples then none
  else if rows.any (·.freshPositions < values.baselineMinPositions) then none
  else if (rows.zip rows.tail).any
      (fun pair => values.sampleMaxAgeSec < pair.2.sourceNow - pair.1.sourceNow) then none
  else
    match rows.head?, rows.getLast? with
    | some first, some last =>
      if rows.any (·.readsbStart ≠ last.readsbStart) ∨ last.positions ≤ first.positions then none
      else
        let rate := median (rows.map (·.rate))
        if rate ≤ 0 then none
        else some ⟨rate, rows.length, last.readsbStart, last.positions, sample.mono⟩
    | _, _ => none

/-- `new_episode`; what it keeps of the closed one is read nowhere. -/
def newEpisode (values : PolicyValues) (state : State) (sample : Sample) : Episode where
  binding := sample.binding
  waitingOrigin := none
  startMono := sample.startMono
  retryStartMono := none
  baseline := baselineFor values state.history sample
  attempts := 0
  phase := .starting
  bad := []
  good := 0
  lastSource := none
  lastPost := none
  policy := values
  restartReturncode := none
  restartError := none
  status := none

/-- `remember`. -/
def remember (values : PolicyValues) (history : List Sample) (sample : Sample) : List Sample :=
  let known := history.getLast?.any fun last =>
    last.sourceNow = sample.sourceNow ∧ last.binding.boot = sample.binding.boot
  let rows := recent values (if known then history else history ++ [sample]) sample
  rows.drop (rows.length - 32)

def State.withEpisode (state : State) (episode : Episode) : State :=
  { state with episode := some episode }

/-- The episode after a failed observation. -/
def Episode.unobserved (episode : Episode) : Episode :=
  { episode with
    bad := []
    good := 0
    lastPost := none
    lastSource := none
    status := some { episode.status.getD ⟨"STARTING", "waiting for new snapshot", false, false⟩ with
      phase := "UNKNOWN", confirmed := false } }

/-- The episode that a sample belongs to, with the events of its change. -/
inductive Attachment where
  | waiting
  | attached (episode : Episode) (rows : List Event)

/-- A scheduled restart produced this invocation. -/
def Episode.scheduled (episode : Episode) (sample : Sample) : Episode :=
  { episode with
    binding := { episode.binding with
      instance_ := sample.binding.instance_, commandSha := sample.binding.commandSha }
    startMono := sample.startMono
    waitingOrigin := none
    phase := .starting }

/-- A retry child, or the outcome of a crash, is bound to its origin. -/
def Episode.retried (episode : Episode) (sample : Sample) : Episode :=
  { episode with
    binding := { episode.binding with instance_ := sample.binding.instance_ }
    lastSource := none
    lastPost := none
    bad := []
    good := 0
    retryStartMono := some sample.startMono
    phase := .verifying }

def attach (values : PolicyValues) (state : State) (sample : Sample) : Attachment :=
  let opened := newEpisode values state sample
  match state.episode with
  | none => .attached opened [.startupObserved opened.binding opened.baseline]
  | some episode =>
    if sample.binding.boot ≠ episode.binding.boot then .attached opened []
    else
      match episode.waitingOrigin with
      | some previous =>
        if sample.binding.instance_ = previous then .waiting
        else
          let scheduled := episode.scheduled sample
          .attached scheduled [.scheduledRestartObserved scheduled.binding]
      | none =>
        if sample.binding.instance_ ≠ episode.binding.instance_ then
          if episode.attempts = 1 ∧ episode.phase ≠ .healthy then
            .attached (episode.retried sample) []
          else .attached opened [.startupObserved opened.binding opened.baseline]
        else .attached episode []

/-- The first key of the binding that drifted. -/
def drift (episode : Episode) (sample : Sample) : Option String :=
  if sample.binding.configSha ≠ episode.binding.configSha then some "config_sha"
  else if sample.binding.binarySha ≠ episode.binding.binarySha then some "binary_sha"
  else if sample.binding.commandSha ≠ episode.binding.commandSha then some "command_sha"
  else none

/-- Another policy than the one of the episode starts the evidence anew. -/
def Episode.adopt (episode : Episode) (values : PolicyValues) : Episode :=
  if episode.policy = values then episode else { episode with policy := values, bad := [] }

/-- The sources have not written since the start of the receiver. -/
def Sample.preStart (sample : Sample) : Prop :=
  sample.sourceNow < sample.startEpoch ∨ sample.readsbNow < sample.startEpoch

instance (sample : Sample) : Decidable sample.preStart := inferInstanceAs (Decidable (_ ∨ _))

def Sample.movedBack (previous sample : Sample) : Prop :=
  sample.sourceNow < previous.sourceNow ∨ sample.readsbNow < previous.readsbNow

instance (previous sample : Sample) : Decidable (previous.movedBack sample) :=
  inferInstanceAs (Decidable (_ ∨ _))

def Sample.counterReset (previous sample : Sample) : Prop :=
  sample.readsbStart ≠ previous.readsbStart ∨ sample.positions < previous.positions

instance (previous sample : Sample) : Decidable (previous.counterReset sample) :=
  inferInstanceAs (Decidable (_ ∨ _))

/-- The snapshot is too far from the one before it. -/
def gap (values : PolicyValues) (previous : Option Sample) (sample : Sample) : Bool :=
  previous.any fun previous => values.sampleMaxAgeSec < sample.sourceNow - previous.sourceNow

def progressing (values : PolicyValues) (previous : Option Sample) (sample : Sample) : Bool :=
  !gap values previous sample && previous.any fun previous => previous.positions < sample.positions

/-- Whether a snapshot speaks for the receiver. -/
def goodSnapshot (values : PolicyValues) (previous : Option Sample) (sample : Sample) : Bool :=
  0 < sample.freshPositions && (progressing values previous sample || previous.isNone)

/-- The counts of the episode after a new snapshot. -/
def Episode.advanced (episode : Episode) (values : PolicyValues) (sample : Sample) : Episode :=
  let late := gap values episode.lastPost sample
  let good := if late then 0 else episode.good
  { episode with
    bad := if late then [] else episode.bad
    good := if goodSnapshot values episode.lastPost sample then good + 1 else 0
    lastSource := some sample.sourceNow
    lastPost := some sample }

/-- What a processed snapshot says: a verdict, or a collapse that lasted. -/
inductive Finding where
  | ruled (episode : Episode) (verdict : Verdict)
  | sustained (episode : Episode) (baseline : Baseline)

def Sample.badEntry (sample : Sample) (baseline : Baseline) : BadEntry :=
  ⟨sample.sourceNow, sample.mono, sample.rate, sample.rate / baseline.rate, sample.positions⟩

/-- The episode with one more low snapshot. -/
def Episode.suspected (episode : Episode) (baseline : Baseline) (sample : Sample) : Episode :=
  { episode with bad := episode.bad ++ [sample.badEntry baseline] }

/-- A snapshot without traffic, far below the baseline. -/
def low (values : PolicyValues) (baseline : Baseline) (sample : Sample) : Prop :=
  sample.freshPositions = 0 ∧ sample.rate / baseline.rate < values.rateRatio

instance (values : PolicyValues) (baseline : Baseline) (sample : Sample) :
    Decidable (low values baseline sample) := inferInstanceAs (Decidable (_ ∧ _))

/-- Enough low snapshots, over enough time of both clocks. -/
def sustained (values : PolicyValues) (bad : List BadEntry) (sample : Sample) : Prop :=
  values.minSamples ≤ bad.length ∧ ∀ first ∈ bad.head?,
    values.sustainSec ≤ sample.sourceNow - first.sourceNow ∧
      values.sustainSec ≤ sample.mono - first.mono

instance (values : PolicyValues) (bad : List BadEntry) (sample : Sample) :
    Decidable (sustained values bad sample) := inferInstanceAs (Decidable (_ ∧ _))

/-- The rungs of the ladder that compare a snapshot with the baseline. -/
def compareWith (values : PolicyValues) (episode : Episode) (baseline : Baseline)
    (progressed : Bool) (sample : Sample) : Finding :=
  if episode.phase = .healthy ∧ values.startupWindowSec < sample.mono - episode.startMono then
    .ruled { episode with bad := [] }
      ⟨"QUIET", "startup verification completed; no current position progress", false, false⟩
  else if sample.readsbStart ≠ baseline.readsbStart then
    .ruled episode ⟨"UNKNOWN", "baseline decoder identity changed", true, false⟩
  else if low values baseline sample ∧ progressed = false then
    if sustained values (episode.suspected baseline sample).bad sample then
      .sustained (episode.suspected baseline sample) baseline
    else .ruled (episode.suspected baseline sample)
      ⟨"SUSPECT", "low rate with zero positions; persistence not yet met", false, false⟩
  else
    .ruled { episode with bad := [] }
      ⟨"OBSERVING", "no sustained reception collapse", false, false⟩

/-- The ladder of `observe` on an advanced episode. -/
def assess (values : PolicyValues) (episode : Episode) (progressed : Bool) (sample : Sample) :
    Finding :=
  if 2 ≤ episode.good then
    .ruled { episode with phase := .healthy, bad := [] }
      ⟨"HEALTHY", "fresh positions and position counter progress confirmed", false, true⟩
  else if sample.mono - episode.retryStartMono.getD episode.startMono < values.graceSec then
    .ruled { episode with bad := [] } ⟨"STARTING", "collecting startup evidence", false, false⟩
  else
    match episode.baseline with
    | none =>
      .ruled episode ⟨"QUIET_OR_UNKNOWN",
        "no continuous pre-start traffic baseline; automatic restart prohibited", false, false⟩
    | some baseline => compareWith values episode baseline progressed sample

/-- The answers of the backend during one call, and whether its effects are allowed. The age is
that of an active service, where it can be read. -/
structure Reading where
  collected : Except String Sample
  serviceAge : Option ℚ
  checked : Except String Sample
  restarted : Except String Int
  allowEffect : Bool

/-- The common end: the verdict and the sample are kept, and the status written. -/
def finish (values : PolicyValues) (state : State) (episode : Episode) (sample : Sample)
    (verdict : Verdict) : List Effect :=
  [.save { state.withEpisode { episode with status := some verdict } with
      history := remember values state.history sample },
    .status verdict]

def cooldownOk (values : PolicyValues) (state : State) (sample : Sample) : Prop :=
  state.lastRestartBoot ≠ some sample.binding.boot ∨
    ∀ last ∈ state.lastRestartMono, values.cooldownSec ≤ sample.mono - last

instance (values : PolicyValues) (state : State) (sample : Sample) :
    Decidable (cooldownOk values state sample) := inferInstanceAs (Decidable (_ ∨ _))

/-- What is against the restart that the evidence calls for. -/
def withheld (values : PolicyValues) (state : State) (episode : Episode) (sample : Sample)
    (allowEffect : Bool) : Option Verdict :=
  if episode.attempts ≠ 0 then
    some ⟨"EXHAUSTED", "one recovery restart already consumed for this origin startup", true, false⟩
  else if values.startupWindowSec < sample.mono - episode.startMono then
    some ⟨"DEGRADED", "outside startup recovery window; alert only", true, false⟩
  else if ¬ cooldownOk values state sample then
    some ⟨"DEGRADED", "recovery cooldown active; alert only", true, false⟩
  else if sample.lostBuffers ≠ 0 then
    some ⟨"DEGRADED", "sample loss observed; automatic restart signature not satisfied", true, false⟩
  else if allowEffect = false then
    some ⟨"WOULD_RESTART", "observation-only mode; no attempt reserved", true, false⟩
  else none

/-- What the second reading, right before the effect, says against it. -/
def recheck (values : PolicyValues) (baseline : Baseline) (sample check : Sample) :
    Option Verdict :=
  if check.binding ≠ sample.binding then
    some ⟨"UNKNOWN", "receiver changed before restart; no effect", true, false⟩
  else if 0 < check.freshPositions ∨ sample.positions < check.positions ∨
      values.rateRatio ≤ check.rate / baseline.rate then
    some ⟨"OBSERVING", "positions recovered before restart; no effect", true, false⟩
  else if check.readsbStart ≠ sample.readsbStart ∨ check.lostBuffers ≠ 0 then
    some ⟨"UNKNOWN", "decoder or sample loss changed before restart; no effect", true, false⟩
  else none

/-- The episode with its attempt spent. -/
def Episode.reserved (episode : Episode) : Episode :=
  { episode with attempts := 1, phase := .restartReserved, bad := [], good := 0 }

/-- The episode after the answer of `restart`. -/
def Episode.answered (episode : Episode) : Except String Int → Episode
  | .ok code =>
    { episode with
      phase := if code = 0 then .verifying else .restartFailed, restartReturncode := some code }
  | .error name => { episode with phase := .outcomeUnknown, restartError := some name }

/-- The state with the attempt spent. -/
def State.reserve (state : State) (episode : Episode) (sample : Sample) : State :=
  { state with
    episode := some episode.reserved
    lastRestartMono := some sample.mono
    lastRestartBoot := some sample.binding.boot }

/-- The attempt is made durable, and then the restart is called. -/
def recover (values : PolicyValues) (state : State) (episode : Episode) (sample : Sample)
    (restarted : Except String Int) : List Effect :=
  let reserved := state.reserve episode sample
  let answered := episode.reserved.answered restarted
  [.save reserved, .event (.recoveryRestartReserved episode.baseline episode.bad sample), .restart,
    .save (reserved.withEpisode answered),
    .event (.recoveryRestartResult answered.phase answered.restartReturncode
      answered.restartError)] ++
  finish values reserved answered sample ⟨answered.phase.text,
    "recovery attempt consumed; awaiting observed reception", true, false⟩

/-- A collapse that lasted. -/
def conclude (values : PolicyValues) (state : State) (episode : Episode) (baseline : Baseline)
    (sample : Sample) (reading : Reading) : List Effect :=
  match withheld values state episode sample reading.allowEffect with
  | some verdict => finish values state episode sample verdict
  | none =>
    match reading.checked with
    -- The exception leaves `observe`, and nothing of this call is saved.
    | .error text => [.status ⟨"UNKNOWN", text, true, false⟩]
    | .ok check =>
      match recheck values baseline sample check with
      | some verdict => finish values state episode sample verdict
      | none => recover values state episode sample reading.restarted

/-- A snapshot that is new and of the same counters as the one before. -/
def process (values : PolicyValues) (state : State) (episode : Episode) (sample : Sample)
    (reading : Reading) : List Effect :=
  let progressed := progressing values episode.lastPost sample
  match assess values (episode.advanced values sample) progressed sample with
  | .ruled judged verdict => finish values state judged sample verdict
  | .sustained judged baseline => conclude values state judged baseline sample reading

/-- An early end: the state is saved and the status written. -/
def settle (state : State) (episode : Episode) (verdict : Verdict) : List Effect :=
  [.save (state.withEpisode episode), .status verdict]

/-- `observe` on the episode that the sample belongs to. -/
def examine (values : PolicyValues) (state : State) (episode : Episode) (sample : Sample)
    (reading : Reading) : List Effect :=
  match drift episode sample with
  | some key =>
    settle state { episode with bad := [] } ⟨"UNKNOWN", "receiver binding drift: " ++ key, true, false⟩
  | none =>
    let adopted := episode.adopt values
    if sample.preStart then
      settle state adopted ⟨"STARTING", "waiting for post-start source data", false, false⟩
    else if adopted.lastSource = some sample.sourceNow then
      let last := adopted.status.getD ⟨"STARTING", "waiting for new snapshot", false, false⟩
      settle state adopted { last with confirmed := last.confirmed && 0 < sample.freshPositions }
    else if adopted.lastPost.any fun previous => previous.movedBack sample then
      settle state
        { adopted with
          bad := []
          good := 0
          status := adopted.status.map fun last => { last with confirmed := false } }
        ⟨"UNKNOWN", "source clock moved backwards", true, false⟩
    else if adopted.lastPost.any fun previous => previous.counterReset sample then
      settle state
        { adopted with
          bad := []
          good := 0
          lastSource := some sample.sourceNow
          lastPost := some sample }
        ⟨"UNKNOWN", "readsb counter identity changed", true, false⟩
    else process values state adopted sample reading

/-- `observe`. -/
def observe (policy : Policy) (state : State) (reading : Reading) : List Effect :=
  match reading.collected with
  | .error text =>
    [.save { state with episode := state.episode.map Episode.unobserved },
      .status (if reading.serviceAge.any fun age => 0 ≤ age ∧ age < policy.values.graceSec then
          ⟨"STARTING", "waiting for first post-start statistics", false, false⟩
        else ⟨"UNKNOWN", text, true, false⟩)]
  | .ok sample =>
    match attach policy.values state sample with
    | .waiting =>
      [.status ⟨"UNKNOWN", "scheduled restart has not produced a new invocation", true, false⟩]
    | .attached episode rows =>
      rows.map .event ++ examine policy.values state episode sample reading

end LiveStream.Reception

import LiveStream.Support.Rounding

/-! The clock that a viewer sees: `VerifiedClockAnalyzer` judges each capture by the readings of
those before it. -/

namespace LiveStream.Observation

open LiveStream.Support

structure VerifiedClockConfig where
  progressionToleranceSeconds : ℚ := 5
  driftLimitSeconds : ℚ := 30
  stallSeconds : ℚ := 60
  maximumGapSeconds : ℚ := 900

/-- What `analyze` finds in a capture: whether both regions fit into the frame, whether the frame is
black, and the UTC second of the day that a consistent pair of clocks shows. -/
structure Capture where
  identity : String
  capturedEpoch : ℚ
  capturedMonotonic : ℚ
  cropped : Bool := true
  black : Bool := false
  pair : Option (Fin 86400)
  deriving DecidableEq

/-- The reading of a capture that is valid. -/
def Capture.reading (capture : Capture) : Option (Fin 86400) :=
  if capture.cropped ∧ ¬ capture.black then capture.pair else none

/-- What is kept of the last valid reading. -/
structure LastReading where
  value : Fin 86400
  mono : ℚ
  deriving DecidableEq

structure ClockStats where
  observations : ℕ := 0
  ocrUncertain : ℕ := 0
  cadenceDrift : ℕ := 0
  validClock : ℕ := 0
  deriving DecidableEq

/-- `VerifiedClockAnalyzer`. -/
structure Analyzer where
  previous : Option LastReading := none
  identity : Option String := none
  firstValueAt : Option ℚ := none
  lastValidEpoch : Option ℚ := none
  lastCaptureEpoch : Option ℚ := none
  stalls : ℕ := 0
  failures : ℕ := 0
  gapSinceValid : Bool := false
  freezeHasGap : Bool := false
  frozenSpan : ℚ := 0
  frozenObserved : ℚ := 0
  stats : ClockStats := {}
  deriving DecidableEq

inductive ClockState where
  | unknown | blackFrame | ocrUncertain | warmup | advancingConfirmed | stalledSuspect
  | stalledConfirmed
  deriving DecidableEq

/-- The row of an observation. -/
structure ClockResult where
  captureOk : Bool
  clockState : ClockState
  ocrVerified : Bool
  reason : String
  clockAnomaly : Option String
  consecutiveFailures : ℕ
  consecutiveStalls : ℕ
  clockFrozenSeconds : ℚ
  clockFrozenObservedSeconds : ℚ
  freezeHasObservationGap : Bool
  capturedAt : Option ℚ
  lastValidObservationAt : Option ℚ
  observationCounters : ClockStats
  deriving DecidableEq

/-- A row with its `_metadata`. -/
def Analyzer.row (state : Analyzer) (captureOk : Bool) (clockState : ClockState)
    (ocrVerified : Bool) (reason : String) (clockAnomaly : Option String := none) : ClockResult where
  captureOk
  clockState
  ocrVerified
  reason
  clockAnomaly
  consecutiveFailures := state.failures
  consecutiveStalls := state.stalls
  clockFrozenSeconds := roundDigits 3 state.frozenSpan
  clockFrozenObservedSeconds := roundDigits 3 state.frozenObserved
  freezeHasObservationGap := state.freezeHasGap
  capturedAt := state.lastCaptureEpoch
  lastValidObservationAt := state.lastValidEpoch
  observationCounters := state.stats

/-- `unknown`. -/
def Analyzer.unknown (state : Analyzer) (reason : String) : Analyzer × ClockResult :=
  let state := { state with
    failures := state.failures + 1
    gapSinceValid := true
    stats := { state.stats with observations := state.stats.observations + 1 } }
  (state, state.row false .unknown false reason)

/-- A capture of another identity starts over. -/
def Analyzer.enter (state : Analyzer) (identity : String) : Analyzer :=
  if state.identity = some identity then state
  else
    { state with
      previous := none
      firstValueAt := none
      stalls := 0
      frozenSpan := 0
      frozenObserved := 0
      freezeHasGap := false
      gapSinceValid := false
      identity := some identity }

/-- A run of equal readings that starts with this one. -/
def Analyzer.startRun (state : Analyzer) (mono : ℚ) : Analyzer :=
  { state with
    stalls := 0
    firstValueAt := some mono
    frozenSpan := 0
    frozenObserved := 0
    freezeHasGap := false }

/-- The clock's advance over the nearer half of the day. -/
def forward (value previous : Fin 86400) : Int :=
  let ahead := ((value : Int) - (previous : Int)) % 86400
  if 43200 < ahead then ahead - 86400 else ahead

/-- The verdict on a reading that is comparable with the previous one. -/
def Analyzer.judge (config : VerifiedClockConfig) (state : Analyzer) (mono : ℚ)
    (previous : LastReading) (value : Fin 86400) :
    Analyzer × ClockState × String × Option String :=
  let gap := mono - previous.mono
  let ahead := forward value previous.value
  if ahead = 0 then
    let state := { state with
      stalls := state.stalls + 1
      -- `first_value_at` is set wherever there is a previous reading
      frozenSpan := mono - state.firstValueAt.getD mono
      frozenObserved :=
        if state.gapSinceValid then state.frozenObserved else state.frozenObserved + gap
      freezeHasGap := state.freezeHasGap || state.gapSinceValid }
    (state,
      if 2 ≤ state.stalls ∧ config.stallSeconds ≤ state.frozenObserved then .stalledConfirmed
      else .stalledSuspect, "ocr_time_unchanged", none)
  else
    let state := state.startRun mono
    let error := |(ahead : ℚ) - gap|
    if 0 < ahead ∧ error ≤ config.progressionToleranceSeconds then
      (state, .advancingConfirmed, "ocr_time_advanced", none)
    else if 0 < ahead ∧ error ≤ config.driftLimitSeconds then
      ({ state with stats := { state.stats with cadenceDrift := state.stats.cadenceDrift + 1 } },
        .ocrUncertain, "clock_cadence_drift", some "cadence_drift")
    else
      ({ state with stats := { state.stats with ocrUncertain := state.stats.ocrUncertain + 1 } },
        .ocrUncertain, if ahead < 0 then "clock_time_regressed" else "clock_time_jump",
        some (if ahead < 0 then "time_regression" else "time_jump"))

/-- Whether a reading is later than the previous one, and not by too much. -/
def comparable (config : VerifiedClockConfig) (mono : ℚ) (previous : LastReading) : Prop :=
  0 < mono - previous.mono ∧ mono - previous.mono ≤ config.maximumGapSeconds

instance (config : VerifiedClockConfig) (mono : ℚ) (previous : LastReading) :
    Decidable (comparable config mono previous) :=
  inferInstanceAs (Decidable (_ ∧ _))

/-- The part of `analyze` for a valid reading. -/
def Analyzer.read (config : VerifiedClockConfig) (state : Analyzer) (capture : Capture)
    (value : Fin 86400) : Analyzer × ClockResult :=
  let mono := capture.capturedMonotonic
  let state := { state with
    lastValidEpoch := some capture.capturedEpoch
    stats := { state.stats with validClock := state.stats.validClock + 1 } }
  let judged : Analyzer × ClockState × String × Option String :=
    match state.previous with
    | some previous =>
      if comparable config mono previous then state.judge config mono previous value
      else (state.startRun mono, .warmup, "comparison_unavailable", none)
    | none => (state.startRun mono, .warmup, "comparison_unavailable", none)
  let state := { judged.1 with previous := some ⟨value, mono⟩, gapSinceValid := false }
  (state, state.row true judged.2.1 true judged.2.2.1 judged.2.2.2)

/-- `analyze`. -/
def Analyzer.analyze (config : VerifiedClockConfig) (state : Analyzer) (capture : Capture) :
    Analyzer × ClockResult :=
  let state := state.enter capture.identity
  if capture.cropped = false then state.unknown "roi_invalid_or_too_small"
  else
    let state := { state with
      stats := { state.stats with observations := state.stats.observations + 1 }
      lastCaptureEpoch := some capture.capturedEpoch
      failures := 0 }
    if capture.black then
      let state := { state with gapSinceValid := true }
      (state, state.row true .blackFrame false "black_frame")
    else
      match capture.pair with
      | none =>
        let state := { state with
          gapSinceValid := true
          stats := { state.stats with ocrUncertain := state.stats.ocrUncertain + 1 } }
        (state, state.row true .ocrUncertain false "clock_pair_unreliable")
      | some value => state.read config capture value

/-- A call of the analyzer. -/
inductive ClockCall where
  | unknown (reason : String)
  | analyze (capture : Capture)
  deriving DecidableEq

def Analyzer.call (config : VerifiedClockConfig) (state : Analyzer) :
    ClockCall → Analyzer × ClockResult
  | .unknown reason => state.unknown reason
  | .analyze capture => state.analyze config capture

end LiveStream.Observation

import LiveStream.Support.Rounding

/-! Upload samples: the counters they are made of, what makes one valid, and how writing goes. -/

namespace LiveStream.Upload

open LiveStream.Support

def freshSeconds : ℚ := 180

/-- A `clock.capture()`. -/
structure ClockPoint where
  wall : ℚ
  mono : ℚ
  deriving DecidableEq

/-- A `clock.identity()`. -/
structure HostIdentity where
  machineIdSha256 : String
  bootId : String
  deriving DecidableEq

/-- What `datetime.fromisoformat` makes of the texts of stamps. -/
abbrev Epoch := String → Option ℚ

/-- A row of the journal. A measurement epoch is the number of its token. -/
structure Sample where
  sourceMachine : String
  sourceBoot : String
  sourceHost : String
  sourceMono : ℚ
  sourceCounterAgeSec : ℚ
  sourceTsUtc : String
  producerInstanceId : String
  ffmpegGeneration : String
  ffmpegPid : ℤ
  connectionId : String
  measurementEpoch : ℕ
  sequenceStart : ℤ
  sequenceEnd : ℤ
  sampleStartObservedAt : String
  sampleEndObservedAt : String
  bytesSent : ℤ
  bytesSentDelta : ℤ
  bytesAcked : ℤ
  sampleIntervalSec : ℚ
  mbps : ℚ
  deriving DecidableEq

def epoch (stamps : Epoch) (text : String) : Except String ℚ :=
  match stamps text with
  | none => .error "timestamp_timezone_missing"
  | some value => if value ≤ 0 then .error "timestamp_invalid" else .ok value

def rate (delta : ℤ) (duration : ℚ) : ℚ := roundDigits 3 (delta * 8 / duration / 1000000)

/-- `validate_sample`. -/
def validateSample (stamps : Epoch) (row : Sample) (expectedMachine : String) : Except String Unit := do
  if row.sourceMachine ≠ expectedMachine ∨ expectedMachine.length ≠ 64 ∨ row.sourceBoot = "" ∨
      row.sourceHost = "" ∨ row.producerInstanceId = "" ∨ row.ffmpegGeneration = "" then
    throw "measurement_identity_invalid"
  if row.ffmpegPid ≤ 0 ∨ row.sequenceStart ≤ 0 ∨ row.sequenceEnd ≤ 0 then
    throw "measurement_counter_invalid"
  if row.ffmpegPid ≤ 1 ∨ row.sequenceEnd ≤ row.sequenceStart ∨ row.mbps < 0 ∨
      ¬ (0 < row.sampleIntervalSec ∧ row.sampleIntervalSec ≤ freshSeconds) ∨ row.sourceMono < 0 ∨
      ¬ (0 ≤ row.sourceCounterAgeSec ∧ row.sourceCounterAgeSec ≤ 3) then
    throw "measurement_value_invalid"
  if row.bytesSent < 0 ∨ row.bytesSentDelta < 0 then throw "measurement_counter_invalid"
  let stop ← epoch stamps row.sampleEndObservedAt
  let start ← epoch stamps row.sampleStartObservedAt
  let duration := stop - start
  if 1 / 100000 < |duration - row.sampleIntervalSec| then throw "measurement_interval_invalid"
  if 1 / 1000000 < |rate row.bytesSentDelta duration - row.mbps| then
    throw "measurement_rate_invalid"

/-- How a write goes. An error, or the death of the process, comes before or after the write took
effect. -/
inductive Write where
  | succeeds
  | raises (done : Bool)
  | dies (done : Bool)
  deriving DecidableEq

def Write.done : Write → Bool
  | .succeeds => true
  | .raises done => done
  | .dies done => done

end LiveStream.Upload

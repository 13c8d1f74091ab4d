import LiveStream.Fallback.SourceAge
import LiveStream.Support.Operators

/-! Where the offset interval of a clock exchange contains the offset of the two wall clocks, and
the age interval the age of an event of the other host. -/

namespace LiveStream.Fallback

open LiveStream.Support

/-- `Estimate.fresh` of a finite stamp. -/
def Estimate.fresh (model : Estimate) (stamp maxAge : ℚ) (now : Instant) : Facts Bool := do
  let (_, high) ← model.ageBounds stamp now
  return -EPSILON ≤ high && high ≤ maxAge

/-- A host, over real time: its boottime clock stands at `boot` at time zero and runs at the rate of
real time, its wall clock shows anything. -/
structure Host where
  boot : ℚ
  wall : ℚ → ℚ

/-- A capture of a host: the wall clock is read at a time that the boottime is close to. -/
structure Host.Captures (host : Host) (time : ℚ) (instant : Instant) : Prop where
  wall : instant.wall = host.wall time
  mono : |instant.mono - (time + host.boot)| ≤ EPSILON / 2

/-- `capture()` reads the wall clock between two readings of the boottime. -/
theorem captures_of_capture {host : Host} {time : ℚ} {reading : ClockReading} {instant : Instant}
    (captured : capture reading = .ok instant) (wall : reading.wall = host.wall time)
    (before : reading.before ≤ time + host.boot) (after : time + host.boot ≤ reading.after) :
    host.Captures time instant := by
  unfold capture at captured
  split at captured
  · cases captured
  · rename_i quick
    cases captured
    refine ⟨wall, ?_⟩
    dsimp only
    rw [abs_le]
    constructor <;> linarith

/-- An exchange between two hosts, in real time, with a later reading of the clock and an event of
the remote host. -/
structure Trial where
  localHost : Host
  remote : Host
  sentAt : ℚ
  readAt : ℚ
  answeredAt : ℚ
  receivedAt : ℚ
  sent : Instant
  read : Instant
  answered : Instant
  received : Instant
  model : Estimate
  nowAt : ℚ
  now : Instant
  eventAt : ℚ

namespace Trial

/-- Remote minus local, of the wall clocks. -/
def offset (trial : Trial) (time : ℚ) : ℚ := trial.remote.wall time - trial.localHost.wall time

/-- The label of the event: what the remote wall clock showed. -/
def stamp (trial : Trial) : ℚ := trial.remote.wall trial.eventAt

/-- The model comes from an answer that carries the captures of the remote host. -/
structure Estimated (trial : Trial) (value : Value) : Prop where
  model : ∃ nonce machine bootId localBoot,
    estimate value nonce trial.sent trial.received machine bootId localBoot = .ok trial.model
  read : Reads value ["received", "wall"] trial.read.wall
  answered : Reads value ["sent", "wall"] trial.answered.wall

/-- The captures are made one after another, and the offset keeps still during the exchange and
drifts slowly from then on. -/
structure Assumed (trial : Trial) : Prop where
  estimated : ∃ value, trial.Estimated value
  sent : trial.localHost.Captures trial.sentAt trial.sent
  read : trial.remote.Captures trial.readAt trial.read
  answered : trial.remote.Captures trial.answeredAt trial.answered
  received : trial.localHost.Captures trial.receivedAt trial.received
  now : trial.localHost.Captures trial.nowAt trial.now
  causal : trial.sentAt ≤ trial.readAt ∧ trial.readAt ≤ trial.answeredAt ∧
    trial.answeredAt ≤ trial.receivedAt ∧ trial.receivedAt ≤ trial.nowAt
  constant : ∀ time, trial.sentAt ≤ time → time ≤ trial.receivedAt →
    trial.offset time = trial.offset trial.receivedAt
  drift : ∀ time, trial.receivedAt ≤ time →
    |trial.offset time - trial.offset trial.receivedAt| ≤ PAIR_DRIFT * (time - trial.receivedAt)

/-- The local wall clock does not go back during the exchange. -/
def Forward (trial : Trial) : Prop :=
  ∀ first second, trial.sentAt ≤ first → first ≤ second → second ≤ trial.receivedAt →
    trial.localHost.wall first ≤ trial.localHost.wall second

/-- The remote wall clock keeps pace with real time from the event to the end of the exchange, up
to the drift that the model allows for. -/
def KeepsPace (trial : Trial) : Prop :=
  |trial.remote.wall trial.receivedAt - trial.stamp - (trial.receivedAt - trial.eventAt)| ≤
    PAIR_DRIFT * (trial.now.mono - trial.received.mono)

/-- The intervals contain the offset and the age, and what is fresh is no older than it may be. -/
structure Sound (trial : Trial) : Prop where
  offset : ∀ localIdentity low high, trial.model.bounds trial.now localIdentity = .ok (low, high) →
    low ≤ trial.offset trial.nowAt ∧ trial.offset trial.nowAt ≤ high
  age : ∀ low high, trial.model.ageBounds trial.stamp trial.now = .ok (low, high) →
    low ≤ trial.nowAt - trial.eventAt ∧ trial.nowAt - trial.eventAt ≤ high
  fresh : ∀ maxAge, trial.model.fresh trial.stamp maxAge trial.now = .ok true →
    trial.nowAt - trial.eventAt ≤ maxAge

end Trial

/-- What an estimate is made of. -/
structure OffsetInterval (value : Value) (sent received : Instant) (model : Estimate) : Prop where
  readings : ∃ read answered, Reads value ["received", "wall"] read ∧
    Reads value ["sent", "wall"] answered ∧ model.low = answered - received.wall - EPSILON ∧
    model.high = max model.low (read - sent.wall + EPSILON)
  receivedWall : model.receivedWall = received.wall
  receivedMono : model.receivedMono = received.mono

theorem reads_wall {value part : Value} {key : String} {instant : Instant}
    (found : (liftM (value.index key) : Facts Value) = .ok part)
    (read : readInstant part = .ok instant) : Reads value [key, "wall"] instant.wall := by
  obtain ⟨wall, at_wall, rest⟩ := bind_eq_ok.mp read
  obtain ⟨number, required, rest⟩ := bind_eq_ok.mp rest
  obtain ⟨mono, _, rest⟩ := bind_eq_ok.mp rest
  obtain ⟨other, _, rest⟩ := bind_eq_ok.mp rest
  cases pure_eq_ok.mp rest
  refine ⟨wall, ?_, (of_requireNumber required).1⟩
  rw [Value.path, of_liftM found, ok_bind, Value.path_singleton]
  exact of_liftM at_wall

theorem estimate_interval (value : Value) (nonce : String) (sent received : Instant)
    (machine : String) (bootId : Option Value) (localBoot : String) :
    (estimate value nonce sent received machine bootId localBoot).Yields
      (OffsetInterval value sent received) := by
  unfold estimate
  refine yields_asClockInvalid ?_
  refine yields_bind fun _ _ => yields_bind fun _ _ => ?_
  refine yields_bind fun read begins => yields_bind fun answered ends => ?_
  refine yields_bind fun _ _ => yields_bind fun first reads => yields_bind fun second answers => ?_
  refine yields_bind fun _ _ => yields_bind fun _ _ => yields_bind fun _ _ => ?_
  refine yields_bind fun _ _ => yields_pure ⟨⟨first.wall, second.wall, ?_, ?_, rfl, rfl⟩, rfl, rfl⟩
  · exact reads_wall begins reads
  · exact reads_wall ends answers

/-- What `bounds` gives: the interval, widened by the drift since the exchange. -/
theorem Estimate.bounds_eq_ok {model : Estimate} {now : Instant} {localIdentity : Option String}
    {low high : ℚ} (bounds : model.bounds now localIdentity = .ok (low, high)) :
    0 ≤ now.mono - model.receivedMono ∧
      low = model.low - (now.mono - model.receivedMono) * PAIR_DRIFT ∧
      high = model.high + (now.mono - model.receivedMono) * PAIR_DRIFT := by
  unfold Estimate.bounds at bounds
  dsimp only at bounds
  split at bounds
  · cases bounds
  · rename_i elapsed
    split at bounds
    · cases bounds
    · split at bounds
      · cases bounds
      · cases bounds
        exact ⟨(not_not.mp elapsed).1, rfl, rfl⟩

theorem Estimate.ageBounds_eq_ok {model : Estimate} {now : Instant} {stamp low high : ℚ}
    (aged : model.ageBounds stamp now = .ok (low, high)) :
    0 ≤ now.mono - model.receivedMono ∧
      low = model.receivedWall + now.mono - model.receivedMono - stamp +
        (model.low - (now.mono - model.receivedMono) * PAIR_DRIFT) ∧
      high = model.receivedWall + now.mono - model.receivedMono - stamp +
        (model.high + (now.mono - model.receivedMono) * PAIR_DRIFT) := by
  obtain ⟨⟨lower, upper⟩, bounds, same⟩ := bind_eq_ok.mp aged
  obtain ⟨elapsed, rfl, rfl⟩ := Estimate.bounds_eq_ok bounds
  cases pure_eq_ok.mp same
  exact ⟨elapsed, rfl, rfl⟩

namespace Trial

variable {trial : Trial}

/-- The interval of the model lies around the offset, with room for the captures. -/
theorem Assumed.interval (assumed : trial.Assumed) (forward : trial.Forward) :
    trial.model.low ≤ trial.offset trial.receivedAt - EPSILON ∧
      trial.offset trial.receivedAt + EPSILON ≤ trial.model.high := by
  obtain ⟨value, estimated⟩ := assumed.estimated
  obtain ⟨nonce, machine, bootId, localBoot, accepted⟩ := estimated.model
  have interval := estimate_interval _ _ _ _ _ _ _ _ accepted
  obtain ⟨read, answered, reads, answers, low, high⟩ := interval.readings
  cases reads.unique estimated.read
  cases answers.unique estimated.answered
  obtain ⟨sending, reading, answering, _⟩ := assumed.causal
  have atRead := assumed.constant trial.readAt sending (reading.trans answering)
  have atAnswered := assumed.constant trial.answeredAt (sending.trans reading) answering
  have first := forward trial.sentAt trial.readAt le_rfl sending (reading.trans answering)
  have second := forward trial.answeredAt trial.receivedAt (sending.trans reading) answering le_rfl
  have upper := le_max_right trial.model.low (trial.read.wall - trial.sent.wall + EPSILON)
  rw [← high] at upper
  rw [assumed.read.wall, assumed.sent.wall] at upper
  rw [assumed.answered.wall, assumed.received.wall] at low
  unfold offset at *
  constructor <;> linarith

/-- The boottime since the exchange is the time since the exchange, but for the captures. -/
theorem Assumed.elapsed (assumed : trial.Assumed) :
    |trial.now.mono - trial.received.mono - (trial.nowAt - trial.receivedAt)| ≤ EPSILON := by
  have now := abs_le.mp assumed.now.mono
  have received := abs_le.mp assumed.received.mono
  rw [abs_le]
  constructor <;> linarith

theorem Assumed.receivedAs (assumed : trial.Assumed) :
    trial.model.receivedWall = trial.received.wall ∧
      trial.model.receivedMono = trial.received.mono := by
  obtain ⟨value, estimated⟩ := assumed.estimated
  obtain ⟨nonce, machine, bootId, localBoot, accepted⟩ := estimated.model
  have interval := estimate_interval _ _ _ _ _ _ _ _ accepted
  exact ⟨interval.receivedWall, interval.receivedMono⟩

theorem Assumed.offset_mem (assumed : trial.Assumed) (forward : trial.Forward)
    {localIdentity : Option String} {low high : ℚ}
    (bounds : trial.model.bounds trial.now localIdentity = .ok (low, high)) :
    low ≤ trial.offset trial.nowAt ∧ trial.offset trial.nowAt ≤ high := by
  obtain ⟨_, rfl, rfl⟩ := Estimate.bounds_eq_ok bounds
  have interval := assumed.interval forward
  have elapsed := abs_le.mp assumed.elapsed
  have drift := abs_le.mp (assumed.drift trial.nowAt assumed.causal.2.2.2)
  rw [assumed.receivedAs.2]
  unfold PAIR_DRIFT EPSILON at *
  constructor <;> linarith

theorem Assumed.age_mem (assumed : trial.Assumed) (forward : trial.Forward)
    (pace : trial.KeepsPace) {low high : ℚ}
    (aged : trial.model.ageBounds trial.stamp trial.now = .ok (low, high)) :
    low ≤ trial.nowAt - trial.eventAt ∧ trial.nowAt - trial.eventAt ≤ high := by
  obtain ⟨_, rfl, rfl⟩ := Estimate.ageBounds_eq_ok aged
  have interval := assumed.interval forward
  have elapsed := abs_le.mp assumed.elapsed
  have kept := abs_le.mp pace
  rw [assumed.receivedAs.1, assumed.receivedAs.2, assumed.received.wall]
  unfold offset at interval
  constructor <;> linarith

/-- Where the local wall clock does not go back during the exchange, and the remote one keeps pace
from the event on, the intervals are sound, however the delay is split. -/
theorem sound_of_assumed (trial : Trial) (assumed : trial.Assumed) (forward : trial.Forward)
    (pace : trial.KeepsPace) : trial.Sound where
  offset := fun _ _ _ bounds => assumed.offset_mem forward bounds
  age := fun _ _ aged => assumed.age_mem forward pace aged
  fresh := by
    intro maxAge fresh
    obtain ⟨⟨low, high⟩, aged, same⟩ := bind_eq_ok.mp fresh
    have within := pure_eq_ok.mp same
    rw [Bool.and_eq_true, decide_eq_true_eq, decide_eq_true_eq] at within
    exact (assumed.age_mem forward pace aged).2.trans within.2

end Trial

/-- An exact capture. -/
def Host.shows (host : Host) (time : ℚ) : Instant := ⟨host.wall time, time + host.boot⟩

theorem Host.captures_shows (host : Host) (time : ℚ) : host.Captures time (host.shows time) where
  wall := rfl
  mono := by
    rw [Host.shows, sub_self, abs_zero]
    unfold EPSILON
    norm_num

/-- The part of an answer that an estimate is made of. -/
def offsetAnswer (read answered : Instant) : Value :=
  .dict [("schema", .str SCHEMA), ("nonce", .str "0123456789abcdef0123456789abcdef"),
    ("machine_id_sha256", .str (String.ofList (List.replicate 64 'a'))), ("boot_id", .str "boot"),
    ("received", .dict [("wall", .float (.finite read.wall)), ("mono", .float (.finite read.mono))]),
    ("sent", .dict [("wall", .float (.finite answered.wall)),
      ("mono", .float (.finite answered.mono))])]

/-- A local host and a remote one 100 seconds ahead, whose wall clocks are stepped together. -/
def steppedHost (ahead : ℚ) (step : ℚ → ℚ) : Host := ⟨0, fun time => time + ahead + step time⟩

def steppedEstimate (step : ℚ → ℚ) : Facts Estimate :=
  estimate (offsetAnswer ((steppedHost 100 step).shows (10030 / 1000))
      ((steppedHost 100 step).shows (10031 / 1000)))
    "0123456789abcdef0123456789abcdef" ((steppedHost 0 step).shows 10)
    ((steppedHost 0 step).shows (10032 / 1000)) (String.ofList (List.replicate 64 'a')) none "local"

/-- An exchange of 32 milliseconds at time 10, an event at time 9 and a reading at time 11. -/
def steppedTrial (step : ℚ → ℚ) : Trial where
  localHost := steppedHost 0 step
  remote := steppedHost 100 step
  sentAt := 10
  readAt := 10030 / 1000
  answeredAt := 10031 / 1000
  receivedAt := 10032 / 1000
  sent := (steppedHost 0 step).shows 10
  read := (steppedHost 100 step).shows (10030 / 1000)
  answered := (steppedHost 100 step).shows (10031 / 1000)
  received := (steppedHost 0 step).shows (10032 / 1000)
  model := (steppedEstimate step).toOption.getD ⟨0, 0, 0, 0, .none, "", "", 0⟩
  nowAt := 11
  now := (steppedHost 0 step).shows 11
  eventAt := 9

theorem steppedTrial_offset (step : ℚ → ℚ) (time : ℚ) : (steppedTrial step).offset time = 100 := by
  simp only [steppedTrial, Trial.offset, steppedHost]
  ring

theorem steppedTrial_assumed {step : ℚ → ℚ} (accepted : (steppedEstimate step).toOption.isSome = true) :
    (steppedTrial step).Assumed where
  estimated := by
    obtain ⟨model, found⟩ := Option.isSome_iff_exists.mp accepted
    have estimated : steppedEstimate step = .ok (steppedTrial step).model := by
      rw [steppedTrial, found, Option.getD_some]
      exact eq_ok_of_toOption found
    exact ⟨_, ⟨_, _, _, _, estimated⟩, ⟨_, rfl, rfl⟩, ⟨_, rfl, rfl⟩⟩
  sent := Host.captures_shows _ _
  read := Host.captures_shows _ _
  answered := Host.captures_shows _ _
  received := Host.captures_shows _ _
  now := Host.captures_shows _ _
  causal := by
    refine ⟨?_, ?_, ?_, ?_⟩ <;> norm_num [steppedTrial]
  constant := by
    intro time _ _
    rw [steppedTrial_offset, steppedTrial_offset]
  drift := by
    intro time later
    rw [steppedTrial_offset, steppedTrial_offset, sub_self, abs_zero]
    exact mul_nonneg (by norm_num [PAIR_DRIFT]) (sub_nonneg.mpr later)

/-- The wall clocks are never stepped. -/
def unstepped (_ : ℚ) : ℚ := 0

/-- They go back 40 milliseconds just before the exchange ends. -/
def steppedInside (time : ℚ) : ℚ := if time < 100315 / 10000 then 0 else -40 / 1000

/-- They go back a second between the event and the exchange. -/
def steppedBefore (time : ℚ) : ℚ := if time < 19 / 2 then 0 else -1

theorem sound_of_assumed_unstepped :
    (steppedTrial unstepped).Sound ∧
      ((steppedTrial unstepped).model.fresh 109 5 ⟨11, 11⟩).toOption = some true := by
  constructor
  · refine (steppedTrial unstepped).sound_of_assumed (steppedTrial_assumed (by decide +kernel)) ?_ ?_
    · intro first second _ ordered _
      simpa [steppedTrial, steppedHost, unstepped] using ordered
    · unfold Trial.KeepsPace Trial.stamp
      simp only [steppedTrial, steppedHost, Host.shows, unstepped, PAIR_DRIFT]
      norm_num
  · decide +kernel

/-- A step of both wall clocks that the code accepts puts the offset outside its interval, and one
before the exchange makes an old event fresh. -/
theorem intervals_unsound :
    ((steppedTrial steppedInside).Assumed ∧ ¬ (steppedTrial steppedInside).Sound) ∧
      (steppedTrial steppedBefore).Assumed ∧ (steppedTrial steppedBefore).Forward ∧
        ¬ (steppedTrial steppedBefore).Sound := by
  refine ⟨⟨steppedTrial_assumed (by decide +kernel), ?_⟩, steppedTrial_assumed (by decide +kernel),
    ?_, ?_⟩
  · intro sound
    have bounds : ((steppedTrial steppedInside).model.bounds (steppedTrial steppedInside).now
        none).toOption = some (100033032 / 1000000, 100035968 / 1000000) := by
      decide +kernel
    have mem := sound.offset none _ _ (eq_ok_of_toOption bounds)
    rw [steppedTrial_offset] at mem
    norm_num at mem
  · intro first second begins ordered _
    have late : ∀ {time : ℚ}, 10 ≤ time → ¬ time < 19 / 2 := fun later => by linarith
    simp only [steppedTrial] at begins
    simp only [steppedTrial, steppedHost, steppedBefore, if_neg (late begins),
      if_neg (late (begins.trans ordered))]
    linarith
  · intro sound
    have old := sound.fresh (3 / 2) (eq_ok_of_toOption (by decide +kernel))
    norm_num [steppedTrial] at old

end LiveStream.Fallback

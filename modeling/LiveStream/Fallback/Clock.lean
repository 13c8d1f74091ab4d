import LiveStream.Support.Mapping

/-! Bounded clock exchanges: the offset interval between two hosts, and the age of
an observation of another host by boottime alone. Instants are exact numbers. -/

namespace LiveStream.Fallback

open LiveStream.Support

/-- What a check of facts raises: `ObservationRejected`, `ClockRejected`, or an
exception of the language. -/
inductive FactsError where
  | observation (reason : String)
  | clock (reason : String)
  | python (error : PyError)
  deriving DecidableEq

abbrev Facts := Except FactsError

instance : MonadLift (Except PyError) Facts where
  monadLift
    | .ok value => .ok value
    | .error error => .error (.python error)

@[simp] theorem liftM_ok {α : Type} (value : α) :
    (liftM (Except.ok value : Except PyError α) : Facts α) = .ok value := rfl

@[simp] theorem liftM_error {α : Type} (error : PyError) :
    (liftM (Except.error error : Except PyError α) : Facts α) = .error (.python error) := rfl

/-- `if not (a and b and …): raise error`. -/
def requireAll (checks : List (Except PyError Bool)) (error : FactsError) : Facts Unit := do
  rejectIf ((← every checks) = false) error

/-- The number, if it is a finite int or float that is accepted. -/
def requireNumber (value : Value) (accepts : ℚ → Bool) (error : FactsError) : Facts ℚ := do
  let number ← orReject error (← value.finite?)
  rejectIf (accepts number = false) error
  return number

/-- The boottime and wall readings of one `capture()`. -/
structure ClockReading where
  before : ℚ
  wall : ℚ
  after : ℚ
  deriving DecidableEq

/-- A captured instant. -/
structure Instant where
  wall : ℚ
  mono : ℚ
  deriving DecidableEq

def SCHEMA : String := "stream.clock_exchange.v1"

def EPSILON : ℚ := 5 / 1000

def STEP_LIMIT : ℚ := 50 / 1000

def MAX_EXCHANGE : ℚ := 12

def MODEL_TTL : ℚ := 180

def PAIR_DRIFT : ℚ := 1 / 1000

/-- `capture()`. -/
def capture (reading : ClockReading) : Facts Instant :=
  if EPSILON < reading.after - reading.before then .error (.clock "clock_capture_delayed")
  else .ok ⟨reading.wall, (reading.before + reading.after) / 2⟩

/-- `valid_nonce(value)` for a text: 32 lower case hexadecimal digits. -/
def validNonce (nonce : String) : Bool :=
  nonce.length = 32 && nonce.toList.all fun digit =>
    digit.isDigit || (97 ≤ digit.toNat && digit.toNat ≤ 102)

/-- `Estimate`. -/
structure Estimate where
  low : ℚ
  high : ℚ
  receivedWall : ℚ
  receivedMono : ℚ
  bootId : Value
  machine : String
  localBoot : String
  networkRtt : ℚ

/-- `Estimate.bounds`. -/
def Estimate.bounds (model : Estimate) (now : Instant) (localIdentity : Option String) :
    Facts (ℚ × ℚ) :=
  let elapsed := now.mono - model.receivedMono
  if ¬(0 ≤ elapsed ∧ elapsed ≤ MODEL_TTL) then .error (.clock "clock_model_expired")
  else if STEP_LIMIT < |now.wall - model.receivedWall - elapsed| then
    .error (.clock "clock_local_step")
  else if localIdentity.any (· ≠ model.localBoot) then .error (.clock "clock_local_boot_changed")
  else .ok (model.low - elapsed * PAIR_DRIFT, model.high + elapsed * PAIR_DRIFT)

/-- `Estimate.age_bounds` of a finite stamp. -/
def Estimate.ageBounds (model : Estimate) (stamp : ℚ) (now : Instant) : Facts (ℚ × ℚ) := do
  let (low, high) ← model.bounds now none
  let age := model.receivedWall + now.mono - model.receivedMono - stamp
  return (age + low, age + high)

/-- `Estimate.diagnostic`, of which only the exception matters. -/
def Estimate.diagnostic (model : Estimate) (now : Instant) : Facts (ℚ × ℚ) := do
  let (low, high) ← model.bounds now none
  return ((low + high) / 2, (high - low) / 2)

/-- `except (KeyError, TypeError, OverflowError)`: raised again as `ClockRejected`. -/
def asClockInvalid {α : Type} : Facts α → Facts α
  | .error (.python error) =>
    if error.kind = .key ∨ error.kind = .type ∨ error.kind = .overflow then
      .error (.clock "clock_invalid")
    else .error (.python error)
  | outcome => outcome

/-- `finite(instant[key])`. -/
def finiteAt (instant : Value) (key : String) : Except PyError Bool := do
  return (← (← instant.index key).finite?).isSome

/-- The wall and boottime readings of a remote instant that was checked. -/
def readInstant (instant : Value) : Facts Instant := do
  let wall ← requireNumber (← instant.index "wall") (fun _ => true) (.clock "clock_invalid")
  let mono ← requireNumber (← instant.index "mono") (fun _ => true) (.clock "clock_invalid")
  return ⟨wall, mono⟩

/-- `estimate`; the readings of this host are finite. -/
def estimate (value : Value) (nonce : String) (sent received : Instant) (machine : String)
    (bootId : Option Value) (localBoot : String) : Facts Estimate :=
  asClockInvalid do
    requireAll [(value.index "schema").map (·.isText SCHEMA), .ok (validNonce nonce),
      (value.index "nonce").map (·.isText nonce)] (.clock "clock_nonce_mismatch")
    requireAll [.ok (machine.length = 64),
      (value.index "machine_id_sha256").map (·.isText machine),
      (value.index "boot_id").map (·.isNonemptyText),
      (value.index "boot_id").map fun boot => bootId.all boot.same]
      (.clock "clock_identity_mismatch")
    let a ← value.index "received"
    let b ← value.index "sent"
    requireAll [finiteAt a "wall", finiteAt a "mono", finiteAt b "wall", finiteAt b "mono"]
      (.clock "clock_invalid")
    let a ← readInstant a
    let b ← readInstant b
    let elapsed := received.mono - sent.mono
    let remote := b.mono - a.mono
    rejectIf (¬(0 ≤ remote ∧ remote ≤ elapsed + 2 * EPSILON) ∨
      ¬(0 ≤ elapsed ∧ elapsed ≤ MAX_EXCHANGE)) (.clock "clock_exchange_delayed")
    rejectIf (STEP_LIMIT < |received.wall - sent.wall - elapsed| ∨
      STEP_LIMIT < |b.wall - a.wall - remote|) (.clock "clock_step_during_exchange")
    let low := b.wall - received.wall - EPSILON
    let high := a.wall - sent.wall + EPSILON
    rejectIf (high + EPSILON < low) (.clock "clock_interval_invalid")
    let boot ← value.index "boot_id"
    return ⟨low, max low high, received.wall, received.mono, boot, machine, localBoot,
      max 0 (elapsed - remote)⟩

/-- `monotonic_source_age`: no wall reading enters it. -/
def monotonicSourceAge (value : Value) (nonce : String) (sent received : Instant)
    (machine : String) (bootId sourceMono : Value) (maxAge : ℚ) : Facts ℚ :=
  asClockInvalid do
    requireAll [(value.index "schema").map (·.isText SCHEMA), .ok (validNonce nonce),
      (value.index "nonce").map (·.isText nonce)] (.clock "clock_nonce_mismatch")
    requireAll [(value.index "machine_id_sha256").map (·.isText machine),
      .ok (machine.length = 64), (value.index "boot_id").map (·.same bootId)]
      (.clock "clock_identity_mismatch")
    let a ← value.path ["received", "mono"]
    let b ← value.path ["sent", "mono"]
    let a ← requireNumber a (0 ≤ ·) (.clock "clock_invalid")
    let b ← requireNumber b (0 ≤ ·) (.clock "clock_invalid")
    rejectIf (¬(0 ≤ sent.mono ∧ 0 ≤ received.mono)) (.clock "clock_invalid")
    let sourceMono ← requireNumber sourceMono (0 ≤ ·) (.clock "clock_invalid")
    let elapsed := received.mono - sent.mono
    let remote := b - a
    rejectIf (¬(0 ≤ elapsed ∧ elapsed ≤ MAX_EXCHANGE) ∨
      ¬(0 ≤ remote ∧ remote ≤ elapsed + 2 * EPSILON)) (.clock "clock_exchange_delayed")
    let age := b - sourceMono
    rejectIf (age < -EPSILON ∨ maxAge < age + elapsed) (.clock "clock_source_expired")
    return max 0 age + elapsed

end LiveStream.Fallback

import LiveStream.Relay.Lease

/-! The guard of a relay: it owns the forwarding of MediaMTX, and permits it while a lease holds and
the input is fresh. -/

namespace LiveStream.Relay

open LiveStream.Support

universe u

-- `δ` is a forward destination of the configuration.
variable {δ : Type u}

/-! ### What the control API returns -/

structure PathItem where
  name : Option String
  online : Bool

/-- A connection; `none` where `conn["id"]` or `int(…)` raises. -/
structure Connection where
  state : Option String
  path : Option String
  id : Option String
  inboundBytes : Option Int

/-- A forward destination; `none` where there is no position, or where `int(…)` raises. -/
structure ForwardItem where
  pos : Option Int
  state : Option String
  outboundBytes : Option Int
  inboundBytes : Option Int
  lastError : Bool

inductive Provider where
  | youtube | twitch
  deriving DecidableEq

/-- A row of the projection. -/
structure Forwarded where
  provider : Provider
  state : Option String
  outboundBytes : Int
  inboundBytes : Int
  errorPresent : Bool

/-! ### The guard -/

structure OperatorGrant where
  target : String
  authorityEpoch : String
  grantExpiresAt : ℚ

structure Config (δ : Type u) where
  continuous : Bool
  grant : OperatorGrant
  destinations : List δ

structure Guard (δ : Type u) where
  config : Config δ
  relayInstance : String
  highwater : Int
  lease : Option Lease
  /-- `proc.poll() is None`. -/
  running : Bool
  enabled : Bool
  halted : Bool
  reason : String
  lastBytes : Int
  lastProgress : ℚ
  inputId : String
  twitchDisabled : Bool
  twitchFirstAttempt : Option ℚ
  projection : List Forwarded
  lastWall : ℚ
  lastElapsed : ℚ
  grantElapsedDeadline : ℚ

/-- `Guard.__init__`, once MediaMTX answers. -/
def Guard.init (config : Config δ) (relayInstance : String) (highwater : Int) (wall elapsed : ℚ) : Guard δ where
  config := config
  relayInstance := relayInstance
  highwater := highwater
  lease := none
  running := true
  enabled := false
  halted := false
  reason := "WAITING_FOR_LEASE"
  lastBytes := 0
  lastProgress := elapsed
  inputId := ""
  twitchDisabled := false
  twitchFirstAttempt := none
  projection := []
  lastWall := wall
  lastElapsed := elapsed
  grantElapsedDeadline := elapsed + config.grant.grantExpiresAt - wall

namespace Guard

/-- `stop`; `ended` tells whether MediaMTX ended. -/
def stop (guard : Guard δ) (reason : String) (ended : Bool) : Guard δ :=
  { guard with
    reason := if guard.halted then guard.reason else reason
    halted := true
    enabled := false
    running := guard.running && !ended }

/-- The fields of a body that the operator's grant fixes. -/
def granted (guard : Guard δ) (raw : Fields) : Bool :=
  let grant := guard.config.grant
  (raw.get? "target").any (Value.isText grant.target) &&
    (raw.get? "authority_epoch").any (Value.isText grant.authorityEpoch) &&
    (guard.config.continuous ||
      ((raw.get? "grant_expires_at").bind Value.double?).any (· = .finite grant.grantExpiresAt))

/-- The lease that `accept` admits. -/
def admits (sign : Fields → Option String) (guard : Guard δ) (raw : Fields) (signature : Value)
    (wall elapsed : ℚ) : Except Refusal Lease :=
  if guard.halted then .error (.rejected "RELAY_HALTED")
  else if ¬ guard.granted raw then .error (.rejected "OPERATOR_GRANT_MISMATCH")
  else admitLease sign raw signature guard.relayInstance guard.highwater wall elapsed guard.lease
    guard.config.continuous

end Guard

/-- What the world shows to a call of `tick`, in the order in which it looks: `none` and `false` where
a request raises. -/
structure Readings where
  running : Bool
  now : ℚ
  wall : ℚ
  leaseWall : ℚ
  paths : Option (List PathItem)
  connections : Option (List Connection)
  forwardWall : ℚ
  forwardElapsed : ℚ
  forwarded : Bool
  firstAttempt : ℚ
  forwards : Option (List ForwardItem)
  youtubeElapsed : ℚ
  twitchElapsed : ℚ
  twitchRemoved : Bool
  /-- Whether MediaMTX ends, should `tick` stop it. -/
  ended : Bool

/-- What `tick` leaves: the guard, the destination lists it patched, and whether it raised. -/
structure Ticked (δ : Type u) where
  guard : Guard δ
  patches : List (List δ)
  raised : Bool

/-- What the look at the input gives. -/
inductive Input (δ : Type u) where
  | raised
  | changed
  | seen (guard : Guard δ) (online : Bool)

namespace Guard

variable (guard : Guard δ) (readings : Readings)

def halt (reason : String) : Ticked δ := ⟨guard.stop reason readings.ended, [], false⟩

/-- The part of `tick` that looks at the input. -/
def input : Input δ :=
  match readings.paths with
  | none => .raised
  | some paths =>
    if paths.any fun path => path.name = some "relay" ∧ path.online then
      match readings.connections with
      | none => .raised
      | some connections =>
        match connections.find? fun conn => conn.state = some "publish" ∧ conn.path = some "relay" with
        | none => .seen guard true
        | some conn =>
          match conn.id, conn.inboundBytes with
          | some identity, some count =>
            if guard.inputId ≠ "" ∧ identity ≠ guard.inputId then .changed
            else if guard.lastBytes < count then
              .seen { guard with inputId := identity, lastBytes := count, lastProgress := readings.now } true
            else .seen { guard with inputId := identity } true
          | _, _ => .raised
    else .seen guard false

/-- `positions` has no repetition and holds only 1 and 2. -/
def bound (items : List ForwardItem) : Bool :=
  (items.map ForwardItem.pos).Nodup ∧ items.all fun item => item.pos = some 1 ∨ item.pos = some 2

/-- The rows of the projection, unless `int(…)` raises. -/
def project (items : List ForwardItem) : Option (List Forwarded) :=
  let row (item : ForwardItem) : Option Forwarded := do
    let outbound ← item.outboundBytes
    let inbound ← item.inboundBytes
    return ⟨if item.pos = some 1 then .youtube else .twitch, item.state, outbound, inbound, item.lastError⟩
  ((items.filter fun item => item.pos = some 1) ++ items.filter fun item => item.pos ≠ some 1).mapM row

/-- A provider that reports an error, or does not forward 15 seconds after the first attempt. -/
def failing (provider : Provider) (elapsed : ℚ) : Bool :=
  let row := guard.projection.find? fun row => row.provider = provider
  (row.any Forwarded.errorPresent) || ((guard.twitchFirstAttempt.any fun first => 15 < elapsed - first) &&
    !row.any fun row => row.state = some "forwarding")

/-- The part of `tick` that looks at the forwarding. -/
def watch : Ticked δ :=
  match readings.forwards with
  | none => ⟨guard, [], true⟩
  | some items =>
    if ¬ bound items then guard.halt readings "FORWARD_PROVIDER_BINDING_INVALID"
    else
      match project items with
      | none => ⟨guard, [], true⟩
      | some rows =>
        let guard := { guard with projection := rows }
        if guard.failing .youtube readings.youtubeElapsed then guard.halt readings "YOUTUBE_FORWARD_FAILED"
        else if !guard.twitchDisabled && guard.failing .twitch readings.twitchElapsed then
          -- Twitch is taken out once; the handler of YouTube stays.
          let patch := guard.config.destinations.take 1
          if readings.twitchRemoved then ⟨{ guard with twitchDisabled := true }, [patch], false⟩
          else ⟨guard, [patch], true⟩
        else ⟨guard, [], false⟩

/-- The part of `tick` that permits the forwarding. -/
def permit (online : Bool) : Ticked δ :=
  if guard.enabled ∧ (¬ online ∨ 4 < readings.now - guard.lastProgress) then guard.halt readings "INPUT_STALE"
  else
    match guard.enabled, guard.lease with
    | true, _ => guard.watch readings
    | false, none => ⟨guard, [], false⟩
    | false, some lease =>
      if online ∧ 0 < guard.lastBytes ∧ readings.now - guard.lastProgress < 2 then
        if ¬ lease.valid readings.forwardWall readings.forwardElapsed then
          guard.halt readings "LEASE_EXPIRED_BEFORE_FORWARD"
        else
          let patch := guard.config.destinations
          if readings.forwarded then
            let after := { guard with
              enabled := true, reason := "FORWARDING", twitchFirstAttempt := some readings.firstAttempt }
            let watched := after.watch readings
            { watched with patches := patch :: watched.patches }
          else ⟨guard, [patch], true⟩
      else ⟨guard, [], false⟩

def tick : Ticked δ :=
  if guard.halted then ⟨guard, [], false⟩
  else if ¬ (guard.running ∧ readings.running) then guard.halt readings "MEDIAMTX_EXITED"
  else if readings.wall < guard.lastWall ∨
      2 < |(readings.wall - guard.lastWall) - (readings.now - guard.lastElapsed)| then
    guard.halt readings "RELAY_CLOCK_CHANGED"
  else
    let guard := { guard with lastWall := readings.wall, lastElapsed := readings.now }
    if ¬ guard.config.continuous ∧ guard.grantElapsedDeadline ≤ readings.now then
      guard.halt readings "OPERATOR_GRANT_ELAPSED_EXPIRED"
    else if ¬ guard.config.continuous ∧ guard.config.grant.grantExpiresAt ≤ readings.wall then
      guard.halt readings "OPERATOR_GRANT_EXPIRED"
    else if guard.lease.any fun lease => ¬ lease.valid readings.leaseWall readings.now then
      guard.halt readings "LEASE_EXPIRED"
    else
      match guard.input readings with
      | .raised => ⟨guard, [], true⟩
      | .changed => guard.halt readings "INPUT_INSTANCE_CHANGED"
      | .seen guard online => guard.permit readings online

end Guard

/-! ### Guards over one lease database -/

/-- How the update of `highwater` ends: it is durable, or it raises without or with an effect. -/
inductive Save where
  | kept | lost | replaced
  deriving DecidableEq

/-- A lease that was admitted, with the request and the clocks at which it was. -/
structure Admission where
  raw : Fields
  signature : Value
  wall : ℚ
  elapsed : ℚ
  lease : Lease

/-- A running guard. `raised` after a `tick` that raised, until `main` has stopped the guard. -/
structure Process (δ : Type u) where
  guard : Guard δ
  raised : Bool
  leases : List Admission
  patches : List (List δ)

structure World (δ : Type u) where
  highwater : Int
  process : Option (Process δ)
  admissions : List Admission

def World.empty : World δ := ⟨0, none, []⟩

inductive Event (δ : Type u) where
  | boot (config : Config δ) (relayInstance : String) (wall elapsed : ℚ)
  | accept (raw : Fields) (signature : Value) (wall elapsed : ℚ) (save : Save)
  /-- `POST /stop` for this instance. -/
  | stop (ended : Bool)
  | tick (readings : Readings)
  /-- The handler in `main` of an exception out of `tick`. -/
  | recover (error : String) (ended : Bool)
  | exit

/-- `accept`. -/
def World.accept (sign : Fields → Option String) (world : World δ) (process : Process δ) (raw : Fields)
    (signature : Value) (wall elapsed : ℚ) (save : Save) : World δ :=
  match process.guard.admits sign raw signature wall elapsed with
  | .error _ => world
  | .ok lease =>
    match save with
    | .lost => world
    | .replaced => { world with highwater := lease.body.sequence }
    | .kept =>
      let admission : Admission := ⟨raw, signature, wall, elapsed, lease⟩
      { highwater := lease.body.sequence
        process := some { process with
          guard := { process.guard with highwater := lease.body.sequence, lease := some lease }
          leases := process.leases ++ [admission] }
        admissions := world.admissions ++ [admission] }

/-- A step of a process that is up. -/
def World.act (sign : Fields → Option String) (world : World δ) (process : Process δ) : Event δ → World δ
  | .boot .. => world
  | .accept raw signature wall elapsed save => world.accept sign process raw signature wall elapsed save
  | .stop ended =>
    { world with process := some { process with guard := process.guard.stop "OPERATOR_STOP" ended } }
  | .tick readings =>
    if process.raised then world
    else
      let ticked := process.guard.tick readings
      { world with process := some { process with
          guard := ticked.guard, raised := ticked.raised, patches := process.patches ++ ticked.patches } }
  | .recover error ended =>
    if process.raised then
      { world with process := some { process with
          guard := process.guard.stop ("CONTROL_API_UNAVAILABLE_" ++ error) ended, raised := false } }
    else world
  | .exit => { world with process := none }

def World.step (sign : Fields → Option String) (world : World δ) (event : Event δ) : World δ :=
  match world.process with
  | some process => world.act sign process event
  | none =>
    match event with
    | .boot config relayInstance wall elapsed =>
      let guard := Guard.init config relayInstance world.highwater wall elapsed
      { world with process := some ⟨guard, false, [], []⟩ }
    | _ => world

def World.run (sign : Fields → Option String) (events : List (Event δ)) : World δ :=
  events.foldl (World.step sign) .empty

end LiveStream.Relay

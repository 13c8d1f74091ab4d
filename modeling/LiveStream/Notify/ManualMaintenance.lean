import LiveStream.Support.Mapping

/-! Notifications during a manual maintenance: what a bundle of observations must show before an
incident is deferred, and the lease that bounds it. -/

namespace LiveStream.Notify.ManualMaintenance

open LiveStream.Support

/-- `MAINTENANCE_PHASES`. -/
inductive Phase where
  | normal | preparing | awaitingSlateConfirmation | maintenance | resuming | verifying | restoring
  deriving DecidableEq

def Phase.parse (text : String) : Option Phase :=
  [("NORMAL", .normal), ("PREPARING", .preparing),
    ("AWAITING_SLATE_CONFIRMATION", .awaitingSlateConfirmation), ("MAINTENANCE", .maintenance),
    ("RESUMING", .resuming), ("VERIFYING", .verifying), ("RESTORING", .restoring)].lookup text

def Phase.text : Phase → String
  | .normal => "NORMAL"
  | .preparing => "PREPARING"
  | .awaitingSlateConfirmation => "AWAITING_SLATE_CONFIRMATION"
  | .maintenance => "MAINTENANCE"
  | .resuming => "RESUMING"
  | .verifying => "VERIFYING"
  | .restoring => "RESTORING"

/-- A `timing.Reading`. -/
structure Reading where
  wall : ℚ
  mono : ℚ
  host : String
  boot : String
  machine : String
  uncertainty : ℚ := 0
  deriving DecidableEq

structure StopWindow where
  stopped : ℚ
  resumed : Option ℚ
  deriving DecidableEq

inductive Output where
  | notRequired | pending | bad | good
  deriving DecidableEq

/-- The identity of a session. Its host is always the delivery host. -/
structure Identity where
  generation : ℤ
  session : Value

/-- `state['manual_maintenance_notifications']`. The identity and the generation are written
together. -/
structure Slot where
  phase : Option Phase := none
  identity : Option Identity := none
  receiverBoot : Option String := none
  deadline : Option ℚ := none
  expiresMono : Option ℚ := none
  activeSinceMono : Option ℚ := none
  output : Option Output := none
  stopWindow : Option StopWindow := none
  deferredIds : Finset String := ∅

/-- `slot.get('generation', 0)`. -/
def Slot.generation (slot : Slot) : ℤ := (slot.identity.map Identity.generation).getD 0

/-- What `datetime.fromisoformat` makes of the texts of stamps with a zone. -/
abbrev Stamps := String → Option ℚ

def sourceTtl : ℚ := 35

def outputWait : ℚ := 90

def epsilon : ℚ := 1 / 200

/-- `timing.epoch`. -/
def epoch (stamps : Stamps) (value : Value) : Except PyError (Option ℚ) := do
  match ← value.finite? with
  | some number => pure (if 0 < number then some number else none)
  | none => pure ((value.text?.bind stamps).filter fun stamp => 0 < stamp)

/-- The checks of `timing.qualify` and the age they lead to. No exchange and no clock model is given,
so that only a sample of this machine has an age. -/
def sampleAge (stamps : Stamps) (metadata : Value) (now : Reading) (source : String) :
    Except PyError ℚ := do
  rejectIf (now.mono < 0) (valueError "observation_receiver_time_invalid")
  rejectIf (¬ (0 ≤ now.uncertainty ∧ now.uncertainty ≤ epsilon))
    (valueError "observation_capture_delayed")
  rejectIf (¬ metadata.isDict) (valueError "observation_metadata_missing_or_invalid")
  rejectIf (¬ (← metadata.getD "schema" .none).isText "stream.observation_time.v1")
    (valueError "observation_metadata_missing_or_invalid")
  let named ← every (["source", "source_host", "machine_id_sha256", "boot_id", "sample_id"].map
    fun key => (metadata.getD key .none).map Value.isNonemptyText)
  rejectIf (¬ named) (valueError "observation_identity_invalid")
  rejectIf (¬ (← metadata.index "source").isText source) (valueError "observation_source_mismatch")
  let mono ← metadata.index "observed_boottime"
  let uncertainty ← (← metadata.getD "capture_uncertainty_sec" (.float (.finite 0))).finite?
  let uncertainty ← orReject (valueError "observation_capture_delayed")
    (uncertainty.filter fun uncertainty => 0 ≤ uncertainty ∧ uncertainty ≤ epsilon)
  let wall ← epoch stamps (← metadata.index "observed_at_utc")
  let mono ← orReject (valueError "observation_timestamp_invalid")
    ((← mono.finite?).filter fun mono => 0 ≤ mono ∧ wall.isSome)
  rejectIf (¬ (← metadata.index "machine_id_sha256").isText now.machine)
    (valueError "observation_remote_clock_unavailable")
  rejectIf (¬ ((← metadata.index "boot_id").isText now.boot ∧
    (← metadata.index "source_host").isText now.host))
    (valueError "observation_local_identity_changed")
  rejectIf (now.mono - mono < -epsilon) (valueError "observation_boottime_future")
  pure (now.mono - mono + (uncertainty + now.uncertainty))

/-- `timing.qualify`: the upper bound of the age of a valid sample. -/
def qualify (stamps : Stamps) (metadata : Value) (now : Reading) (maxAge : ℚ) (source : String) :
    Option ℚ :=
  match sampleAge stamps metadata now source with
  | .error _ => none
  | .ok age => if maxAge < age then none else some (max 0 age)

/-- Facts that are admitted, with the age of their sample. -/
structure Admitted where
  phase : Phase
  identity : Identity
  ageUpper : ℚ

/-- Whether the slot holds this identity. -/
def Slot.same (slot : Slot) (identity : Identity) : Prop :=
  ∃ old ∈ slot.identity, identity.generation = old.generation ∧ identity.session.same old.session

instance (slot : Slot) (identity : Identity) : Decidable (slot.same identity) :=
  inferInstanceAs (Decidable (∃ old ∈ slot.identity, _))

/-- The checks of `assess` up to the identity. -/
def admission (stamps : Stamps) (bundle facts : Value) (slot : Slot) (now : Reading) :
    Except PyError Admitted := do
  let metadata ← facts.getD "observation_time" .none
  let ageUpper ← orReject (valueError "") (qualify stamps metadata now sourceTtl "manual_maintenance")
  rejectIf (¬ (← facts.getD "available" .none).isTrue) (valueError "")
  rejectIf (¬ (← facts.getD "schema" .none).isText "stream_v3.manual_maintenance_facts.v1")
    (valueError "")
  rejectIf (¬ (← facts.getD "source_host_id" .none).isText "delivery-host") (valueError "")
  let state ← bundle.getD "state" (.dict [])
  let bootId ← facts.getD "source_boot_id" .none
  rejectIf (¬ bootId.same (← state.getD "source_boot_id" .none)) (valueError "")
  let generation ← orReject (valueError "") (← facts.getD "generation" .none).count?
  rejectIf (generation < slot.generation) (valueError "")
  let phase ← facts.index "phase"
  let phase ← orReject (valueError "") (phase.text?.bind Phase.parse)
  let identity : Identity := ⟨generation, ← facts.getD "session_id" .none⟩
  -- another session of the generation that the slot holds
  rejectIf (slot.identity.isSome ∧ identity.generation = slot.generation ∧ ¬ slot.same identity)
    (valueError "")
  pure ⟨phase, identity, ageUpper⟩

/-- `resumed <= observed + 1`. -/
def notAfter (resumed : ℚ) (observed : Value) : Except PyError Bool :=
  match observed.double? with
  | some (.finite observed) => .ok (resumed ≤ observed + 1)
  | some .posInf => .ok true
  | some .negInf | some .nan => .ok false
  | none => .error (typeError "unsupported operand type(s) for +")

/-- The stop window that facts of the phase NORMAL show. -/
def normalWindow (facts : Value) (now : Reading) : Except PyError (Option StopWindow) := do
  match ← (← facts.getD "source_stopped_at" .none).finite?,
      ← (← facts.getD "source_resumed_at" .none).finite? with
  | some stopped, some resumed =>
    if resumed < stopped then pure none
    else if ¬ (← notAfter resumed (← facts.getD "observed_epoch" (.int 0))) then pure none
    else if 0 ≤ now.wall - resumed ∧ now.wall - resumed ≤ 21600 then
      pure (some ⟨stopped, some resumed⟩)
    else pure none
  | _, _ => pure none

/-- The lease of an active session. -/
structure Lease where
  deadline : ℚ
  observed : ℚ
  expires : ℚ
  since : ℚ

def takeLease (facts : Value) (slot : Slot) (now : Reading) (admitted : Admitted) :
    Except PyError Lease := do
  let deadline ← orReject (valueError "") (← (← facts.getD "deadline" .none).finite?)
  let observed ← orReject (valueError "") (← (← facts.getD "observed_epoch" .none).finite?)
  let remaining := deadline - observed - admitted.ageUpper
  rejectIf (86400 < remaining ∨ slot.same admitted.identity ∧ slot.deadline ≠ some deadline)
    (valueError "")
  let held := slot.same admitted.identity ∧ slot.receiverBoot = some now.boot
  let expires :=
    match slot.expiresMono with
    | some expires => if held then min (now.mono + remaining) expires else now.mono + remaining
    | none => now.mono + remaining
  let since ← orReject (valueError "")
    ((if held then slot.activeSinceMono else some now.mono).filter
      fun since => 0 ≤ since ∧ since ≤ now.mono)
  pure ⟨deadline, observed, expires, since⟩

/-- The stop window that facts of an active phase show. -/
def activeWindow (facts : Value) (lease : Lease) : Except PyError (Option StopWindow) := do
  match ← (← facts.getD "source_stopped_at" .none).finite? with
  | none => pure none
  | some stopped =>
    if 0 ≤ lease.observed - stopped ∧ lease.observed - stopped ≤ 86400 then
      let resumed ← (← facts.getD "source_resumed_at" .none).finite?
      pure (some ⟨stopped,
        resumed.filter fun resumed => stopped ≤ resumed ∧ resumed ≤ lease.observed + 1⟩)
    else pure none

def isZero : Value → Bool
  | .int number => number = 0
  | _ => false

/-- Whether the main deployment is observed at zero. -/
def mainStopped (facts : Value) : Except PyError Bool := do
  let main ← facts.getD "main_status" (.dict [])
  every [(facts.getD "expected_main_stopped" .none).map Value.isTrue,
    do pure ((← main.getD "uid" .none).same (← facts.getD "main_deployment_uid" .none)),
    (main.getD "replicas" .none).map isZero,
    (main.getD "active_pods" .none).map isZero]

/-- The row of a destination. -/
def destination (native : Value) (target : String) : Except PyError Value := do
  (← native.getD "destinations" (.dict [])).getD target (.dict [])

/-- The verdict of the first destination that is not forwarding. -/
def destinations (native : Value) : List String → Except PyError (Option Output)
  | [] => pure none
  | target :: rest => do
    let row ← destination native target
    if (← row.getD "classification" .none).isText "target_bad" then pure (some .bad)
    else if (← row.getD "flowing" .none).isFalse then pure (some .bad)
    else if ¬ (← row.getD "state" .none).isText "forwarding" then pure (some .pending)
    else if ¬ (← row.getD "flowing" .none).isTrue then pure (some .pending)
    else destinations native rest

/-- Whether the relay's sample may be trusted and is recent. -/
def relaySampled (stamps : Stamps) (bundle : Value) (observed ageUpper : ℚ) : Except PyError Bool := do
  let contract ← bundle.getD "observer_contract" (.dict [])
  let state ← bundle.getD "state" (.dict [])
  let targets ← state.getD "targets" (.dict [])
  let row ← targets.getD "oci_relay" (.dict [])
  let captured ← epoch stamps (← row.getD "captured_at_utc" .none)
  every [(contract.getD "runtime_attested" .none).map Value.isTrue,
    (contract.getD "compatible" .none).map Value.isTrue,
    (row.getD "source_binding_ok" .none).map Value.isTrue,
    (row.getD "capture_ok" .none).map Value.isTrue,
    .ok (captured.any fun captured =>
      decide (-1 ≤ observed - captured + ageUpper ∧ observed - captured + ageUpper ≤ 30))]

/-- Whether the native observation is of after the stop, and recent. -/
def nativeFresh (stamps : Stamps) (native facts : Value) (ageUpper : ℚ) : Except PyError Bool := do
  let observed ← epoch stamps (← native.getD "observed_at_utc" .none)
  match ← (← facts.getD "source_stopped_at" .none).finite?, observed with
  | some stopped, some observed =>
    every [.ok (decide (stopped - 1 ≤ observed)), (native.getD "fresh" .none).map Value.isTrue,
      do pure ((← (← native.getD "source_age_seconds" .none).finite?).any fun age =>
        decide (0 ≤ age + ageUpper ∧ age + ageUpper ≤ 90))]
  | _, _ => pure false

/-- `_output`. -/
def slateOutput (stamps : Stamps) (bundle facts : Value) (observed ageUpper : ℚ) :
    Except PyError Output := do
  let native ← bundle.getD "native_delivery" (.dict [])
  if ¬ (← native.getD "source_boot_id" .none).same (← facts.getD "oci_boot_id" .none) then pure .bad
  else if ¬ (← nativeFresh stamps native facts ageUpper) then pure .pending
  else
    match ← destinations native ["youtube", "twitch"] with
    | some verdict => pure verdict
    | none => pure (if ← relaySampled stamps bundle observed ageUpper then .good else .pending)

/-- An `_alert`. -/
structure Alert where
  summary : String
  observedTs : ℤ
  deriving DecidableEq

def Alert.id (alert : Alert) : String := "manual_maintenance:" ++ alert.summary

/-- What `assess` returns: whether `DEFERRED_IDS` are eligible, and the alerts. -/
structure Verdict where
  eligible : Bool
  alerts : List Alert
  deriving DecidableEq

def clear : Verdict := ⟨false, []⟩

def alarm (summary : String) (now : Reading) : Verdict := ⟨false, [⟨summary, truncate now.wall⟩]⟩

/-- The part of `assess` after the slot has taken the lease. -/
def verdict (stamps : Stamps) (bundle facts : Value) (slot : Slot) (now : Reading)
    (admitted : Admitted) (lease : Lease) : Slot × Except PyError Verdict :=
  match facts.getD "overdue" .none with
  | .error error => (slot, .error error)
  | .ok overdue =>
    if overdue.isTrue ∨ lease.expires ≤ now.mono then (slot, .ok (alarm "deadline_exceeded" now))
    else if admitted.phase ≠ .awaitingSlateConfirmation ∧ admitted.phase ≠ .maintenance then
      (slot, .ok clear)
    else
      match mainStopped facts with
      | .error error => (slot, .error error)
      | .ok false => (slot, .ok (alarm "main_stop_not_confirmed" now))
      | .ok true =>
        match slateOutput stamps bundle facts lease.observed admitted.ageUpper with
        | .error error => (slot, .error error)
        | .ok output =>
          let wasGood := slot.output = some .good
          let slot := { slot with output := some output }
          if output = .bad ∨ output ≠ .good ∧ (wasGood ∨ outputWait ≤ now.mono - lease.since) then
            (slot, .ok (alarm "slate_output_unavailable" now))
          else if output ≠ .good then (slot, .ok clear)
          else (slot, .ok ⟨true, []⟩)

/-- The slot with a stop window, where there is one. -/
def Slot.stop (slot : Slot) (window : Option StopWindow) : Slot :=
  match window with
  | none => slot
  | some window => { slot with stopWindow := some window }

/-- The body of the `try` in `assess`. -/
def judge (stamps : Stamps) (bundle facts : Value) (slot : Slot) (now : Reading) :
    Slot × Except PyError Verdict :=
  match admission stamps bundle facts slot now with
  | .error error => (slot, .error error)
  | .ok admitted =>
    if admitted.phase = .normal then
      let slot := { slot with
        identity := some admitted.identity
        phase := some .normal
        deferredIds := ∅
        output := some .notRequired }
      match normalWindow facts now with
      | .error error => (slot, .error error)
      | .ok window => (slot.stop window, .ok clear)
    else
      match takeLease facts slot now admitted with
      | .error error => (slot, .error error)
      | .ok lease =>
        let slot := { slot with
          identity := some admitted.identity
          phase := some admitted.phase
          receiverBoot := some now.boot
          deadline := some lease.deadline
          expiresMono := some lease.expires
          activeSinceMono := some lease.since
          deferredIds := ∅ }
        match activeWindow facts lease with
        | .error error => (slot, .error error)
        | .ok window => verdict stamps bundle facts (slot.stop window) now admitted lease

/-- The exceptions that `assess` turns into an alert. -/
def PyError.caught (error : PyError) : Bool :=
  error.kind ∈ [ErrorKind.value, .type, .key, .attribute]

/-- `bundle.get('manual_maintenance') if isinstance(bundle, dict) else None`. -/
def factsOf (bundle : Value) : Value :=
  match bundle.getD "manual_maintenance" .none with
  | .ok facts => facts
  | .error _ => .none

/-- Whether the facts say that nothing is installed. -/
def absent (facts : Value) : Bool :=
  facts.isNone || (facts.getD "installed" .none).toOption.any Value.isFalse

/-- `assess`. -/
def assess (stamps : Stamps) (bundle : Value) (slot : Slot) (now : Reading) :
    Slot × Except PyError Verdict :=
  let facts := factsOf bundle
  if absent facts then
    let active := slot.phase ≠ none ∧ slot.phase ≠ some .normal
    (slot, .ok (if active then alarm "observation_unavailable" now else clear))
  else
    match judge stamps bundle facts slot now with
    | (slot, .ok verdict) => (slot, .ok verdict)
    | (slot, .error error) =>
      if PyError.caught error then (slot, .ok (alarm "observation_unavailable" now))
      else (slot, .error error)

/-- An incident. Evidence that is not a text is `none`. -/
structure Item where
  id : String
  evidence : Option String
  diagnosticContext : String := ""
  deriving DecidableEq

/-- `DEFERRED_IDS`. -/
def deferredIds : Finset String :=
  {"reliability:upload_ceiling_coverage_or_freshness", "reliability:upload_history_replication"}

/-- `evidence.partition('reasons=')[2].split(',')`. -/
def reasons (evidence : String) : List String :=
  (String.intercalate "reasons=" ((evidence.splitOn "reasons=").drop 1)).splitOn ","

/-- `evidence.split()`. -/
def words (evidence : String) : List String :=
  ((evidence.toList.splitOnP isSpace).filter fun word => word ≠ []).map String.ofList

/-- The incident is one that an observed stop explains. -/
def explained (item : Item) : Bool :=
  item.evidence.any fun evidence =>
    (item.id = "map:delivery_critical" &&
      (reasons evidence).all fun reason =>
        ["deployment_ready", "pod_topology_ready", "runtime_readiness", "render_heartbeat",
          "browser_contract"].contains reason) ||
    (item.id = "stream:current_fail" &&
      (words evidence).toFinset = {"youtube_status=ok", "youtube_judgment=ok",
        "youtube_stats_stale=True", "pulse_pass=True"})

/-- The ids that are deferred in a call. -/
def deferral (eligible : Bool) (items : List Item) (active : List String) : Finset String :=
  if eligible then
    (deferredIds ∪ ((items.filter explained).map Item.id).toFinset) \ active.toFinset
  else ∅

/-- The diagnostic context of a planned stop. -/
def context (jstText : ℤ → String) (slot : Slot) (now : Reading) : Option String :=
  let past : Option String := do
    let window ← slot.stopWindow
    let resumed ← window.resumed
    if 0 ≤ now.wall - resumed ∧ now.wall - resumed ≤ 21600 then
      some ("Planned main stop history=" ++ jstText (truncate window.stopped) ++ " → " ++
        jstText (truncate resumed) ++ "; historical values and recovery conditions are preserved")
    else none
  let present : Option String := do
    let phase ← slot.phase
    let expires ← slot.expiresMono
    if phase ≠ .normal ∧ slot.receiverBoot = some now.boot ∧ now.mono < expires then
      some ("Planned maintenance phase=" ++ phase.text ++
        "; independent faults and historical measurements remain monitored")
    else none
  past <|> present

/-- An incident with the context, where it is one that the context is about. -/
def Item.inContext (item : Item) (context : Option String) : Item :=
  match context with
  | none => item
  | some context =>
    if item.id.startsWith "reliability:" ∨ item.id = "map:delivery_critical" ∨
        item.id = "stream:current_fail" then
      { item with diagnosticContext := strip (item.diagnosticContext ++ " " ++ context) }
    else item

/-- A call of `apply`. -/
structure ApplyCall where
  bundle : Value
  now : Reading
  items : List Item
  active : List String

structure Applied where
  items : List Item
  alerts : List Alert
  deferred : Finset String
  deriving DecidableEq

/-- `apply`. -/
def apply (stamps : Stamps) (jstText : ℤ → String) (slot : Slot) (call : ApplyCall) :
    Slot × Except PyError Applied :=
  match assess stamps call.bundle slot call.now with
  | (slot, .error error) => (slot, .error error)
  | (slot, .ok verdict) =>
    let deferred := deferral verdict.eligible call.items call.active
    let slot := { slot with deferredIds := deferred }
    let kept := call.items.filter fun item => item.id ∉ deferred
    (slot, .ok ⟨kept.map fun item => item.inContext (context jstText slot call.now),
      verdict.alerts, deferred⟩)

end LiveStream.Notify.ManualMaintenance

import LiveStream.Maintenance.Session
import LiveStream.Support.Operators

/-! What a maintenance session demands of a snapshot of both hosts: that it is of the
hosts the session began with, that the expected content flows, and that an effect shows. -/

namespace LiveStream.Maintenance

open LiveStream.Support

/-- `require(a and b and …, reason)`. -/
def demand (checks : List (Except PyError Bool)) (reason : String) : Except PyError Unit := do
  rejectIf ((← every checks) = false) (valueError reason)

/-- `left == right` of two reads. -/
def equals (left right : Except PyError Value) : Except PyError Bool := do
  return (← left).same (← right)

/-- `left == number`. -/
def isNumber (left : Except PyError Value) (number : Int) : Except PyError Bool :=
  left.map (Value.int number).same

def TIMER : String := "stream-v3-fast-recovery-controller.timer"

def SERVICE : String := "stream-v3-fast-recovery-controller.service"

def MAX_GAP : ℚ := 45

def STABLE_SECONDS : ℚ := 300

/-- The machine that a role is configured for. -/
def Config.machine (config : Config) : Role → String
  | .dell => config.dellMachine
  | .oci => config.ociMachine

/-- The timer is disabled and neither it nor the service is active. -/
def quiesced (units : Value) : Except PyError Bool :=
  every [negated ((units.path [TIMER, "active"]).map Value.truthy),
    (units.path [TIMER, "enabled"]).map (·.isText "disabled"),
    negated ((units.path [SERVICE, "active"]).map Value.truthy)]

/-- `bound`: the snapshot is fresh and of the hosts and workloads of the session. -/
def boundChecks (session : Session) (config : Config) (now : ℚ) (snapshot : Value) :
    Except PyError Unit := do
  for role in [Role.dell, .oci] do
    let value ← snapshot.index role.key
    demand [(value.path ["identity", "machine"]).map (·.isText (config.machine role))]
      "host_identity_drift"
    demand [(value.index "observed_at").bind (Value.within now 20)] "host_observation_stale"
  demand [isNumber (snapshot.path ["dell", "backup", "replicas"]) 0,
    isNumber (snapshot.path ["dell", "backup", "active_pods"]) 0]
    "backup_sender_is_active_or_unknown"
  demand [isNumber (snapshot.path ["dell", "ledger", "unresolved"]) 0,
    (snapshot.path ["dell", "ledger", "producer_id"]).map (·.isText "independent-controller")]
    "existing_authority_not_quiescent"
  if session.phase ≠ .normal then
    let before ← orReject (keyError "before") session.before
    rejectIf (session.configSha ≠ some config) (valueError "session_config_changed")
    let unchanged := fun path => equals (snapshot.path path) (before.path path)
    demand [unchanged ["oci", "identity"]] "oci_rebooted_or_changed"
    demand [unchanged ["oci", "config_fingerprint"]] "relay_config_drift"
    demand [unchanged ["dell", "main", "uid"]] "main_workload_replaced"
    demand [unchanged ["dell", "backup", "uid"]] "backup_workload_replaced"
    demand [unchanged ["dell", "ledger"]] "authority_changed"
    if session.phase ≠ .restoring ∧
        session.effects.any (fun effect => effect.name = .quiesce ∧ effect.result = .applied) then
      demand [quiesced (← snapshot.path ["dell", "units"])] "recovery_quiescence_lost"

/-- What the public outputs should show. -/
inductive Content where
  | live | maintenanceSlate
  deriving DecidableEq

def Content.text : Content → String
  | .live => "LIVE"
  | .maintenanceSlate => "MAINTENANCE_SLATE"

/-- `epoch(value)`; `fromisoformat` gives the timestamp, or none without a time zone. -/
def epoch (fromisoformat : String → Except PyError (Option ℚ)) (value : Value) :
    Except PyError ℚ := do
  let text ← orReject (attributeError "object has no attribute 'replace'") value.text?
  orReject (valueError "timezone_required") (← fromisoformat (text.replace "Z" "+00:00"))

/-- The counters of a copy process. -/
def copyCounters : List String :=
  ["pid", "session", "output_bytes", "video_packets", "audio_packets"]

/-- The checks of `progress` against the sample before. -/
def advanceChecks (cloud cp tw previous : Value) : Except PyError Unit := do
  let before ← previous.path ["oci", "copy"]
  demand [do (← cloud.index "observed_at").after MAX_GAP (← previous.path ["oci", "observed_at"])]
    "progress_sample_gap"
  demand (["pid", "session", "boot_id", "destination_fingerprint"].map (fun key =>
      equals (cp.index key) (before.index key)) ++
    [equals (cloud.index "input_id") (previous.path ["oci", "input_id"])]) "connection_changed"
  demand (["output_bytes", "video_packets", "audio_packets"].map fun key => do
    (← cp.index key).exceeds (← before.index key)) "audio_video_or_output_stalled"
  let old ← previous.path ["oci", "twitch"]
  demand [equals (tw.index "id") (old.index "id"),
    do (← tw.index "bytes").exceeds (← old.index "bytes")] "twitch_output_not_advancing"

/-- `progress`: the content flows to both players, and since the sample before. -/
def progressChecks (fromisoformat : String → Except PyError (Option ℚ)) (session : Session)
    (config : Config) (now : ℚ) (snapshot : Value) (content : Content)
    (previous : Option Value) : Except PyError Unit := do
  let cloud ← snapshot.index "oci"
  let dell ← snapshot.index "dell"
  let cp ← cloud.index "copy"
  let tw ← cloud.index "twitch"
  demand [(cloud.index "content").map (·.isText content.text)] "expected_content_not_observed"
  demand [(cp.index "schema").map (·.isText "stream_v3.youtube_forward.v1"),
    equals (cp.index "boot_id") (cloud.path ["identity", "boot"]),
    (cp.index "destination_fingerprint").map (·.isText config.youtubeDestination),
    (cp.index "state").map (·.isText "FLOWING")] "youtube_copy_not_bound_or_flowing"
  let recent := fun field => do
    let stamp ← epoch fromisoformat (← cp.index field)
    return decide (0 ≤ now - stamp ∧ now - stamp ≤ 20)
  demand [recent "updated_at", recent "last_progress_at"] "copy_observation_stale"
  demand [(cloud.index "tracks").bind (Value.contains "H264"),
    (cloud.index "tracks").bind (Value.contains "MPEG-4 Audio")] "both_tracks_required"
  demand [(tw.getD "id" .none).map Value.truthy,
    (tw.getD "state" .none).map (·.isText "forwarding"), (tw.getD "error" .none).map (·.isFalse),
    (tw.getD "bytes" .none).map (·.isPositiveCount)] "twitch_output_not_flowing"
  demand (copyCounters.map fun key => (cp.index key).map (·.isPositiveCount))
    "copy_counter_invalid"
  match content with
  | .live =>
    demand [isNumber (dell.path ["main", "replicas"]) 1, isNumber (dell.path ["main", "ready_pods"]) 1,
      isNumber (dell.path ["main", "active_pods"]) 1, (cloud.index "input_id").map Value.truthy]
      "main_not_ready"
  | .maintenanceSlate =>
    demand [isNumber (dell.path ["main", "replicas"]) 0, isNumber (dell.path ["main", "active_pods"]) 0,
      equals (cloud.index "path_fields") (orReject (keyError "armed_fields") session.armedFields)]
      "source_not_stopped_or_slate_not_armed"
  match previous with
  | none => return ()
  | some previous => advanceChecks cloud cp tw previous

/-- `applied(effect, snapshot)`. -/
def applied (effect : Effect) (snapshot : Value) : Except PyError Bool := do
  let value ← snapshot.index effect.role.key
  match effect.request with
  | .pathPatch _ after _ => return (← value.index "path_fields").same after
  | .scaleMain uid _ after _ =>
    every [(value.path ["main", "uid"]).map (·.same uid),
      isNumber (value.path ["main", "replicas"]) after]
  | .quiesce _ _ =>
    every [(value.path ["units", TIMER, "enabled"]).map (·.isText "disabled"),
      negated ((value.path ["units", TIMER, "active"]).map Value.truthy),
      negated ((value.path ["units", SERVICE, "active"]).map Value.truthy)]
  | .restoreUnits restore _ => equals (value.path ["units", TIMER]) (restore.index TIMER)

end LiveStream.Maintenance

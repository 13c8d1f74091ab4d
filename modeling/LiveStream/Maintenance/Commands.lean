import LiveStream.Maintenance.Samples

/-! `Maintenance` and the locked commands of `main`: each runs on a fresh copy of the
session file and can be killed, interrupted or refused at every interaction. -/

namespace LiveStream.Maintenance

open LiveStream.Support Script Process

/-- What a command is started with: the configuration, the interval of stable output it
asks for, the state root, and `datetime.fromisoformat`. -/
structure Settings where
  config : Config
  stableSeconds : ℚ
  root : String
  fromisoformat : String → Except PyError (Option ℚ)

section Methods

variable (settings : Settings)

/-- The first part of `save`: another phase and its entry in the history. -/
def enter : Option Phase → Process Unit
  | none => return ()
  | some phase => do
    if (← state).phase ≠ phase then
      let now ← clock
      change fun session => { session with history := session.history ++ [(now, phase)] }
      change fun session => { session with phase := phase }

/-- `save(phase)`. -/
def save (phase : Option Phase) : Process Unit := do
  enter phase
  let now ← clock
  change fun session => { session with updatedAt := some now }
  write

/-- `bound(snapshot)`. -/
def bound (sample : Value) : Process Value := do
  let now ← clock
  lift (boundChecks (← state) settings.config now sample)
  return sample

/-- `snapshot()`. -/
def snapshot : Process Value := do bound settings (← observe)

/-- `progress(snapshot, content, previous)`. -/
def progress (sample : Value) (content : Content) (previous : Option Value) : Process Unit := do
  let now ← clock
  lift (progressChecks settings.fromisoformat (← state) settings.config now sample content previous)

/-- `except (ValueError, TypeError, KeyError)`. -/
def isProgressError (error : PyError) : Bool :=
  error.kind = .value || error.kind = .type || error.kind = .key

/-- The `try` block of `wait_content`: a sample that flows since the one before, or the one
to compare the next with. -/
def tryProgress (sample : Value) (content : Content) (previous : Option Value) :
    Process (Option Value ⊕ Value) :=
  handle
    (do
      progress settings sample content previous
      return if previous.isSome then .inr sample else .inl (some sample))
    fun error => if isProgressError error then return .inl none else throw error

/-- One round of `wait_content`. -/
def waitRound (content : Content) (deadline : ℚ) (previous : Option Value) :
    Process (Option Value ⊕ Value) := do
  if (← clock) ≤ deadline then
    let sample ← snapshot settings
    match ← tryProgress settings sample content previous with
    | .inr sample => return .inr sample
    | .inl previous =>
      sleep
      return .inl previous
  else fail "content_progress_deadline"

/-- `wait_content(content)`. -/
def waitContent (content : Content) : Process Value := do
  let deadline := (← clock) + 90
  loop (waitRound settings content deadline) none

/-- `no_unknown()`. -/
def noUnknown : Process Unit := do
  require (← state).AllApplied "reconcile_pending_effect_first"

/-- The dispatch of an effect whose entry is saved as PENDING. -/
def perform (effect : Effect) (current : Value) : Process Unit := do
  let _ ← liftM (current.path [effect.role.key, "identity", "boot"])
  dispatch effect
  let sample ← snapshot settings
  requireThat (applied effect sample) "effect_not_confirmed"
  sight effect sample
  change fun session => session.mark effect.name .applied
  save none

/-- `effect(name, role, action, **request)`. -/
def effect (name : EffectName) (role : Role) (request : Request) : Process Unit := do
  match (← state).effect? name with
  | some previous => require (previous.result = .applied) "reconcile_pending_effect_first"
  | none =>
    noUnknown
    let current ← snapshot settings
    let now ← clock
    let entry : Effect := ⟨name, role, request, .pending, now, none⟩
    change fun session => { session with effects := session.effects ++ [entry] }
    save none
    handle (perform settings entry current) fun error => do
      change fun session => session.mark name .outcomeUnknown
      save none
      throw error

/-- The loop of `reconcile` over the effects. -/
def reconcileEffects (sample : Value) : List Effect → Process Unit
  | [] => return ()
  | entry :: rest => do
    if entry.result ≠ .applied then
      requireThat (applied entry sample) "outcome_unknown_keep_inhibition_no_retry"
      sight entry sample
      change fun session => session.mark entry.name .applied
      let now ← clock
      change fun session => session.stamp entry.name now
    reconcileEffects sample rest

/-- `reconcile()`. -/
def reconcile : Process Unit := within .reconcile do
  let sample ← snapshot settings
  reconcileEffects sample (← state).effects
  save none

/-- `preflight()`. -/
def preflight : Process Value := within .preflight do
  let sample ← snapshot settings
  let status ← liftM (sample.path ["dell", "controller"])
  lift (demand [(status.getD "maintenance_guard_supported" .none).map (·.isTrue),
    (status.getD "maintenance_root" .none).map (·.isText settings.root)]
    "updated_fallback_guard_not_observed")
  let now ← clock
  let stamp ← liftM (do epoch settings.fromisoformat (← status.index "observed_at"))
  require (0 ≤ now - stamp ∧ now - stamp ≤ 30) "updated_fallback_guard_not_observed"
  lift (demand [isNumber (sample.path ["dell", "main", "replicas"]) 1,
    isNumber (sample.path ["dell", "main", "ready_pods"]) 1,
    isNumber (sample.path ["dell", "main", "active_pods"]) 1] "single_live_main_required")
  lift (demand [(sample.path ["oci", "path_fields", "alwaysAvailable"]).map (·.isFalse)]
    "existing_slate_or_other_owner")
  progress settings sample .live none
  sleep
  progress settings (← snapshot settings) .live (some sample)
  return sample

/-- The fields of the relay path while the slate is armed. -/
def armedFields (config : Config) : Value :=
  .dict [("alwaysAvailable", .bool true), ("alwaysAvailableFile", .str config.slateFile),
    ("alwaysAvailableTracks", .list [])]

/-- `advance()`. -/
def advance : Process Unit := within .advance do
  require ((← state).phase = .preparing) "not_preparing"
  noUnknown
  let before ← key Session.before "before"
  let units ← liftM (before.path ["dell", "units"])
  let ledger ← liftM (before.path ["dell", "ledger"])
  effect settings .quiesce .dell (.quiesce units ledger)
  let fields ← liftM (before.path ["oci", "path_fields"])
  let armed ← key Session.armedFields "armed_fields"
  let fingerprint ← liftM (before.path ["oci", "config_fingerprint"])
  effect settings .armSlate .oci (.pathPatch fields armed fingerprint)
  if ((← state).effect? .sourceStop).isNone then
    let _ ← waitContent settings .live
  let uid ← liftM (before.path ["dell", "main", "uid"])
  effect settings .sourceStop .dell (.scaleMain uid 1 0 ledger)
  let _ ← waitContent settings .maintenanceSlate
  save (some .awaitingSlateConfirmation)

/-- The part of `begin` that archives the session that ended. -/
def archiveEnded : Process Unit := do
  match (← state).sessionId with
  | some session => archive session
  | none => pure ()

/-- `begin(minutes, reason)`. -/
def begin (minutes : Int) (reason : String) : Process Unit := within .begin do
  require ((← state).phase = .normal) "maintenance_already_started"
  require ((1 ≤ minutes ∧ minutes ≤ 1440) ∧ (0 < reason.length ∧ reason.length ≤ 120) ∧
    Char.ofNat 10 ∉ reason.toList) "invalid_window_or_reason"
  let before ← preflight settings
  archiveEnded
  let generation := (← state).generation + 1
  let session ← uuid
  let deadline := (← clock) + minutes * 60
  change fun _ => {
    phase := .preparing
    sessionId := some session
    generation := generation
    deadline := some deadline
    reason := some reason
    configSha := some settings.config
    before := some before
    effects := []
    history := []
    armedFields := some (armedFields settings.config)
    updatedAt := none
    slatePlayerConfirmation := none
    livePlayerConfirmation := none
    stability := none
    completedAt := none }
  save none
  advance settings

/-- `require(self.clock() < self.state['deadline'], …)`. -/
def withinWindow : Process Unit := do
  let now ← clock
  let deadline ← key Session.deadline "deadline"
  require (now < deadline) "maintenance_entry_window_expired"

/-- `confirm_slate(youtube, twitch)`. -/
def confirmSlate (youtube twitch : Bool) : Process Unit := within .confirmSlate do
  let phase := (← state).phase
  require (phase = .awaitingSlateConfirmation ∨ phase = .maintenance)
    "not_awaiting_slate_confirmation"
  require (youtube = true ∧ twitch = true) "both_public_players_must_be_confirmed"
  withinWindow
  noUnknown
  let _ ← waitContent settings .maintenanceSlate
  withinWindow
  let now ← clock
  change fun session => { session with slatePlayerConfirmation := some now }
  save (some .maintenance)

/-- `check()`. -/
def check : Process Unit := within .check do
  noUnknown
  let phase := (← state).phase
  require (phase = .maintenance ∨ phase = .awaitingSlateConfirmation ∨ phase = .verifying ∨
    phase = .restoring) "no_active_content_to_check"
  let content : Content :=
    if phase = .maintenance ∨ phase = .awaitingSlateConfirmation then .maintenanceSlate else .live
  let _ ← waitContent settings content

/-- `on(minutes, reason, confirm)`. -/
def on (minutes : Int) (reason : String) : Process Unit := within .on do
  noUnknown
  let phase := (← state).phase
  if phase = .normal then begin settings minutes reason
  else if phase = .preparing then advance settings
  else
    require (phase = .awaitingSlateConfirmation ∨ phase = .maintenance)
      "return_in_progress_cannot_start"
  withinWindow
  check settings
  require ((← confirm) = true) "playback_not_confirmed_maintenance_retained"
  confirmSlate settings true true

/-- The part of `resume` that scales the main workload up again. -/
def resumeSource (before : Value) : Process Unit := do
  let current ← snapshot settings
  if (Value.int 0).same (← liftM (current.path ["dell", "main", "replicas"])) then
    let uid ← liftM (before.path ["dell", "main", "uid"])
    let ledger ← liftM (before.path ["dell", "ledger"])
    effect settings .sourceResume .dell (.scaleMain uid 0 1 ledger)

/-- The part of `resume` that takes the slate off the relay path. -/
def restorePath (before : Value) : Process Unit := do
  let current ← snapshot settings
  let fields ← liftM (current.path ["oci", "path_fields"])
  let armed ← key Session.armedFields "armed_fields"
  if fields.same armed then
    let original ← liftM (before.path ["oci", "path_fields"])
    let fingerprint ← liftM (before.path ["oci", "config_fingerprint"])
    effect settings .restorePath .oci (.pathPatch armed original fingerprint)

/-- `resume()`. -/
def resume : Process Unit := within .resume do
  let phase := (← state).phase
  require (phase = .preparing ∨ phase = .awaitingSlateConfirmation ∨ phase = .maintenance ∨
    phase = .resuming) "not_resumable"
  noUnknown
  save (some .resuming)
  let before ← key Session.before "before"
  resumeSource settings before
  let _ ← waitContent settings .live
  restorePath settings before
  let restored ← snapshot settings
  requireThat (equals (restored.path ["oci", "path_fields"]) (before.path ["oci", "path_fields"]))
    "path_restore_not_confirmed"
  let _ ← waitContent settings .live
  change fun session => { session with stability := none }
  save (some .verifying)

/-- `stability['since'] if stability else self.clock()`. -/
def stableSince : Option Stability → Process ℚ
  | some stability => pure stability.since
  | none => clock

/-- `verification_sample()`. -/
def verificationSample : Process ℚ := do
  let sample ← snapshot settings
  let before ← key Session.before "before"
  requireThat (equals (sample.path ["oci", "path_fields"]) (before.path ["oci", "path_fields"]))
    "path_not_restored"
  let stability := (← state).stability
  handle (progress settings sample .live (stability.map (·.sample))) fun error =>
    if isProgressError error then do
      change fun session => { session with stability := none }
      save none
      throw error
    else throw error
  let since ← stableSince stability
  change fun session => { session with stability := some ⟨since, sample⟩ }
  save none
  return (← clock) - since

/-- The reasons that `verify` waits out. -/
def transientReasons : List String :=
  ["copy_observation_stale", "expected_content_not_observed", "youtube_copy_not_bound_or_flowing",
    "main_not_ready", "connection_changed", "audio_video_or_output_stalled", "progress_sample_gap",
    "both_tracks_required", "twitch_output_not_flowing", "twitch_output_not_advancing"]

/-- One round of `verify`. -/
def verifyRound (deadline : ℚ) (_ : Unit) : Process (Unit ⊕ Unit) := do
  if (← clock) ≤ deadline then
    let stable ← handle
      (do return decide (settings.stableSeconds ≤ (← verificationSample settings)))
      fun error =>
        if error.kind = .value ∧ error.text ∈ transientReasons then return false else throw error
    if stable then return .inr ()
    else
      sleep
      return .inl ()
  else fail "live_stability_deadline_inhibition_retained"

/-- `verify()`. -/
def verify : Process Unit := within .verify do
  let phase := (← state).phase
  require (phase = .verifying ∨ phase = .restoring) "not_verifying"
  noUnknown
  let deadline := (← clock) + 450
  loop (verifyRound settings deadline) ()

/-- `complete(youtube, twitch, live_data)`. -/
def complete (youtube twitch liveData : Bool) : Process Unit := within .complete do
  let phase := (← state).phase
  require (phase = .verifying ∨ phase = .restoring) "not_ready_to_complete"
  require (youtube = true ∧ twitch = true ∧ liveData = true)
    "public_av_and_live_data_confirmation_required"
  noUnknown
  sleep
  let stable ← verificationSample settings
  require (settings.stableSeconds ≤ stable) "live_stability_not_yet_confirmed"
  let now ← clock
  change fun session => { session with livePlayerConfirmation := some now }
  save (some .restoring)
  let before ← key Session.before "before"
  let units ← liftM (before.path ["dell", "units"])
  let ledger ← liftM (before.path ["dell", "ledger"])
  effect settings .restoreUnits .dell (.restoreUnits units ledger)
  let now ← clock
  change fun session => { session with completedAt := some now }
  save (some .normal)

/-- `off(confirm)`. -/
def off : Process Unit := within .off do
  noUnknown
  let phase := (← state).phase
  if phase = .normal then return ()
  if phase = .preparing ∨ phase = .awaitingSlateConfirmation ∨ phase = .maintenance ∨
      phase = .resuming then
    resume settings
  else
    require (phase = .verifying ∨ phase = .restoring) "not_resumable"
  verify settings
  require ((← confirm) = true) "live_playback_not_confirmed_inhibition_retained"
  complete settings true true true

end Methods

/-- The commands of `main` that hold the lock. -/
inductive Command where
  | preflight
  | begin (minutes : Int) (reason : String)
  | advance
  | confirmSlate (youtube twitch : Bool)
  | resume
  | verify
  | complete (youtube twitch liveData : Bool)
  | reconcile
  | check
  | on (minutes : Int) (reason : String)
  | off

/-- The body of a command. -/
def Command.script (settings : Settings) : Command → Process Unit
  | .preflight => do let _ ← Maintenance.preflight settings
  | .begin minutes reason => Maintenance.begin settings minutes reason
  | .advance => Maintenance.advance settings
  | .confirmSlate youtube twitch => Maintenance.confirmSlate settings youtube twitch
  | .resume => Maintenance.resume settings
  | .verify => Maintenance.verify settings
  | .complete youtube twitch liveData => Maintenance.complete settings youtube twitch liveData
  | .reconcile => Maintenance.reconcile settings
  | .check => Maintenance.check settings
  | .on minutes reason => Maintenance.on settings minutes reason
  | .off => Maintenance.off settings

/-- `Maintenance(store, …)`: the state is what the session file holds. -/
def World.started (world : World) : World :=
  { world with
    memory := world.disk.visible
    writes := []
    samples := [] }

/-- What happens to a store: a command, with what its environment answers until it ends
or is killed, or a loss of power that also decides which archives are left. -/
inductive Move where
  | command (settings : Settings) (command : Command) (turns : List Turn)
  | powerLoss (archives : List Nat)

/-- The store after a move. -/
def World.move (world : World) : Move → World
  | .command settings command turns =>
    ((command.script settings).run turns world.started).2.2
  | .powerLoss archives =>
    { world with
      archives := archives
      disk := ⟨world.disk.durable, world.disk.durable⟩
      writes := [] }

/-- The store that `init` leaves. -/
def World.initial : World where
  memory := .initial
  disk := ⟨.initial, .initial⟩
  archives := []
  issued := 0
  method := .preflight
  dispatches := []
  writes := []
  sightings := []
  samples := []

/-- The store after the moves of a run. -/
def World.run (moves : List Move) : World := moves.foldl World.move .initial

end LiveStream.Maintenance

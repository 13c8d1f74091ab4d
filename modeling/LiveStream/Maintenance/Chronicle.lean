import LiveStream.Maintenance.Windows
import LiveStream.Support.History

/-! The commands with a chronicle of the verification samples that they take: without the
chronicle they are the commands themselves. -/

namespace LiveStream.Maintenance

open LiveStream.Support Script Process

/-- A call of `verification_sample`: where it starts and what its environment answers. -/
structure Call where
  settings : Settings
  turns : List Turn
  world : World

/-- How the checks of the sample end. -/
def Call.verdict (call : Call) : Verdict := judge call.settings call.world.memory call.turns

/-- The call was not killed before its sample was judged. -/
def Call.taken (call : Call) : Bool :=
  match call.verdict with
  | .cut => false
  | .outside _ _ | .inside _ _ | .passed _ _ => true

/-- The sample, if it passed all checks. -/
def Call.sample? (call : Call) : Option Value :=
  match call.verdict with
  | .passed sample _ => some sample
  | .cut | .outside _ _ | .inside _ _ => none

/-- The turns with which a call whose sample passed saves the record. -/
def Call.saving? (call : Call) : Option (List Turn) :=
  match call.verdict, call.world.memory.stability with
  | .passed _ rest, some _ | .passed _ (_ :: rest), none => some rest
  | .passed _ [], none | .cut, _ | .outside _ _, _ | .inside _ _, _ => none

/-- Where a call that opens a window reads the clock. -/
def Call.begun? (call : Call) : Option ℚ :=
  match call.verdict, call.world.memory.stability with
  | .passed _ (timing :: _), none => some timing.clock
  | .passed _ _, _ | .cut, _ | .outside _ _, _ | .inside _ _, _ => none

/-- Where a call that returns reads the clock last. -/
def Call.ended? (call : Call) : Option ℚ :=
  call.saving?.bind fun rest => rest[2]?.map (·.clock)

/-- A process that also keeps the chronicle. -/
abbrev Recording := Script Turn (World × List Call) PyError

section Methods

variable (settings : Settings)

/-- `verification_sample()`, in the chronicle. -/
def sampled : Recording ℚ :=
  noted (fun turns world => ⟨settings, turns, world⟩) (verificationSample settings)

/-- One round of `verify`. -/
def recordedRound (deadline : ℚ) (_ : Unit) : Recording (Unit ⊕ Unit) := do
  if (← plain clock) ≤ deadline then
    let stable ← handle
      (do return decide (settings.stableSeconds ≤ (← sampled settings)))
      fun error =>
        if error.kind = .value ∧ error.text ∈ transientReasons then return false else throw error
    if stable then return .inr ()
    else
      plain sleep
      return .inl ()
  else plain (fail "live_stability_deadline_inhibition_retained")

/-- A recording as the body of a method. -/
def recordedWithin {α : Type} (method : Method) (body : Recording α) : Recording α := do
  let caller := (← plain get).method
  plain (modify fun world => { world with method := method })
  let value ← body
  plain (modify fun world => { world with method := caller })
  return value

/-- `verify()`. -/
def recordedVerify : Recording Unit := recordedWithin .verify do
  let phase := (← plain state).phase
  plain (require (phase = .verifying ∨ phase = .restoring) "not_verifying")
  plain noUnknown
  let deadline := (← plain clock) + 450
  loop (recordedRound settings deadline) ()

/-- `complete` after its verification sample. -/
def release (stable : ℚ) : Process Unit := do
  require (settings.stableSeconds ≤ stable) "live_stability_not_yet_confirmed"
  let now ← clock
  change fun session => { session with livePlayerConfirmation := some now }
  save (some .restoring)
  let before ← key Session.before "before"
  let units ← liftM (before.path ["dell", "units"])
  let ledger ← liftM (before.path ["dell", "ledger"])
  effect settings .restoreUnits .dell (.restoreUnits units ledger)
  let now ← clock
  change fun session => { session with completedAt := some now }
  save (some .normal)

/-- `complete(youtube, twitch, live_data)`. -/
def recordedComplete (youtube twitch liveData : Bool) : Recording Unit :=
  recordedWithin .complete do
    let phase := (← plain state).phase
    plain (require (phase = .verifying ∨ phase = .restoring) "not_ready_to_complete")
    plain (require (youtube = true ∧ twitch = true ∧ liveData = true)
      "public_av_and_live_data_confirmation_required")
    plain noUnknown
    plain sleep
    let stable ← sampled settings
    plain (release settings stable)

/-- `off` from its verification on. -/
def recordedReturn : Recording Unit := do
  recordedVerify settings
  plain (require ((← plain confirm) = true) "live_playback_not_confirmed_inhibition_retained")
  recordedComplete settings true true true

/-- `off(confirm)`. -/
def recordedOff : Recording Unit := recordedWithin .off do
  plain noUnknown
  let phase := (← plain state).phase
  if phase = .normal then return ()
  else if phase = .preparing ∨ phase = .awaitingSlateConfirmation ∨ phase = .maintenance ∨
      phase = .resuming then
    plain (resume settings)
    recordedReturn settings
  else
    plain (require (phase = .verifying ∨ phase = .restoring) "not_resumable")
    recordedReturn settings

end Methods

/-- The body of a command; all but three take no verification sample. -/
def Command.recording (settings : Settings) (command : Command) : Recording Unit :=
  match command with
  | .verify => recordedVerify settings
  | .complete youtube twitch liveData => recordedComplete settings youtube twitch liveData
  | .off => recordedOff settings
  | .preflight | .begin _ _ | .advance | .confirmSlate _ _ | .resume | .reconcile | .check | .on _ _ =>
    plain (command.script settings)

section Erasure

variable (settings : Settings)

theorem erases_within {α : Type} (method : Method) {recording : Recording α} {body : Process α}
    (erases : Erases recording body) : Erases (recordedWithin method recording) (within method body) :=
  erases_bind (erases_plain get) fun _ => erases_bind (erases_plain _) fun _ =>
    erases_bind erases fun _ => erases_bind (erases_plain _) fun _ => erases_pure _

theorem erases_round (deadline : ℚ) (current : Unit) :
    Erases (recordedRound settings deadline current) (verifyRound settings deadline current) := by
  refine erases_bind (erases_plain clock) fun now => ?_
  split
  · have handled : ∀ error : PyError, Erases
        (if error.kind = .value ∧ error.text ∈ transientReasons then return false
          else throw error : Recording Bool)
        (if error.kind = .value ∧ error.text ∈ transientReasons then return false else throw error) := by
      intro error
      split
      · exact erases_pure false
      · exact erases_throw error
    refine erases_bind (erases_handle ?_ handled) fun stable => ?_
    · exact erases_bind (erases_noted _ _) fun elapsed => erases_pure _
    · split
      · exact erases_pure _
      · exact erases_bind (erases_plain sleep) fun _ => erases_pure _
  · exact erases_plain _

theorem erases_verify : Erases (recordedVerify settings) (verify settings) := by
  refine erases_within .verify (erases_bind (erases_plain state) fun session => ?_)
  refine erases_bind (erases_plain _) fun _ => erases_bind (erases_plain _) fun _ => ?_
  exact erases_bind (erases_plain clock) fun now => erases_loop (erases_round settings _) ()

theorem erases_complete (youtube twitch liveData : Bool) :
    Erases (recordedComplete settings youtube twitch liveData)
      (complete settings youtube twitch liveData) := by
  refine erases_within .complete (erases_bind (erases_plain state) fun session => ?_)
  refine erases_bind (erases_plain _) fun _ => erases_bind (erases_plain _) fun _ => ?_
  refine erases_bind (erases_plain _) fun _ => erases_bind (erases_plain _) fun _ => ?_
  exact erases_bind (erases_noted _ _) fun stable => erases_plain (release settings stable)

theorem erases_return : Erases (recordedReturn settings) (do
    verify settings
    require ((← confirm) = true) "live_playback_not_confirmed_inhibition_retained"
    complete settings true true true) := by
  refine erases_bind (erases_verify settings) fun _ => erases_bind (erases_plain _) fun answer => ?_
  exact erases_bind (erases_plain _) fun _ => erases_complete settings true true true

theorem erases_off : Erases (recordedOff settings) (off settings) := by
  refine erases_within .off (erases_bind (erases_plain _) fun _ => ?_)
  refine erases_bind (erases_plain state) fun session => ?_
  dsimp only
  split
  · exact erases_pure ()
  · split
    · exact erases_bind (erases_plain _) fun _ => erases_return settings
    · exact erases_bind (erases_plain _) fun _ => erases_return settings

/-- Without the chronicle, a recording is the command. -/
theorem erases_command (command : Command) :
    Erases (command.recording settings) (command.script settings) := by
  cases command with
  | verify => exact erases_verify settings
  | complete youtube twitch liveData => exact erases_complete settings youtube twitch liveData
  | off => exact erases_off settings
  | preflight | begin | advance | confirmSlate | resume | reconcile | check | on =>
    exact erases_plain _

end Erasure

/-- A store with the verification samples that were taken on it, after a move. -/
def moved (state : World × List Call) : Move → World × List Call
  | .command settings command turns =>
    ((command.recording settings).run turns (state.1.started, state.2)).2.2
  | .powerLoss archives => (state.1.move (.powerLoss archives), state.2)

/-- The store with its chronicle after the moves of a run from a store. -/
def chronicle (start : World) (moves : List Move) : World × List Call :=
  moves.foldl moved (start, [])

theorem moved_world (state : World × List Call) (move : Move) :
    (moved state move).1 = state.1.move move := by
  cases move with
  | powerLoss archives => rfl
  | command settings command turns =>
    have same := erases_command settings command turns (state.1.started, state.2)
    exact congrArg (fun left => left.2.2) same

/-- The chronicle goes with the run of the store. -/
theorem chronicle_world (start : World) (moves : List Move) :
    (chronicle start moves).1 = moves.foldl World.move start := by
  unfold chronicle
  induction moves using List.reverseRecOn with
  | nil => rfl
  | append_singleton earlier move inductionHypothesis =>
    rw [List.foldl_append, List.foldl_append]
    exact (moved_world _ move).trans (congrArg (World.move · move) inductionHypothesis)

end LiveStream.Maintenance

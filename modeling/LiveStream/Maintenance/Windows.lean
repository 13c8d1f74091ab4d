import LiveStream.Maintenance.Commands

/-! The verification samples: how the checks of a sample judge it, and when a sample that
raises clears the stability window that is stored. -/

namespace LiveStream.Maintenance

open LiveStream.Support Script Process

deriving instance DecidableEq for Exit

/-- What an interaction answers, or the exception that a signal raises instead. -/
def Turn.answers {α : Type} (turn : Turn) (answer : Except PyError α) : Except PyError α :=
  match turn.signal with
  | some error => .error error
  | none => answer

theorem Turn.answers_eq_ok {α : Type} {turn : Turn} {answer : Except PyError α} {value : α}
    (answered : turn.answers answer = .ok value) : turn.signal = none ∧ answer = .ok value := by
  unfold Turn.answers at answered
  cases signalled : turn.signal with
  | some error => simp [signalled] at answered
  | none =>
    rw [signalled] at answered
    exact ⟨rfl, answered⟩

/-- The checks of `verification_sample` in front of its `try` block. -/
def outsideChecks (settings : Settings) (session : Session) (now : ℚ) (sample : Value) :
    Except PyError Unit := do
  boundChecks session settings.config now sample
  let before ← orReject (keyError "before") session.before
  demand [equals (sample.path ["oci", "path_fields"]) (before.path ["oci", "path_fields"])]
    "path_not_restored"

/-- The checks within the `try` block. -/
def insideChecks (settings : Settings) (session : Session) (now : ℚ) (sample : Value) :
    Except PyError Unit :=
  progressChecks settings.fromisoformat session settings.config now sample .live
    (session.stability.map (·.sample))

/-- How the checks of a verification sample end, with the turns that are left. -/
inductive Verdict where
  /-- Killed before the sample was judged. -/
  | cut
  /-- Raised in front of the `try` block. -/
  | outside (error : PyError) (rest : List Turn)
  /-- Raised within the `try` block. -/
  | inside (error : PyError) (rest : List Turn)
  | passed (sample : Value) (rest : List Turn)

/-- The `try` block for a sample that passed the checks in front of it. -/
def judgeInside (settings : Settings) (session : Session) (sample : Value) : List Turn → Verdict
  | [] => .cut
  | timing :: rest =>
    match timing.answers (insideChecks settings session timing.clock sample) with
    | .error error => .inside error rest
    | .ok () => .passed sample rest

/-- The checks in front of the `try` block for a sample that was answered. -/
def judgeOutside (settings : Settings) (session : Session) (sample : Value) : List Turn → Verdict
  | [] => .cut
  | timing :: rest =>
    match timing.answers (outsideChecks settings session timing.clock sample) with
    | .error error => .outside error rest
    | .ok () => judgeInside settings session sample rest

/-- The verdict on the sample that the environment answers with. -/
def judge (settings : Settings) (session : Session) : List Turn → Verdict
  | [] => .cut
  | looking :: rest =>
    match looking.answers looking.snapshot with
    | .error error => .outside error rest
    | .ok sample => judgeOutside settings session sample rest

/-- `verification_sample` after a progress error. -/
def clearing (error : PyError) : Process ℚ := do
  if isProgressError error then
    change fun session => { session with stability := none }
    save none
    throw error
  else throw error

/-- The end of `verification_sample`, with the window that it stores. -/
def saving (stability : Stability) : Process ℚ := do
  change fun session => { session with stability := some stability }
  save none
  return (← clock) - stability.since

/-- `verification_sample` after the checks. -/
def storing (stability : Option Stability) (sample : Value) : Process ℚ := do
  saving ⟨← stableSince stability, sample⟩

/-- What `verification_sample` does from a verdict on. -/
def Verdict.ending (stability : Option Stability) (world : World) :
    Verdict → Exit PyError ℚ × List Turn × World
  | .cut => (.killed, [], world)
  | .outside error rest => (.raised error, rest, world)
  | .inside error rest => (clearing error).run rest world
  | .passed sample rest => (storing stability sample).run rest world

section Judgement

variable {settings : Settings} {turn timing : Turn} {rest : List Turn} {world : World}

theorem run_observe : observe.run (turn :: rest) world =
    match turn.answers turn.snapshot with
    | .ok sample => (.done sample, rest, { world with samples := world.samples ++ [sample] })
    | .error error => (.raised error, rest, world) := by
  simp only [observe, interact, act, Turn.answers]
  cases turn.signal with
  | some error => rfl
  | none => cases turn.snapshot <;> rfl

theorem run_clock : clock.run (turn :: rest) world =
    match turn.signal with
    | some error => (.raised error, rest, world)
    | none => (.done turn.clock, rest, world) := by
  simp only [clock, interact, act]
  cases turn.signal <;> rfl

theorem run_state (turns : List Turn) :
    state.run turns world = (.done world.memory, turns, world) := rfl

theorem run_change (update : Session → Session) (turns : List Turn) :
    (change update).run turns world =
      (.done (), turns, { world with memory := update world.memory }) := rfl

/-- The checks in front of the `try` block, on the clock reading that `bound` takes. -/
theorem run_outside {α : Type} (sample : Value) (next : Value → Process α) :
    (bound settings sample >>= fun sample => key Session.before "before" >>= fun before =>
      requireThat (equals (sample.path ["oci", "path_fields"]) (before.path ["oci", "path_fields"]))
        "path_not_restored" >>= fun _ => next sample).run (timing :: rest) world =
      match timing.answers (outsideChecks settings world.memory timing.clock sample) with
      | .ok () => (next sample).run rest world
      | .error error => (.raised error, rest, world) := by
  simp only [bound, run_bind, run_clock, run_state, run_lift, run_liftM, run_pure, key, requireThat,
    Turn.answers, outsideChecks]
  cases timing.signal with
  | some error => rfl
  | none =>
    dsimp only
    cases boundChecks world.memory settings.config timing.clock sample with
    | error error => rfl
    | ok _ =>
      dsimp only [ok_bind]
      cases recorded : world.memory.before with
      | none =>
        simp only [orReject]
        rfl
      | some before =>
        dsimp only [orReject_some, ok_bind]
        cases equals (sample.path ["oci", "path_fields"]) (before.path ["oci", "path_fields"]) with
        | error error => rfl
        | ok same => cases same <;> rfl

theorem run_progress (sample : Value) :
    (progress settings sample .live (world.memory.stability.map (·.sample))).run (timing :: rest) world =
      match timing.answers (insideChecks settings world.memory timing.clock sample) with
      | .ok () => (.done (), rest, world)
      | .error error => (.raised error, rest, world) := by
  simp only [progress, run_bind, run_clock, run_state, run_lift, Turn.answers, insideChecks]
  cases timing.signal with
  | some error => rfl
  | none =>
    dsimp only
    cases progressChecks settings.fromisoformat world.memory settings.config timing.clock sample
      .live (world.memory.stability.map (·.sample)) <;> rfl

/-- The `try` block, on the clock reading that `progress` takes. -/
theorem run_inside (sample : Value) (next : Process ℚ) :
    (handle (progress settings sample .live (world.memory.stability.map (·.sample)))
        (fun error => if isProgressError error then do
          change fun session => { session with stability := none }
          save none
          throw error
        else throw error) >>= fun _ => next).run (timing :: rest) world =
      match timing.answers (insideChecks settings world.memory timing.clock sample) with
      | .ok () => next.run rest world
      | .error error => (clearing error).run rest world := by
  have cleared : ∀ error : PyError, ((if isProgressError error then do
        change fun session => { session with stability := none }
        save none
        throw error
      else throw error : Process Unit) >>= fun _ => next).run rest world =
        (clearing error).run rest world := by
    intro error
    unfold clearing
    by_cases progressive : isProgressError error = true
    · simp only [if_pos progressive, run_bind, run_change]
      rcases (save none).run _ _ with ⟨value | error | _, remaining, after⟩ <;> rfl
    · simp only [if_neg progressive]
      rfl
  cases judged : timing.answers (insideChecks settings world.memory timing.clock sample) with
  | error error =>
    rw [run_bind_congr (run_handle_raised (by rw [run_progress, judged]))]
    exact cleared error
  | ok _ => rw [run_bind_done (run_handle_done (by rw [run_progress, judged]))]

/-- A verification sample from the `try` block on. -/
theorem run_judged (sample : Value) (turns : List Turn) :
    (state >>= fun session =>
      handle (progress settings sample .live (session.stability.map (·.sample)))
        (fun error => if isProgressError error then do
          change fun session => { session with stability := none }
          save none
          throw error
        else throw error) >>= fun _ => storing session.stability sample).run turns world =
      (judgeInside settings world.memory sample turns).ending world.memory.stability world := by
  rw [run_bind_done (run_state turns)]
  cases turns with
  | nil => rfl
  | cons timing rest =>
    rw [run_inside, judgeInside]
    cases timing.answers (insideChecks settings world.memory timing.clock sample) <;> rfl

/-- `verification_sample` judges the sample that it observes, and ends as judged. -/
theorem run_verificationSample (settings : Settings) (world : World) (turns : List Turn) :
    ∃ samples, (verificationSample settings).run turns world =
      (judge settings world.memory turns).ending world.memory.stability
        { world with samples := samples } := by
  cases turns with
  | nil => exact ⟨world.samples, rfl⟩
  | cons looking rest =>
    unfold verificationSample snapshot
    cases looked : looking.answers looking.snapshot with
    | error error =>
      refine ⟨world.samples, ?_⟩
      simp only [judge, looked]
      exact run_bind_raised (run_bind_raised (by rw [run_observe, looked]))
    | ok sample =>
      refine ⟨world.samples ++ [sample], ?_⟩
      simp only [judge, looked]
      rw [run_bind_assoc, run_bind_done (by rw [run_observe, looked])]
      cases rest with
      | nil => rfl
      | cons bounding rest =>
        simp only [judgeOutside]
        refine (run_outside sample _).trans ?_
        cases bounding.answers (outsideChecks settings world.memory bounding.clock sample) with
        | error error => rfl
        | ok _ => exact run_judged sample rest

/-- The store after a replacement of the session file that is not refused. -/
def World.replaced (world : World) (writing : Writing) : World :=
  { world with
    disk := world.disk.write world.memory writing
    writes := world.writes ++ [⟨world.method, world.samples, world.disk.visible, world.memory⟩] }

theorem run_write : write.run (turn :: rest) world =
    match turn.signal, turn.writing with
    | some error, _ => (.raised error, rest, world)
    | none, .refused error => (.raised error, rest, world)
    | none, .unsynced kept (some error) =>
      (.raised error, rest, world.replaced (.unsynced kept (some error)))
    | none, .unsynced kept none => (.killed, rest, world.replaced (.unsynced kept none))
    | none, .synced => (.done (), rest, world.replaced .synced) := by
  simp only [write, interact, act, World.replaced]
  cases turn.signal with
  | some error => rfl
  | none =>
    rcases turn.writing with error | ⟨kept, error | _⟩ | _ <;> rfl

/-- The record with the time at which it was saved. -/
def World.stamped (world : World) (now : ℚ) : World :=
  { world with memory := { world.memory with updatedAt := some now } }

@[simp] theorem World.disk_stamped (world : World) (now : ℚ) :
    (world.stamped now).disk = world.disk := rfl

@[simp] theorem World.stability_stamped (world : World) (now : ℚ) :
    (world.stamped now).memory.stability = world.memory.stability := rfl

@[simp] theorem World.visible_unsynced (world : World) (kept : Bool) (error : Option PyError) :
    (world.replaced (.unsynced kept error)).disk.visible = world.memory := rfl

@[simp] theorem World.visible_synced (world : World) :
    (world.replaced .synced).disk.visible = world.memory := rfl

theorem run_save : (save none).run (timing :: rest) world =
    match timing.signal with
    | some error => (.raised error, rest, world)
    | none => write.run rest (world.stamped timing.clock) := by
  have entered : (enter none).run (timing :: rest) world = (.done (), timing :: rest, world) := rfl
  rw [save, run_bind_done entered, run_bind, run_clock]
  cases timing.signal <;> rfl

end Judgement

/-- Neither the clock nor the write of `save` raises before the session file is replaced. -/
def Replaces : List Turn → Prop
  | [] => True
  | [timing] => timing.signal = none
  | timing :: writing :: _ =>
    timing.signal = none ∧ writing.signal = none ∧ ∀ error, writing.writing ≠ .refused error

/-- Neither `save` nor the reading of the clock after it raises. -/
def Undisturbed : List Turn → Prop
  | [] => True
  | [timing] => timing.signal = none
  | timing :: writing :: rest =>
    timing.signal = none ∧ writing.signal = none ∧
      match writing.writing with
      | .refused _ | .unsynced _ (some _) => False
      | .unsynced _ none => True
      | .synced => ∀ ending ∈ rest.head?, ending.signal = none

/-- If this end of a verification sample raises, then no window is left in the session file. -/
def Cleared (left : Exit PyError ℚ × List Turn × World) : Prop :=
  ∀ error, left.1 = .raised error → left.2.2.disk.visible.stability = none

/-- A verification sample that raises leaves no stability window in the session file. -/
def Clears (settings : Settings) (world : World) (turns : List Turn) : Prop :=
  Cleared ((verificationSample settings).run turns world)

/-- No window is in the session file, or nothing but the checks of the `try` block raises a
ValueError, TypeError or KeyError, and then the save without the window goes through. -/
def ClearsWhen (settings : Settings) (world : World) (turns : List Turn) : Prop :=
  let unstored := world.disk.visible.stability = none
  let quiet := fun rest => Undisturbed rest ∨ (unstored ∧ ¬ Replaces rest)
  match judge settings world.memory turns with
  | .cut => True
  | .outside _ _ => unstored
  | .inside error rest => unstored ∨ (isProgressError error = true ∧ Replaces rest)
  | .passed _ rest =>
    match world.memory.stability, rest with
    | some _, rest => quiet rest
    | none, [] => True
    | none, timing :: rest => if timing.signal.isSome then unstored else quiet rest

section Endings

variable {rest : List Turn} {world : World}

@[simp] theorem cleared_raised {error : PyError} :
    Cleared (.raised error, rest, world) ↔ world.disk.visible.stability = none := by
  simp [Cleared]

@[simp] theorem cleared_killed : Cleared (.killed, rest, world) := by
  simp [Cleared]

@[simp] theorem cleared_done {value : ℚ} : Cleared (.done value, rest, world) := by
  simp [Cleared]

theorem cleared_clearing (error : PyError) (turns : List Turn) :
    Cleared ((clearing error).run turns world) ↔
      world.disk.visible.stability = none ∨ (isProgressError error = true ∧ Replaces turns) := by
  unfold clearing
  by_cases progressive : isProgressError error = true
  · rw [if_pos progressive, run_bind, run_change]
    dsimp only
    rcases turns with _ | ⟨timing, _ | ⟨writing, rest⟩⟩
    · simp [progressive, Replaces, run_bind, save, clock, interact, act, enter, run_pure]
    · rw [run_bind, run_save]
      cases signalled : timing.signal with
      | some error => simp [signalled, Replaces]
      | none => simp [signalled, Replaces, progressive, write, interact, act]
    · rw [run_bind, run_save]
      cases signalled : timing.signal with
      | some error => simp [signalled, Replaces]
      | none =>
        dsimp only
        rw [run_write]
        cases stopped : writing.signal with
        | some error => simp [stopped, Replaces]
        | none =>
          rcases written : writing.writing with error | ⟨kept, _ | error⟩ | _ <;>
            simp [signalled, stopped, progressive, written, Replaces, run_throw]
  · rw [if_neg progressive]
    simp [run_throw, progressive]

/-- A save of a window, with the reading of the clock after it. -/
theorem cleared_saving (stability : Stability) (turns : List Turn) :
    Cleared ((saving stability).run turns world) ↔
      Undisturbed turns ∨ (world.disk.visible.stability = none ∧ ¬ Replaces turns) := by
  rw [saving, run_bind, run_change]
  dsimp only
  rcases turns with _ | ⟨timing, _ | ⟨writing, rest⟩⟩
  · simp [Undisturbed, run_bind, save, clock, interact, act, enter, run_pure]
  · rw [run_bind, run_save]
    cases signalled : timing.signal with
    | some error => simp [signalled, Replaces, Undisturbed]
    | none => simp [signalled, Undisturbed, write, interact, act]
  · rw [run_bind, run_save]
    cases signalled : timing.signal with
    | some error => simp [signalled, Replaces, Undisturbed]
    | none =>
      dsimp only
      rw [run_write]
      cases stopped : writing.signal with
      | some error => simp [stopped, Replaces, Undisturbed]
      | none =>
        rcases written : writing.writing with error | ⟨kept, _ | error⟩ | _
        · simp [written, Replaces, Undisturbed]
        · simp [signalled, stopped, written, Undisturbed]
        · simp [signalled, stopped, written, Replaces, Undisturbed]
        · rcases rest with _ | ⟨ending, rest⟩
          · simp [signalled, stopped, written, Undisturbed, run_bind, clock, interact, act]
          · dsimp only
            rw [run_bind, run_clock]
            cases ended : ending.signal <;>
              simp [signalled, stopped, written, ended, Replaces, Undisturbed, run_pure]

/-- A verification sample that raises clears the stored window exactly if nothing was
stored, or it fails in the `try` block and saves the record without the window. -/
theorem clears_iff (settings : Settings) (turns : List Turn) :
    Clears settings world turns ↔ ClearsWhen settings world turns := by
  obtain ⟨samples, ended⟩ := run_verificationSample settings world turns
  unfold Clears ClearsWhen
  rw [ended]
  cases judge settings world.memory turns with
  | cut => simp [Verdict.ending]
  | outside error rest => simp [Verdict.ending]
  | inside error rest => exact cleared_clearing error rest
  | passed sample rest =>
    dsimp only [Verdict.ending]
    unfold storing
    cases recorded : world.memory.stability with
    | some stability =>
      exact cleared_saving ⟨stability.since, sample⟩ rest
    | none =>
      cases rest with
      | nil => exact iff_of_true (by simp [run_bind, stableSince, clock, interact, act]) trivial
      | cons timing rest =>
        rw [run_bind, stableSince, run_clock]
        cases signalled : timing.signal with
        | some error => simp [signalled]
        | none =>
          simp only [signalled, Option.isSome_none, Bool.false_eq_true, if_false]
          exact cleared_saving ⟨timing.clock, sample⟩ rest

end Endings

end LiveStream.Maintenance

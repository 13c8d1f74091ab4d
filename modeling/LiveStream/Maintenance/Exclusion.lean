import LiveStream.Maintenance.Guard
import LiveStream.Fallback.Controller
import LiveStream.Support.Run

/-! Controllers that scale and commands that maintain, on one session store: `scale_if_allowed`
under the shared lock, `main` of the maintenance tool under the exclusive one. -/

namespace LiveStream.Maintenance

open LiveStream.Support LiveStream.Fallback

/-- Where a controller stands between two polls. -/
inductive Stage where
  | watching
  | decided (action : Action)
  | locked (action : Action)
  | cleared (action : Action)
  | scaling (action : Action)
  deriving DecidableEq

/-- The stages inside `with session_lock(root, shared=True)`. -/
def Stage.holds : Stage → Bool
  | .watching | .decided _ => false
  | .locked _ | .cleared _ | .scaling _ => true

/-- The stages after the guard was read again. -/
def Stage.passed : Stage → Bool
  | .watching | .decided _ | .locked _ => false
  | .cleared _ | .scaling _ => true

/-- A controller process. -/
structure Watcher where
  loop : LoopState
  stage : Stage

def Watcher.new : Watcher := ⟨.new, .watching⟩

/-- Where a process of the maintenance tool stands. -/
inductive Command.Stage where
  | absent | admitted | running
  deriving DecidableEq

/-- The state root with its lock, the session file, and the processes that use them. -/
structure Site where
  root : Root
  uid : Nat
  file : SessionFile
  exclusive : Option Nat
  shared : Finset Nat
  watchers : Nat → Watcher
  commands : Nat → Command.Stage

/-- A `kubectl scale` of the fallback deployment. -/
structure Scale where
  controller : Nat
  action : Action
  deriving DecidableEq

/-- What can happen next. A crash or an exception gives a lock back, and so does the end of a
command; a command may leave any content in the session file. -/
inductive Happening where
  | poll (controller : Nat) (poll : Poll) (now : ℚ)
  | lock (controller : Nat)
  | refuse (controller : Nat)
  | recheck (controller : Nat) (now : ℚ)
  | kubectl (controller : Nat)
  | finish (controller : Nat)
  | crash (controller : Nat)
  | launch (command : Nat) (euid : Nat) (now : ℚ)
  | acquire (command : Nat)
  | write (command : Nat) (file : SessionFile)
  | leave (command : Nat)
  | powerLoss (file : SessionFile)

namespace Site

def guard (site : Site) (now : ℚ) : Except PyError Report :=
  Maintenance.guard site.root site.uid site.file now

def setWatcher (site : Site) (controller : Nat) (watcher : Watcher) : Site :=
  { site with watchers := Function.update site.watchers controller watcher }

def setStage (site : Site) (controller : Nat) (stage : Stage) : Site :=
  site.setWatcher controller { site.watchers controller with stage }

/-- The end of `with session_lock(root, shared=True)`. -/
def unlock (site : Site) (controller : Nat) (watcher : Watcher) : Site :=
  { site.setWatcher controller watcher with shared := site.shared.erase controller }

/-- A round of the loop of the controller's `main`, up to its decision. -/
def poll (site : Site) (controller : Nat) (poll : Poll) (now : ℚ) : Site :=
  match (site.watchers controller).stage, site.guard now with
  | .watching, .ok report =>
    let round := (site.watchers controller).loop.poll { poll with inhibited := report.inhibited }
    site.setWatcher controller
      ⟨round.1, match round.2.action with | some action => .decided action | none => .watching⟩
  | .watching, .error _ => site.setWatcher controller .new
  | _, _ => site

/-- `fcntl.flock(fd, LOCK_SH | LOCK_NB)`; without the lock the action is inhibited. -/
def lock (site : Site) (controller : Nat) : Site :=
  match (site.watchers controller).stage with
  | .decided action =>
    if site.exclusive = none then
      { site.setStage controller (.locked action) with shared := insert controller site.shared }
    else site.setStage controller .watching
  | _ => site

/-- The lock file is missing or is no regular file. -/
def refuse (site : Site) (controller : Nat) : Site :=
  match (site.watchers controller).stage with
  | .decided _ => site.setStage controller .watching
  | _ => site

/-- `maintenance_guard(root)` under the shared lock. -/
def recheck (site : Site) (controller : Nat) (now : ℚ) : Site :=
  let back := site.unlock controller { site.watchers controller with stage := .watching }
  match (site.watchers controller).stage with
  | .locked action =>
    match site.guard now with
    | .ok report => if report.inhibited then back else site.setStage controller (.cleared action)
    | .error _ => back
  | _ => site

/-- `kubectl('scale', …)` is issued. -/
def kubectl (site : Site) (controller : Nat) : Site × Option Scale :=
  match (site.watchers controller).stage with
  | .cleared action => (site.setStage controller (.scaling action), some ⟨controller, action⟩)
  | _ => (site, none)

/-- `kubectl` is over, with or without success. -/
def finish (site : Site) (controller : Nat) : Site :=
  match (site.watchers controller).stage with
  | .scaling _ => site.unlock controller { site.watchers controller with stage := .watching }
  | _ => site

def setCommand (site : Site) (command : Nat) (stage : Command.Stage) : Site :=
  { site with commands := Function.update site.commands command stage }

/-- `require(guard(…)['reason'] != 'maintenance_state_invalid', …)`. -/
def launch (site : Site) (command euid : Nat) (now : ℚ) : Site :=
  match site.commands command, Maintenance.guard site.root euid site.file now with
  | .absent, .ok report =>
    if report.reason = "maintenance_state_invalid" then site else site.setCommand command .admitted
  | _, _ => site

/-- `fcntl.flock(fd, LOCK_EX | LOCK_NB)`; without the lock the command is over. -/
def acquire (site : Site) (command : Nat) : Site :=
  match site.commands command with
  | .admitted =>
    if site.exclusive = none ∧ site.shared = ∅ then
      { site.setCommand command .running with exclusive := some command }
    else site.setCommand command .absent
  | _ => site

/-- A write of `atomic_json`, which replaces the whole file. -/
def write (site : Site) (command : Nat) (file : SessionFile) : Site :=
  if site.commands command = .running then { site with file } else site

/-- The command is over, or its process dies. -/
def leave (site : Site) (command : Nat) : Site :=
  match site.commands command with
  | .running => { site.setCommand command .absent with exclusive := none }
  | _ => site.setCommand command .absent

/-- Every process is gone, and the disk holds some content that was written before. -/
def powerLoss (site : Site) (file : SessionFile) : Site :=
  { site with
    file, exclusive := none, shared := ∅
    watchers := fun _ => .new, commands := fun _ => .absent }

def step (site : Site) : Happening → Site × Option Scale
  | .poll controller poll now => (site.poll controller poll now, none)
  | .lock controller => (site.lock controller, none)
  | .refuse controller => (site.refuse controller, none)
  | .recheck controller now => (site.recheck controller now, none)
  | .kubectl controller => site.kubectl controller
  | .finish controller => (site.finish controller, none)
  | .crash controller => (site.unlock controller .new, none)
  | .launch command euid now => (site.launch command euid now, none)
  | .acquire command => (site.acquire command, none)
  | .write command file => (site.write command file, none)
  | .leave command => (site.leave command, none)
  | .powerLoss file => (site.powerLoss file, none)

/-- An installed store that no process uses yet. -/
def installed (root : Root) (uid : Nat) (file : SessionFile) : Site :=
  ⟨root, uid, file, none, ∅, fun _ => .new, fun _ => .absent⟩

/-- The persisted phase is NORMAL and no command is running. -/
def Open (site : Site) : Prop :=
  site.file.Normal site.uid ∧ ∀ command, site.commands command ≠ .running

end Site

theorem Stage.holds_of_passed {stage : Stage} (passed : stage.passed = true) :
    stage.holds = true := by
  cases stage <;> first | rfl | cases passed

/-- The locks are held by the processes whose stage says so, never in both modes at once, and
whoever passed the second guard found a NORMAL record. -/
structure Exclusive (site : Site) : Prop where
  installed : site.root ≠ .missing
  holders : ∀ controller, (site.watchers controller).stage.holds = true ↔ controller ∈ site.shared
  apart : site.exclusive ≠ none → site.shared = ∅
  normal : ∀ controller, (site.watchers controller).stage.passed = true → site.file.Normal site.uid
  running : ∀ command, site.commands command = .running ↔ site.exclusive = some command

section Steps

variable {site : Site} {controller command : Nat} {watcher : Watcher}

theorem exclusive_installed {root : Root} (there : root ≠ .missing) (uid : Nat)
    (file : SessionFile) : Exclusive (.installed root uid file) where
  installed := there
  holders := fun controller => by simp [Site.installed, Watcher.new, Stage.holds]
  apart := fun held => absurd rfl held
  normal := fun controller passed => by cases passed
  running := fun command => by simp [Site.installed]

/-- A watcher that holds the lock keeps every command out. -/
theorem Exclusive.quiet (exclusive : Exclusive site)
    (holds : (site.watchers controller).stage.holds = true) : site.exclusive = none := by
  by_contra held
  have member := (exclusive.holders controller).mp holds
  rw [exclusive.apart held] at member
  cases member

theorem Exclusive.free (exclusive : Exclusive site)
    (passed : (site.watchers controller).stage.passed = true) : site.Open := by
  refine ⟨exclusive.normal controller passed, fun command running => ?_⟩
  have held := (exclusive.running command).mp running
  rw [exclusive.quiet (Stage.holds_of_passed passed)] at held
  cases held

/-- A watcher goes on without taking the lock or giving it back. -/
theorem Exclusive.setWatcher (exclusive : Exclusive site)
    (same : watcher.stage.holds = (site.watchers controller).stage.holds)
    (normal : watcher.stage.passed = true → site.file.Normal site.uid) :
    Exclusive (site.setWatcher controller watcher) where
  installed := exclusive.installed
  holders := fun other => by
    by_cases here : other = controller
    · subst here
      simpa [Site.setWatcher, same] using exclusive.holders other
    · simpa [Site.setWatcher, here] using exclusive.holders other
  apart := exclusive.apart
  normal := fun other passed => by
    by_cases here : other = controller
    · subst here
      exact normal (by simpa [Site.setWatcher] using passed)
    · exact exclusive.normal other (by simpa [Site.setWatcher, here] using passed)
  running := exclusive.running

/-- A watcher that gives the lock back, or never had it. -/
theorem Exclusive.unlock (exclusive : Exclusive site) (outside : watcher.stage.holds = false) :
    Exclusive (site.unlock controller watcher) where
  installed := exclusive.installed
  holders := fun other => by
    by_cases here : other = controller
    · subst here
      simp [Site.unlock, Site.setWatcher, outside]
    · simpa [Site.unlock, Site.setWatcher, here] using exclusive.holders other
  apart := fun held => by simp [Site.unlock, exclusive.apart held]
  normal := fun other passed => by
    by_cases here : other = controller
    · subst here
      have holds := Stage.holds_of_passed passed
      simp [Site.unlock, Site.setWatcher, outside] at holds
    · refine exclusive.normal other ?_
      simpa [Site.unlock, Site.setWatcher, here] using passed
  running := exclusive.running

theorem Exclusive.poll (exclusive : Exclusive site) (poll : Poll) (now : ℚ) :
    Exclusive (site.poll controller poll now) := by
  unfold Site.poll
  split
  · rename_i watching answered
    refine exclusive.setWatcher ?_ ?_
    · rw [watching]; dsimp only; split <;> rfl
    · dsimp only; split <;> intro passed <;> cases passed
  · rename_i watching raised
    exact exclusive.setWatcher (by rw [watching]; rfl) (fun passed => by cases passed)
  · exact exclusive

theorem Exclusive.lock (exclusive : Exclusive site) : Exclusive (site.lock controller) := by
  unfold Site.lock
  split
  · rename_i action decided
    split
    · rename_i quiet
      refine ⟨exclusive.installed, fun other => ?_, fun held => absurd quiet held,
        fun other passed => ?_, exclusive.running⟩
      · by_cases here : other = controller
        · subst here
          simp [Site.setStage, Site.setWatcher, Stage.holds]
        · simpa [Site.setStage, Site.setWatcher, here] using exclusive.holders other
      · by_cases here : other = controller
        · subst here
          simp [Site.setStage, Site.setWatcher, Stage.passed] at passed
        · refine exclusive.normal other ?_
          simpa [Site.setStage, Site.setWatcher, here] using passed
    · exact exclusive.setWatcher (by rw [decided]; rfl) (fun passed => by cases passed)
  · exact exclusive

theorem Exclusive.refuse (exclusive : Exclusive site) : Exclusive (site.refuse controller) := by
  unfold Site.refuse
  split
  · rename_i action decided
    exact exclusive.setWatcher (by rw [decided]; rfl) (fun passed => by cases passed)
  · exact exclusive

/-- Only a NORMAL record lets a watcher pass the second guard. -/
theorem Exclusive.recheck (exclusive : Exclusive site) (now : ℚ) :
    Exclusive (site.recheck controller now) := by
  unfold Site.recheck
  dsimp only
  split
  · rename_i action locked
    split
    · rename_i report answered
      split
      · exact exclusive.unlock rfl
      · rename_i allowed
        refine exclusive.setWatcher (by rw [locked]; rfl) (fun _ => ?_)
        exact (guard_ok exclusive.installed answered).resolve_left allowed
    · exact exclusive.unlock rfl
  · exact exclusive

theorem Exclusive.kubectl (exclusive : Exclusive site) :
    Exclusive (site.kubectl controller).1 := by
  unfold Site.kubectl
  split
  · rename_i action cleared
    exact exclusive.setWatcher (by rw [cleared]; rfl)
      (fun _ => exclusive.normal controller (by rw [cleared]; rfl))
  · exact exclusive

theorem Exclusive.finish (exclusive : Exclusive site) : Exclusive (site.finish controller) := by
  unfold Site.finish
  split
  · exact exclusive.unlock rfl
  · exact exclusive

/-- A command that is not running moves to another stage outside the lock. -/
theorem Exclusive.setCommand (exclusive : Exclusive site) {stage : Command.Stage}
    (outside : stage ≠ .running) (stopped : site.commands command ≠ .running) :
    Exclusive (site.setCommand command stage) where
  installed := exclusive.installed
  holders := exclusive.holders
  apart := exclusive.apart
  normal := exclusive.normal
  running := fun other => by
    by_cases here : other = command
    · subst here
      have never := mt (exclusive.running other).mpr stopped
      simp [Site.setCommand, outside, never]
    · simpa [Site.setCommand, here] using exclusive.running other

theorem Exclusive.launch (exclusive : Exclusive site) (euid : Nat) (now : ℚ) :
    Exclusive (site.launch command euid now) := by
  unfold Site.launch
  split
  · rename_i absent answered
    split
    · exact exclusive
    · exact exclusive.setCommand nofun (by rw [absent]; nofun)
  · exact exclusive

theorem Exclusive.acquire (exclusive : Exclusive site) : Exclusive (site.acquire command) := by
  unfold Site.acquire
  split
  · rename_i admitted
    split
    · rename_i free
      refine ⟨exclusive.installed, exclusive.holders, fun _ => free.2, exclusive.normal,
        fun other => ?_⟩
      by_cases here : other = command
      · subst here
        simp [Site.setCommand]
      · have others := mt (exclusive.running other).mp (by rw [free.1]; nofun)
        simp [Site.setCommand, here, others, Ne.symm here]
    · exact exclusive.setCommand nofun (by rw [admitted]; nofun)
  · exact exclusive

/-- A command writes while nobody is past the second guard. -/
theorem Exclusive.write (exclusive : Exclusive site) (file : SessionFile) :
    Exclusive (site.write command file) := by
  unfold Site.write
  split
  · rename_i running
    have held := (exclusive.running command).mp running
    refine ⟨exclusive.installed, exclusive.holders, exclusive.apart, fun controller passed => ?_,
      exclusive.running⟩
    have quiet := exclusive.quiet (Stage.holds_of_passed passed)
    rw [held] at quiet
    cases quiet
  · exact exclusive

theorem Exclusive.leave (exclusive : Exclusive site) : Exclusive (site.leave command) := by
  unfold Site.leave
  split
  · rename_i running
    have held := (exclusive.running command).mp running
    refine ⟨exclusive.installed, exclusive.holders, fun some => absurd rfl some, exclusive.normal,
      fun other => ?_⟩
    by_cases here : other = command
    · subst here
      simp [Site.setCommand]
    · have others := mt (exclusive.running other).mp (by rw [held]; simp [Ne.symm here])
      simp [Site.setCommand, here, others]
  · rename_i stopped
    exact exclusive.setCommand nofun stopped

theorem Exclusive.powerLoss (exclusive : Exclusive site) (file : SessionFile) :
    Exclusive (site.powerLoss file) where
  installed := exclusive.installed
  holders := fun controller => by simp [Site.powerLoss, Watcher.new, Stage.holds]
  apart := fun held => absurd rfl held
  normal := fun controller passed => by cases passed
  running := fun command => by simp [Site.powerLoss]

theorem Exclusive.step (exclusive : Exclusive site) (happening : Happening) :
    Exclusive (site.step happening).1 := by
  cases happening with
  | poll controller poll now => exact exclusive.poll poll now
  | lock controller => exact exclusive.lock
  | refuse controller => exact exclusive.refuse
  | recheck controller now => exact exclusive.recheck now
  | kubectl controller => exact exclusive.kubectl
  | finish controller => exact exclusive.finish
  | crash controller => exact exclusive.unlock rfl
  | launch command euid now => exact exclusive.launch euid now
  | acquire command => exact exclusive.acquire
  | write command file => exact exclusive.write file
  | leave command => exact exclusive.leave
  | powerLoss file => exact exclusive.powerLoss file

/-- A scale is issued by a controller that passed the second guard. -/
theorem scale_passed {happening : Happening} {scale : Scale}
    (issued : (site.step happening).2 = some scale) :
    (site.watchers scale.controller).stage = .cleared scale.action := by
  cases happening with
  | kubectl controller =>
    simp only [Site.step, Site.kubectl] at issued
    split at issued
    · rename_i action cleared
      cases issued
      exact cleared
    · cases issued
  | poll | lock | refuse | recheck | finish | crash | launch | acquire | write | leave
  | powerLoss => cases issued

end Steps

theorem exclusive_run {root : Root} {uid : Nat} {file : SessionFile} (there : root ≠ .missing)
    (happenings : List Happening) :
    Exclusive (final Site.step (.installed root uid file) happenings) :=
  final_invariant Exclusive (fun _ happening exclusive (_ : True) => exclusive.step happening)
    (exclusive_installed there uid file) (fun _ _ => trivial)

/-- Controllers scale, and go on scaling, only while the persisted phase is NORMAL and no
maintenance command runs; and which contents of the session file `guard` reports as it should. -/
theorem scaling_excludes_maintenance (root : Root) (there : root ≠ .missing) (uid : Nat)
    (file : SessionFile) (happenings : List Happening) :
    (∀ taken ∈ trace Site.step (.installed root uid file) happenings,
      ∀ scale, taken.output = some scale → taken.before.Open) ∧
    (∀ controller action,
      ((final Site.step (.installed root uid file) happenings).watchers controller).stage =
          .scaling action →
        (final Site.step (.installed root uid file) happenings).Open) ∧
    ∀ (content : SessionFile) (now : ℚ),
      Reports root uid content now ↔ (root.Trusted uid → content.Tractable uid) := by
  refine ⟨fun taken member scale issued => ?_, fun controller action scaling => ?_,
    reports_iff there uid⟩
  · obtain ⟨exclusive, same⟩ := trace_invariant Exclusive
      (fun _ happening exclusive (_ : True) => exclusive.step happening)
      (exclusive_installed there uid file) (fun _ _ => trivial) taken member
    rw [same] at issued
    exact exclusive.free (by rw [scale_passed issued]; rfl)
  · exact (exclusive_run there happenings).free (by rw [scaling]; rfl)

def rootOwned : FileInfo := ⟨true, false, 0⟩

def normalRecord : Value :=
  .dict [("schema", .str SCHEMA), ("phase", .str "NORMAL"), ("generation", .int 0),
    ("session_id", .none)]

def failedPoll (now : ℚ) : Poll :=
  ⟨some (.stopped now false none), "confirmed", ⟨.unknown, "unknown"⟩, now, some 0, false, ""⟩

/-- A controller starts the fallback after half a minute of failures. -/
def startRun : List Happening :=
  [.poll 0 (failedPoll 0) 0, .poll 0 (failedPoll 30) 30, .lock 0, .recheck 0 31, .kubectl 0]

def normalSite : Site :=
  .installed (.found rootOwned) 0 (.file rootOwned 100 (.ok normalRecord))

theorem scaling_excludes_maintenance_start :
    ((final Site.step normalSite startRun).watchers 0).stage = .scaling .start ∧
      (final Site.step normalSite startRun).Open := by
  have scaling : ((final Site.step normalSite startRun).watchers 0).stage = .scaling .start := by
    decide +kernel
  have there : Root.found rootOwned ≠ .missing := by simp
  exact ⟨scaling,
    (scaling_excludes_maintenance (.found rootOwned) there 0 _ startRun).2.1 0 .start scaling⟩

/-- A session whose deadline is the integer 10^400. -/
def unboundedRecord : Value :=
  .dict [("schema", .str SCHEMA), ("phase", .str "MAINTENANCE"), ("generation", .int 1),
    ("session_id", .str "s"), ("deadline", .int (10 ^ 400))]

theorem unboundedRecord_overflowing : Overflowing unboundedRecord := by
  have large : Value.floatOverflow.natAbs ≤ (10 ^ 400 : Int).natAbs := by decide +kernel
  exact ⟨⟨_, rfl, rfl⟩, ⟨_, rfl, by simp [PHASES], by simp⟩, ⟨_, rfl, rfl⟩, ⟨_, rfl, rfl⟩, _, rfl,
    large⟩

theorem unboundedRecord_unreported :
    ¬∀ root : Root, root ≠ .missing → ∀ uid file now, Reports root uid file now := by
  intro always
  have there : Root.found rootOwned ≠ .missing := by simp
  have reported := always _ there 0 (.file rootOwned 100 (.ok unboundedRecord)) 0
  have tractable := (reports_iff there 0 _ 0).mp reported ⟨rfl, rfl, rfl⟩
  exact tractable.finite unboundedRecord rfl unboundedRecord_overflowing

end LiveStream.Maintenance

import LiveStream.Fallback.Controller
import LiveStream.Support.Run

/-! `CauseBook`: the durable bookmark of the cause of a failure, and the loop of `main` with it, over
restarts and reboots. -/

namespace LiveStream.Fallback

open LiveStream.Support

/-- The longest that an observation stays fresh: how long a cause has to be clear. -/
def SETTLING : ℚ := 180

/-- The current cause. An `origin` of `none` is `UNATTRIBUTED_FALLBACK`. -/
structure Cause where
  id : String
  sequence : Nat
  openedBoot : String
  origin : Option Domain
  originReason : String
  fallbackStarted : Bool
  clearSince : Option ℚ
  clearBoot : Option String
  domain : Domain
  reason : String
  lastAction : Option Action
  lastActionResult : Option String

/-- The state of the book; what `__init__` checks of a state is its invariant. -/
structure CauseState where
  sequence : Nat
  current : Option Cause
  lastClosedId : Option String
  ordered : ∀ cause ∈ current, cause.sequence ≤ sequence

namespace CauseState

/-- The state without a file. -/
def empty : CauseState := ⟨0, none, none, fun _ none_current => by cases none_current⟩

/-- A change of the current cause that keeps its number. -/
def revise (state : CauseState) (change : Cause → Cause)
    (keeps : ∀ cause, (change cause).sequence = cause.sequence) : CauseState where
  sequence := state.sequence
  current := state.current.map change
  lastClosedId := state.lastClosedId
  ordered := by
    intro changed member
    obtain ⟨cause, known, rfl⟩ := Option.map_eq_some_iff.mp member
    exact (keeps cause).trans_le (state.ordered cause known)

/-- A new current cause, under the next number. -/
def opened (state : CauseState) (boot freshId : String) (domain : Domain) (reason : String) :
    CauseState where
  sequence := state.sequence + 1
  current := some {
    id := freshId
    sequence := state.sequence + 1
    openedBoot := boot
    origin := if domain = .healthy then none else some domain
    originReason := reason
    fallbackStarted := false
    clearSince := none
    clearBoot := none
    domain := domain
    reason := reason
    lastAction := none
    lastActionResult := none }
  lastClosedId := state.lastClosedId
  ordered := by
    intro cause member
    cases member
    exact le_rfl

def closed (state : CauseState) (id : String) : CauseState where
  sequence := state.sequence
  current := none
  lastClosedId := some id
  ordered := by
    intro cause member
    cases member

end CauseState

inductive CauseEvent where
  | opened | resolving | closed
  deriving DecidableEq

/-- Whether an assessment needs a cause. -/
def isProblem (domain : Domain) (replicas : Option Int) : Bool :=
  (domain ≠ .healthy && domain ≠ .initializing) || (replicas ≠ some 0 && replicas ≠ none)

/-- `current['domain']=domain; current['reason']=reason; current['clear_since']=None`. -/
def CauseState.troubled (state : CauseState) (domain : Domain) (reason : String) : CauseState :=
  state.revise (fun cause => { cause with domain := domain, reason := reason, clearSince := none })
    fun _ => rfl

/-- `current['clear_since']=None`. -/
def CauseState.unsettled (state : CauseState) : CauseState :=
  state.revise (fun cause => { cause with clearSince := none }) fun _ => rfl

/-- `current['clear_since']=now; current['clear_boot']=self.boot`. -/
def CauseState.resolving (state : CauseState) (boot : String) (now : ℚ) : CauseState :=
  state.revise (fun cause => { cause with clearSince := some now, clearBoot := some boot })
    fun _ => rfl

/-- The branch of `update` for a current cause that is clear at the moment. -/
def CauseState.settle (state : CauseState) (cause : Cause) (boot : String) (now : ℚ) :
    CauseState × Option CauseEvent :=
  let resolves : Bool := cause.clearSince.isNone || cause.clearBoot ≠ some boot
  let since := if resolves then now else cause.clearSince.getD now
  if SETTLING ≤ now - since then (state.closed cause.id, some .closed)
  else if resolves then (state.resolving boot now, some .resolving)
  else (state, none)

/-- The part of `update` that changes the state. -/
def CauseState.advance (state : CauseState) (boot : String) (domain : Domain) (reason : String)
    (replicas : Option Int) (now : ℚ) (freshId : String) : CauseState × Option CauseEvent :=
  if isProblem domain replicas then
    match state.current with
    | none => (state.opened boot freshId domain reason, some .opened)
    | some _ => (state.troubled domain reason, none)
  else
    match state.current with
    | none => (state, none)
    | some cause =>
      if domain = .healthy ∧ replicas = some 0 then state.settle cause boot now
      else (state.unsettled, none)

/-- What `update` returns. -/
structure Causality where
  causeId : Option String
  assessment : Domain
  reason : String
  causeActive : Bool
  fallbackActive : Option Bool
  secondaryRecoveryBlocked : Bool
  causeEvent : Option CauseEvent

/-- `update`, up to the write of the file. -/
def CauseState.update (state : CauseState) (boot : String) (domain : Domain) (reason : String)
    (replicas : Option Int) (now : ℚ) (freshId : String) : CauseState × Causality :=
  let advanced := state.advance boot domain reason replicas now freshId
  (advanced.1, {
    causeId := advanced.1.current.map (·.id)
    assessment := domain
    reason := reason
    causeActive := advanced.1.current.isSome
    fallbackActive := replicas.map (0 < ·)
    secondaryRecoveryBlocked :=
      domain ≠ .healthy || advanced.1.current.isSome || replicas ≠ some 0
    causeEvent := advanced.2 })

/-- `dispatched`. -/
def CauseState.dispatched (state : CauseState) (action : Action) (result : String) : CauseState :=
  state.revise (fun cause => { cause with
    lastAction := some action
    lastActionResult := some result
    fallbackStarted := cause.fallbackStarted || (action = .start && result = "SUCCEEDED") })
    fun _ => rfl

/-- A process of the controller on a boot, with the book in memory. -/
structure CauseProcess where
  boot : String
  book : CauseState
  loop : LoopState

/-- The file of the book, and the process if one runs. -/
structure CauseWorld where
  file : Option CauseState
  process : Option CauseProcess

/-- What happens next. A round that is cut ends its process in `update`, before or after the file
is replaced, or before `dispatched` has written. A reboot is a start on another boot. -/
inductive CauseTurn where
  | start (boot : String)
  | round (poll : Poll) (freshId : String) (result : String)
  | cut (poll : Poll) (freshId : String) (replaced : Bool)

/-- An update that reached the file. -/
structure Answer where
  boot : String
  domain : Domain
  replicas : Option Int
  now : ℚ
  causality : Causality

/-- The update of a round: the loop after it, what it decides, the book and the answer. -/
def CauseProcess.update (process : CauseProcess) (poll : Poll) (freshId : String) :
    LoopState × Outcome × CauseState × Answer :=
  let polled := process.loop.poll poll
  let updated := process.book.update process.boot polled.2.domain polled.1.controller.reason
    poll.replicas poll.now freshId
  (polled.1, polled.2, updated.1,
    ⟨process.boot, polled.2.domain, poll.replicas, poll.now, updated.2⟩)

/-- `if action: book.dispatched(action, action_result)`. -/
def dispatchedIf (book : CauseState) (action : Option Action) (result : String) : CauseState :=
  match action with
  | none => book
  | some action => book.dispatched action result

def causeTurn (world : CauseWorld) : CauseTurn → CauseWorld × Option Answer
  | .start boot =>
    ({ world with process := some ⟨boot, world.file.getD .empty, .new⟩ }, none)
  | .round poll freshId result =>
    match world.process with
    | none => (world, none)
    | some process =>
      let (loop, outcome, book, answer) := process.update poll freshId
      let dispatched := dispatchedIf book outcome.action result
      (⟨some dispatched, some ⟨process.boot, dispatched, loop⟩⟩, some answer)
  | .cut poll freshId replaced =>
    match world.process with
    | none => (world, none)
    | some process =>
      let (_, _, book, answer) := process.update poll freshId
      if replaced then (⟨some book, none⟩, some answer) else (⟨world.file, none⟩, none)

end LiveStream.Fallback

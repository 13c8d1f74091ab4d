import LiveStream.Twitch.DailyJournal

/-! Runs of the owners of the daily renewal over one journal, killed at any point: each command is
dispatched at most once, and the journal is a run of the reducer. -/

namespace LiveStream.Twitch

open LiveStream.Support

/-! ### What a process relies on -/

/-- A state that waits for the outcome of a command. -/
inductive Waits (state : RenewalState) (command : Command) : Prop where
  | stop (operation : Operation) (began : ℚ) (renewing : Renewing state operation began)
      (phase : state.phase = .waitStop) (same : command = operation.stop)
  | start (operation : Operation) (began : ℚ) (renewing : Renewing state operation began)
      (phase : state.phase = .waitStart) (same : command = operation.start)

/-- The open rows of a process between two commands. -/
def Settled (journal : Journal) : Option Command → Prop
  | none => ∀ row ∈ journal.outbox, row.phase = .observed
  | some command => Only journal command .dispatching

/-- A process without a fault: it holds the state of the journal, which is a run of the reducer. -/
structure Following (policy : RenewalPolicy) (journal : Journal) (adopted : List Tick) (state : RenewalState) :
    Prop where
  state : state = journal.state
  clean : Clean policy journal adopted

/-- A process between two commands. -/
structure Idle (policy : RenewalPolicy) (journal : Journal) (adopted : List Tick) (state : RenewalState)
    (pending : Option Command) : Prop where
  following : Following policy journal adopted state
  settled : Settled journal pending
  waits : ∀ command, pending = some command → Waits state command

/-- No call of `relay.change` was for a command. -/
def Untouched (history : List Change) (command : Command) : Prop :=
  ∀ change ∈ history, change.command.requestId ≠ command.requestId

/-- The stop after a fault, whose row stands in a phase. -/
structure Fault (policy : RenewalPolicy) (journal : Journal) (adopted : List Tick) (command : Command)
    (phase : RowPhase) : Prop where
  stopped : Stopped policy journal adopted
  row : ∃ row ∈ journal.outbox, row.command = command ∧ row.phase = phase

inductive Stands (policy : RenewalPolicy) (journal : Journal) (adopted : List Tick) (history : List Change)
    (state : RenewalState) (pending : Option Command) : Stage → Prop where
  | top (idle : Idle policy journal adopted state pending) : Stands policy journal adopted history state pending .top
  | deciding (tick : Tick) (idle : Idle policy journal adopted state pending)
      (heard : ∀ outcome, tick.outcome = some outcome → pending = none ∧
        ∃ row ∈ journal.outbox, row.outcome = some outcome) :
      Stands policy journal adopted history state pending (.deciding tick)
  | dispatching (command : Command) (following : Following policy journal adopted state)
      (only : Only journal command .pending) (untouched : Untouched history command)
      (waits : Waits state command) : Stands policy journal adopted history state pending (.dispatching command false)
  | changing (command : Command) (following : Following policy journal adopted state)
      (only : Only journal command .dispatching) (untouched : Untouched history command)
      (waits : Waits state command) : Stands policy journal adopted history state pending (.changing command false)
  | faultDispatching (command : Command) (fault : Fault policy journal adopted command .pending)
      (untouched : Untouched history command) :
      Stands policy journal adopted history state pending (.dispatching command true)
  | faultChanging (command : Command) (fault : Fault policy journal adopted command .dispatching)
      (untouched : Untouched history command) :
      Stands policy journal adopted history state pending (.changing command true)
  | failed (known : String) (clean : Clean policy journal adopted) :
      Stands policy journal adopted history state pending (.failed known)

/-- A patched list begins with the approved entry of YouTube. -/
def KeepsYoutube (approval : Approval) (change : Change) : Prop :=
  ∀ list, change.patch = some list → ∃ youtube rest others, approval.forward = youtube :: rest ∧
    list = wire youtube :: others

/-- What the calls of `relay.change` keep to. -/
structure Kept (approval : Approval) (journal : Journal) (history : List Change) : Prop where
  fits : journal.Fits
  once : (history.map fun change => change.command.requestId).Nodup
  tried : ∀ change ∈ history, ∃ row ∈ journal.outbox, row.command = change.command ∧ row.phase ≠ .pending
  patched : ∀ change ∈ history, KeepsYoutube approval change

/-- The journal is a run of the reducer, or ended with a stop after a fault. -/
def Refines (policy : RenewalPolicy) (journal : Journal) (adopted : List Tick) : Prop :=
  Clean policy journal adopted ∨ Stopped policy journal adopted

structure World.Sound (approval : Approval) (policy : RenewalPolicy) (world : World) : Prop where
  kept : Kept approval world.journal world.history
  refines : Refines policy world.journal world.adopted
  process : ∀ process, world.process = some process →
    Stands policy world.journal world.adopted world.history process.state process.pending process.stage

variable {approval : Approval} {policy : RenewalPolicy} {provider : Providers} {journal after : Journal}
  {adopted : List Tick} {history : List Change} {state : RenewalState} {command : Command} {world : World}
  {process : Process} {tick : Tick}

/-! ### The parts of the invariant -/

theorem Kept.grow (kept : Kept approval journal history) (fits : after.Fits) (grows : Grows journal after) :
    Kept approval after history := by
  refine ⟨fits, kept.once, fun change member => ?_, kept.patched⟩
  obtain ⟨row, listed, own, tried⟩ := kept.tried change member
  obtain ⟨moved, still, same, phase, _⟩ := grows.rows row listed
  exact ⟨moved, still, same.trans own, phase tried⟩

theorem Kept.note {patch : Option (List Fields)} (kept : Kept approval journal history)
    (row : ∃ row ∈ journal.outbox, row.command = command ∧ row.phase = .dispatching)
    (untouched : Untouched history command) (keeps : KeepsYoutube approval ⟨command, patch⟩) :
    Kept approval journal (history ++ [⟨command, patch⟩]) := by
  refine ⟨kept.fits, nodup_map_append kept.once untouched, ?_, ?_⟩
  · intro change member
    rcases List.mem_append.mp member with former | new
    · exact kept.tried change former
    · obtain rfl := List.mem_singleton.mp new
      obtain ⟨row, listed, own, phase⟩ := row
      exact ⟨row, listed, own, by rw [phase]; rintro ⟨⟩⟩
  · intro change member
    rcases List.mem_append.mp member with former | new
    · exact kept.patched change former
    · obtain rfl := List.mem_singleton.mp new
      exact keeps

/-- A command that is new to the outbox is new to the relay. -/
theorem Kept.untouched (kept : Kept approval journal history)
    (absent : ∀ row ∈ journal.outbox, row.requestId ≠ command.requestId) : Untouched history command := by
  intro change member same
  obtain ⟨row, listed, own, _⟩ := kept.tried change member
  refine absent row listed ?_
  rw [(kept.fits.rows row listed).named, own, same]

theorem Clean.move (clean : Clean policy journal adopted) (moves : Moves journal after) :
    Clean policy after adopted :=
  ⟨moves.state.trans clean.state, clean.adopts.grow moves.grows moves.commands⟩

theorem Following.move (following : Following policy journal adopted state) (moves : Moves journal after) :
    Following policy after adopted state :=
  ⟨following.state.trans moves.state.symm, following.clean.move moves⟩

/-- The stop after a fault ends the run of the reducer. -/
theorem Clean.stop {old new : RenewalState} {relay handler : String} (clean : Clean policy journal adopted)
    (named : command.requestId = .faultStop relay handler)
    (committed : journal.commit old new (some command) = .ok after) : Fault policy after adopted command .pending := by
  obtain ⟨_, _, _, _, outbox⟩ := commit_ok committed
  have own : Row.mk command.requestId command .pending 0 none ∈ after.outbox := by
    rw [outbox]
    exact List.mem_append_right _ (List.mem_singleton_self _)
  refine ⟨⟨_, own, ⟨relay, handler, named⟩, by rintro ⟨⟩, ?_, fun turn member outcome given => ?_⟩, _, own, rfl, rfl⟩
  · rw [outbox, List.map_append, clean.adopts.commands, List.append_nil]
    rfl
  · obtain ⟨row, listed, found⟩ := clean.adopts.heard turn member outcome given
    obtain ⟨kept, still, _, _, outcomes⟩ := (grows_append _ outbox).rows row listed
    exact ⟨kept, still, outcomes outcome found⟩

theorem Fault.dispatch (fits : journal.Fits) (fault : Fault policy journal adopted command .pending)
    (dispatched : journal.dispatchOnce command = .ok after) : Fault policy after adopted command .dispatching := by
  have moves := dispatch_moves fits dispatched
  obtain ⟨own, ownListed, ownCommand, _⟩ := fault.row
  refine ⟨⟨?_⟩, dispatch_row dispatched fun row listed same => ?_⟩
  · obtain ⟨row, listed, named, unsettled, adopts⟩ := fault.stopped.fault
    obtain ⟨_, _, outbox⟩ := dispatchOnce_ok dispatched
    refine ⟨if Row.isUntried command.requestId row then row.dispatched else row, ?_, ?_⟩
    · rw [outbox]
      exact List.mem_map_of_mem listed
    · have grown := adopts.grow moves.grows moves.commands
      split
      · exact ⟨named, by rintro ⟨⟩, grown⟩
      · exact ⟨named, unsettled, grown⟩
  · have key : row.requestId = own.requestId := by
      rw [same, (fits.rows own ownListed).named, ownCommand]
    rw [eq_of_key fits.unique listed ownListed key, ownCommand]

/-- While its row is dispatched, the command that a state waits for has no outcome in the journal. -/
theorem Waits.unanswered (fits : journal.Fits) (only : Only journal command .dispatching)
    (waits : Waits state command) : journal.outcome state = none := by
  have silent (operation : Operation) (action : Action)
      (named : command.requestId = .renewal operation action) :
      (journal.outbox.find? fun row => row.requestId = .renewal operation action).bind Row.outcome = none := by
    cases found : journal.outbox.find? fun row => row.requestId = .renewal operation action with
    | none => rfl
    | some row =>
      have listed := List.mem_of_find?_eq_some found
      have key : row.requestId = .renewal operation action := by simpa using List.find?_some found
      obtain ⟨own, ownListed, ownCommand, phase⟩ := only.row
      have same : row.requestId = own.requestId := by
        rw [key, (fits.rows own ownListed).named, ownCommand, named]
      obtain rfl := eq_of_key fits.unique listed ownListed same
      cases answer : row.outcome with
      | none => exact answer
      | some outcome =>
        have observed := ((fits.rows row listed).outcome outcome answer).1
        cases observed.symm.trans phase
  unfold Journal.outcome
  cases waits with
  | stop operation began renewing phase same =>
    rw [renewing.operation, phase]
    exact silent operation .stopTwitch (by rw [same]; rfl)
  | start operation began renewing phase same =>
    rw [renewing.operation, phase]
    exact silent operation .startTwitch (by rw [same]; rfl)

/-- What a decision leaves of the wait for a command. -/
theorem Waits.steps {decision : Decision} (waits : Waits state command) (silent : tick.outcome = none)
    (steps : Steps policy state tick decision) : decision.command = none ∧
      (Waits decision.state command ∨ decision.state.phase = .unknown ∨ decision.state.phase = .cancelled) := by
  have waiting : state.phase = .waitStop ∨ state.phase = .waitStart := by
    cases waits with
    | stop operation began renewing phase => exact Or.inl phase
    | start operation began renewing phase => exact Or.inr phase
  have not (other : Phase) (neither : other ≠ .waitStop ∧ other ≠ .waitStart) (phase : state.phase = other) :
      False := by
    rcases waiting with waiting | waiting
    · exact neither.1 (phase.symm.trans waiting)
    · exact neither.2 (phase.symm.trans waiting)
  cases steps with
  | stays => exact ⟨rfl, Or.inl waits⟩
  | goes =>
    refine ⟨rfl, Or.inl ?_⟩
    cases waits with
    | stop operation began renewing phase same =>
      exact .stop operation began ⟨renewing.binding, renewing.session, renewing.operation, renewing.began⟩ phase same
    | start operation began renewing phase same =>
      exact .start operation began ⟨renewing.binding, renewing.session, renewing.operation, renewing.began⟩ phase same
  | ends phase ended =>
    refine ⟨rfl, Or.inr ?_⟩
    rcases ended with rfl | rfl
    · exact Or.inr rfl
    · exact Or.inl rfl
  | tracks phase => exact (not .tracking (by decide) phase).elim
  | requestsStop phase => exact (not .tracking (by decide) phase).elim
  | seesStop phase operation began renewing seen =>
    obtain ⟨outcome, given, _⟩ := seen.outcome
    cases silent.symm.trans given
  | requestsStart phase => exact (not .waitOffline (by decide) phase).elim
  | seesStart phase operation began requested renewing instant seen =>
    obtain ⟨outcome, given, _⟩ := seen.outcome
    cases silent.symm.trans given
  | renews phase => exact (not .verifying (by decide) phase).elim

/-- A command of a decision is one that the state after it waits for. -/
theorem steps_waits {decision : Decision} (steps : Steps policy state tick decision)
    (given : decision.command = some command) : Waits decision.state command := by
  cases steps with
  | stays => cases given
  | goes => cases given
  | ends => cases given
  | tracks => cases given
  | requestsStop phase session =>
    exact .stop _ tick.now.utc ⟨rfl, rfl, rfl, rfl⟩ rfl (Option.some.inj given).symm
  | seesStop => cases given
  | requestsStart phase operation began stopped renewing =>
    exact .start operation began ⟨renewing.binding, renewing.session, renewing.operation, renewing.began⟩ rfl
      (Option.some.inj given).symm
  | seesStart => cases given
  | renews => cases given

/-! ### What a step keeps -/

theorem goto_sound {stage : Stage} (kept : Kept approval world.journal world.history)
    (refines : Refines policy world.journal world.adopted)
    (stands : Stands policy world.journal world.adopted world.history process.state process.pending stage) :
    (world.goto process stage).Sound approval policy := by
  refine ⟨kept, refines, fun other same => ?_⟩
  obtain rfl := Option.some.inj same
  exact stands

theorem ended_sound (kept : Kept approval world.journal world.history)
    (refines : Refines policy world.journal world.adopted) :
    World.Sound approval policy { world with process := none } :=
  ⟨kept, refines, by rintro _ ⟨⟩⟩

theorem failed_sound {known : String} (kept : Kept approval world.journal world.history)
    (clean : Clean policy world.journal world.adopted) :
    (world.goto process (.failed known)).Sound approval policy :=
  goto_sound kept (Or.inl clean) (.failed known clean)

theorem sees_state {look : Look} {seen : Seen} {next : Process}
    (looked : process.sees approval look = .ok (next, seen)) :
    next.state = process.state ∧ next.pending = process.pending := by
  unfold Process.sees at looked
  simp only [bind_eq_ok] at looked
  obtain ⟨_, _, looked⟩ := looked
  split at looked
  · obtain ⟨rfl, rfl⟩ := Prod.mk.inj (Except.ok.inj looked)
    exact ⟨rfl, rfl⟩
  · simp only [bind_eq_ok] at looked
    obtain ⟨_, _, looked⟩ := looked
    obtain ⟨rfl, rfl⟩ := Prod.mk.inj (Except.ok.inj looked)
    exact ⟨rfl, rfl⟩

/-- An outcome that the journal answers with is that of a row. -/
theorem outcome_listed {outcome : Outcome} (found : journal.outcome state = some outcome) :
    ∃ row ∈ journal.outbox, row.outcome = some outcome := by
  obtain ⟨operation, _, answered⟩ := Option.bind_eq_some_iff.mp found
  obtain ⟨row, located, answer⟩ := Option.bind_eq_some_iff.mp answered
  exact ⟨row, List.mem_of_find?_eq_some located, answer⟩

theorem look_sound {look : Look} {save : Save} (kept : Kept approval world.journal world.history)
    (idle : Idle policy world.journal world.adopted process.state process.pending) :
    (world.look approval process look save).Sound approval policy := by
  have clean := idle.following.clean
  unfold World.look
  split
  · exact failed_sound kept clean
  · rename_i next seen looked
    obtain ⟨sameState, samePending⟩ := sees_state looked
    rw [← sameState, ← samePending] at idle
    split
    · exact failed_sound kept clean
    · dsimp only
      split
      · -- no command is pending: the journal answers
        rename_i none
        refine goto_sound kept (Or.inl clean) (.deciding _ idle fun outcome given => ?_)
        exact ⟨none, outcome_listed given⟩
      · rename_i command pending
        have only : Only world.journal command .dispatching := by
          have settled := idle.settled
          rwa [pending] at settled
        split
        · -- the effect of the command is seen
          generalize ended : transact world.journal
            (world.journal.finish command (command.outcome next.now.utc) (seen.twitch.map Handler.id)) save = result
          obtain ⟨after, returned⟩ := result
          rcases transact_cases ended with ⟨rfl, ⟨known, rfl⟩, _⟩ | ⟨finished, _, _⟩
          · exact failed_sound kept clean
          · have moves := finish_moves kept.fits rfl finished
            obtain ⟨settled, listed⟩ := finish_settles kept.fits only finished
            have grown := kept.grow moves.fits moves.grows
            cases returned with
            | error known =>
              exact failed_sound grown (clean.move moves)
            | ok _ =>
              refine goto_sound grown (Or.inl (clean.move moves)) (.deciding _ ?_ fun outcome given => ⟨rfl, ?_⟩)
              · exact ⟨idle.following.move moves, settled, by rintro _ ⟨⟩⟩
              · obtain rfl := Option.some.inj given
                exact listed
        · split
          · exact failed_sound kept clean
          · refine goto_sound kept (Or.inl clean) (.deciding _ idle fun outcome given => ?_)
            cases ((idle.waits command pending).unanswered kept.fits only).symm.trans given

/-- What follows a decision that is in the journal. -/
theorem settled_sound {decision : Decision} (kept : Kept approval world.journal world.history)
    (following : Following policy world.journal world.adopted process.state)
    (commanded : ∀ command, decision.command = some command → Only world.journal command .pending ∧
      Untouched world.history command ∧ Waits process.state command)
    (idle : decision.command = none → ¬ (decision.state.phase = .unknown ∨ decision.state.phase = .cancelled) →
      Idle policy world.journal world.adopted process.state process.pending) :
    (world.settled process decision).Sound approval policy := by
  have refines : Refines policy world.journal world.adopted := Or.inl following.clean
  unfold World.settled
  split
  · rename_i command given
    obtain ⟨only, untouched, waits⟩ := commanded command given
    exact goto_sound kept refines (.dispatching command following only untouched waits)
  · rename_i none
    split
    · exact ended_sound kept refines
    · split
      · exact failed_sound kept following.clean
      · rename_i live
        exact goto_sound kept refines (.top (idle none live))

theorem Settled.same {pending : Option Command} (settled : Settled journal pending)
    (outbox : after.outbox = journal.outbox) : Settled after pending := by
  cases pending with
  | none => exact fun row member => settled row (outbox ▸ member)
  | some command => exact ⟨outbox ▸ settled.row, outbox ▸ settled.others⟩

/-- A command that is committed while no row is open is the only one that is. -/
theorem commit_only {old new : RenewalState} (settled : Settled journal none)
    (committed : journal.commit old new (some command) = .ok after) : Only after command .pending := by
  obtain ⟨_, _, _, _, outbox⟩ := commit_ok committed
  constructor
  · refine ⟨⟨command.requestId, command, .pending, 0, none⟩, ?_, rfl, rfl⟩
    rw [outbox]
    exact List.mem_append_right _ (List.mem_singleton_self _)
  · rw [outbox]
    intro row member unsettled
    rcases List.mem_append.mp member with former | own
    · exact absurd (settled row former) unsettled
    · obtain rfl := List.mem_singleton.mp own
      rfl

theorem decide_sound {save : Save} (kept : Kept approval world.journal world.history)
    (idle : Idle policy world.journal world.adopted process.state process.pending)
    (heard : ∀ outcome, tick.outcome = some outcome → process.pending = none ∧
      ∃ row ∈ world.journal.outbox, row.outcome = some outcome) :
    (world.decide policy process tick save).Sound approval policy := by
  have clean := idle.following.clean
  have current := idle.following.state
  have steps : Steps policy process.state tick (advance policy process.state tick) := by
    have held := (run_held policy world.adopted).2
    rw [← clean.state, ← current] at held
    exact advance_steps held.whole
  have silent (command : Command) (pending : process.pending = some command) : tick.outcome = none := by
    cases answer : tick.outcome with
    | none => rfl
    | some outcome => cases pending.symm.trans (heard outcome answer).1
  unfold World.decide
  split
  · exact goto_sound kept (Or.inl clean) (.top idle)
  · dsimp only
    split
    · generalize ended : transact world.journal (world.journal.commit process.state
        (advance policy process.state tick).state (advance policy process.state tick).command) save = result
      obtain ⟨after, returned⟩ := result
      rcases transact_cases ended with ⟨rfl, ⟨known, rfl⟩, lost⟩ | ⟨committed, made, durable⟩
      · rw [if_neg lost]
        exact failed_sound kept clean
      · rw [if_pos ⟨made, durable⟩]
        obtain ⟨_, state, _, absent, outbox⟩ := commit_ok committed
        have grown := kept.grow (fits_commit kept.fits committed) (grows_append _ outbox)
        have next : Clean policy after (world.adopted ++ [tick]) := by
          rw [current] at committed
          exact clean.commit (fun outcome given => (heard outcome given).2) committed
        cases returned with
        | error known => exact failed_sound grown next
        | ok _ =>
          refine settled_sound grown ⟨state.symm, next⟩ (fun command given => ?_) fun none live => ?_
          · have unpending : process.pending = none := by
              cases pending : process.pending with
              | none => rfl
              | some other =>
                have quiet := ((idle.waits other pending).steps (silent other pending) steps).1
                cases quiet.symm.trans given
            have settled : Settled world.journal none := unpending ▸ idle.settled
            refine ⟨?_, kept.untouched (absent command given), steps_waits steps given⟩
            rw [given] at committed
            exact commit_only settled committed
          · refine ⟨⟨state.symm, next⟩, idle.settled.same ?_, fun command pending => ?_⟩
            · rw [outbox, none]
              exact List.append_nil _
            · exact ((idle.waits command pending).steps (silent command pending) steps).2.resolve_right live
    · rename_i unchanged
      refine settled_sound kept idle.following (fun command given => ?_) fun _ _ => idle
      rw [given] at unchanged
      exact absurd (Or.inr (Or.inl rfl)) unchanged

theorem raised_sound {fault : Bool} {known : String} (kept : Kept approval world.journal world.history)
    (refines : Refines policy world.journal world.adopted)
    (clean : fault = false → Clean policy world.journal world.adopted) :
    (world.raised process fault known).Sound approval policy := by
  cases fault with
  | false => exact failed_sound kept (clean rfl)
  | true => exact ended_sound kept refines

theorem dispatch_sound {save : Save} (kept : Kept approval world.journal world.history)
    (following : Following policy world.journal world.adopted process.state)
    (only : Only world.journal command .pending) (untouched : Untouched world.history command)
    (waits : Waits process.state command) : (world.dispatch process command false save).Sound approval policy := by
  unfold World.dispatch
  generalize ended : transact world.journal (world.journal.dispatchOnce command) save = result
  obtain ⟨after, returned⟩ := result
  rcases transact_cases ended with ⟨rfl, ⟨known, rfl⟩, _⟩ | ⟨dispatched, _, _⟩
  · exact failed_sound kept following.clean
  · have moves := dispatch_moves kept.fits dispatched
    have grown := kept.grow moves.fits moves.grows
    have moved := following.move moves
    cases returned with
    | error known => exact failed_sound grown moved.clean
    | ok _ =>
      exact goto_sound grown (Or.inl moved.clean)
        (.changing command moved (dispatch_only kept.fits only dispatched) untouched waits)

theorem dispatch_fault_sound {save : Save} (kept : Kept approval world.journal world.history)
    (fault : Fault policy world.journal world.adopted command .pending)
    (untouched : Untouched world.history command) :
    (world.dispatch process command true save).Sound approval policy := by
  unfold World.dispatch
  generalize ended : transact world.journal (world.journal.dispatchOnce command) save = result
  obtain ⟨after, returned⟩ := result
  rcases transact_cases ended with ⟨rfl, ⟨known, rfl⟩, _⟩ | ⟨dispatched, _, _⟩
  · exact ended_sound kept (Or.inr fault.stopped)
  · have moves := dispatch_moves kept.fits dispatched
    have grown := kept.grow moves.fits moves.grows
    have moved := fault.dispatch kept.fits dispatched
    cases returned with
    | error known => exact ended_sound grown (Or.inr moved.stopped)
    | ok _ => exact goto_sound grown (Or.inr moved.stopped) (.faultChanging command moved untouched)

/-- A list that `relay.change` patches keeps the approved entry of YouTube in the first place. -/
theorem patch_keeps {answers : Answers} {again : Except String GuardStatus} {list : List Fields}
    (patched : World.patch approval provider process command answers again = .ok list) :
    KeepsYoutube approval ⟨command, some list⟩ := by
  unfold World.patch at patched
  simp only [bind_eq_ok] at patched
  obtain ⟨_, _, _, _, destination, _, updated, made, patched⟩ := patched
  obtain rfl := Except.ok.inj patched
  rintro _ ⟨⟩
  unfold twitchForwardUpdate at made
  split at made
  · cases made
  · rename_i youtube rest configured
    simp only [bind_eq_ok] at made
    obtain ⟨_, _, _, _, _, _, _, _, _, _, _, _, _, _, made⟩ := made
    obtain rfl := Except.ok.inj made
    exact ⟨youtube, rest, _, configured, rfl⟩

theorem change_sound {fault returned : Bool} {answers : Answers} {again : Except String GuardStatus}
    (kept : Kept approval world.journal world.history) (refines : Refines policy world.journal world.adopted)
    (row : ∃ row ∈ world.journal.outbox, row.command = command ∧ row.phase = .dispatching)
    (untouched : Untouched world.history command)
    (idle : fault = false → Idle policy world.journal world.adopted process.state (some command)) :
    (world.change approval provider process command fault answers again returned).Sound approval policy := by
  have clean (regular : fault = false) := (idle regular).following.clean
  unfold World.change
  split
  · have none : KeepsYoutube approval ⟨command, none⟩ := by rintro _ ⟨⟩
    exact raised_sound (kept.note row untouched none) refines clean
  · rename_i list patched
    have noted := kept.note row untouched (patch_keeps patched)
    dsimp only
    split
    · cases fault with
      | false => exact goto_sound noted refines (.top (idle rfl))
      | true => exact ended_sound noted refines
    · exact raised_sound noted refines clean

theorem fault_sound {known : String} {answers : Answers} {save : Save}
    (kept : Kept approval world.journal world.history) (clean : Clean policy world.journal world.adopted) :
    (world.fault approval process known answers save).Sound approval policy := by
  have refines : Refines policy world.journal world.adopted := Or.inl clean
  unfold World.fault
  dsimp only
  split
  · split
    · exact ended_sound kept refines
    · split
      · exact ended_sound kept refines
      · rename_i relay seen _ handler _
        generalize stopping : world.faultStop approval process handler = command
        have named : command.requestId = .faultStop approval.relayInstance handler.id := by
          rw [← stopping]
          rfl
        generalize ended : transact world.journal (world.journal.commit process.state
          { process.state with revision := process.state.revision + 1, phase := .unknown } (some command)) save = result
        obtain ⟨after, returned⟩ := result
        rcases transact_cases ended with ⟨rfl, ⟨known, rfl⟩, _⟩ | ⟨committed, _, _⟩
        · exact ended_sound kept refines
        · obtain ⟨_, _, _, absent, outbox⟩ := commit_ok committed
          have grown := kept.grow (fits_commit kept.fits committed) (grows_append _ outbox)
          have fault := clean.stop named committed
          cases returned with
          | error known => exact ⟨grown, Or.inr fault.stopped, by rintro _ ⟨⟩⟩
          | ok _ =>
            exact goto_sound grown (Or.inr fault.stopped)
              (.faultDispatching command fault (kept.untouched (absent command rfl)))
  · exact ended_sound kept refines

theorem boot_sound {bootId : String} {exercise validated : Bool} {facts : BroadcastFacts}
    (sound : world.Sound approval policy) : (world.boot bootId exercise validated facts).Sound approval policy := by
  unfold World.boot
  split
  · exact sound
  · rename_i resolved
    split
    · exact sound
    · split
      · exact sound
      · have settled : ∀ row ∈ world.journal.outbox, row.phase = .observed := by
          intro row member
          by_contra unsettled
          exact resolved (List.any_eq_true.mpr ⟨row, member, decide_eq_true unsettled⟩)
        have clean : Clean policy world.journal world.adopted := by
          rcases sound.refines with clean | stopped
          · exact clean
          · obtain ⟨row, member, _, unsettled, _⟩ := stopped.fault
            exact absurd (settled row member) unsettled
        refine ⟨sound.kept, sound.refines, fun process same => ?_⟩
        obtain rfl := Option.some.inj same
        exact .top ⟨⟨rfl, clean⟩, settled, by rintro _ ⟨⟩⟩

theorem act_sound {event : Event} (sound : world.Sound approval policy) (present : world.process = some process) :
    (world.act approval policy provider process event).Sound approval policy := by
  have kept := sound.kept
  have stands := sound.process process present
  unfold World.act
  split
  · exact ended_sound kept sound.refines
  · rename_i look save stage
    rw [stage] at stands
    cases stands with
    | top idle => exact look_sound kept idle
  · rename_i known stage
    rw [stage] at stands
    cases stands with
    | top idle => exact failed_sound kept idle.following.clean
  · rename_i tick save stage
    rw [stage] at stands
    cases stands with
    | deciding _ idle heard => exact decide_sound kept idle heard
  · rename_i command fault save stage
    rw [stage] at stands
    cases stands with
    | dispatching _ following only untouched waits => exact dispatch_sound kept following only untouched waits
    | faultDispatching _ fault untouched => exact dispatch_fault_sound kept fault untouched
  · rename_i command fault answers again returned stage
    rw [stage] at stands
    cases stands with
    | changing _ following only untouched waits =>
      refine change_sound kept sound.refines only.row untouched fun _ => ⟨following, only, ?_⟩
      rintro _ ⟨⟩
      exact waits
    | faultChanging _ fault untouched =>
      exact change_sound kept sound.refines fault.row untouched (by rintro ⟨⟩)
  · rename_i known answers save stage
    rw [stage] at stands
    cases stands with
    | failed _ clean => exact fault_sound kept clean
  · exact sound

theorem step_sound {event : Event} (sound : world.Sound approval policy) :
    (world.step approval policy provider event).Sound approval policy := by
  unfold World.step
  split
  · rename_i process present
    exact act_sound sound present
  · split
    · exact boot_sound sound
    · exact sound

theorem run_sound (approval : Approval) (policy : RenewalPolicy) (provider : Providers) (events : List Event) :
    (World.run approval policy provider events).Sound approval policy := by
  induction events using List.reverseRecOn with
  | nil =>
    refine ⟨⟨⟨List.nodup_nil, by rintro _ ⟨⟩⟩, List.nodup_nil, by rintro _ ⟨⟩, by rintro _ ⟨⟩⟩, ?_, by rintro _ ⟨⟩⟩
    exact Or.inl ⟨rfl, rfl, by rintro _ ⟨⟩⟩
  | append_singleton events event ih =>
    unfold World.run
    rw [List.foldl_append]
    exact step_sound ih

/-! ### What the relay is asked -/

/-- What holds of the calls of `relay.change` and of the outbox. -/
structure World.OneShot (approval : Approval) (world : World) : Prop where
  once : (world.history.map fun change => change.command.requestId).Nodup
  recorded : ∀ change ∈ world.history, ∃ row ∈ world.journal.outbox,
    row.command = change.command ∧ row.phase ≠ .pending ∧ row.attempts = 1
  patched : ∀ change ∈ world.history, KeepsYoutube approval change
  /-- The commands are the stop and the start of one operation after the other, and then a fault's stop. -/
  ordered : ∃ operations front rest, Ordered operations ∧ world.journal.outbox.map Row.command = front ++ rest ∧
    front <+: operations.flatMap Operation.commands ∧ rest.length ≤ 1 ∧
    ∀ command ∈ rest, ∃ relay handler, command.requestId = .faultStop relay handler
  /-- A start is asked for only once the stop of its operation was observed. -/
  stopped : ∀ change ∈ world.history, ∀ operation : Operation, change.command = operation.start →
    ∃ row ∈ world.journal.outbox, row.command = operation.stop ∧ row.phase = .observed ∧
      ∃ outcome, row.outcome = some outcome ∧ outcome.status = .stopped

/-- The outbox holds the commands of a run, and at most a stop after a fault. -/
theorem Refines.adopts (refines : Refines policy journal adopted) (fits : journal.Fits) :
    ∃ rest, Adopts policy journal.outbox adopted rest ∧ rest.length ≤ 1 ∧
      ∀ command ∈ rest, ∃ relay handler, command.requestId = .faultStop relay handler := by
  rcases refines with clean | stopped
  · exact ⟨[], clean.adopts, Nat.zero_le 1, by rintro _ ⟨⟩⟩
  · obtain ⟨row, member, ⟨relay, handler, named⟩, _, adopts⟩ := stopped.fault
    refine ⟨[row.command], adopts, le_rfl, fun command own => ⟨relay, handler, ?_⟩⟩
    rw [List.mem_singleton.mp own, ← (fits.rows row member).named, named]

/-- The start of an operation is in the outbox only after the outcome of its stop. -/
theorem Adopts.stopped {rest : List Command} {operation : Operation} (fits : journal.Fits)
    (adopts : Adopts policy journal.outbox adopted rest)
    (faults : ∀ command ∈ rest, ∃ relay handler, command.requestId = .faultStop relay handler)
    (given : operation.start ∈ journal.outbox.map Row.command) :
    ∃ row ∈ journal.outbox, row.command = operation.stop ∧ row.phase = .observed ∧
      ∃ outcome, row.outcome = some outcome ∧ outcome.status = .stopped := by
  rw [adopts.commands] at given
  rcases List.mem_append.mp given with given | own
  · obtain ⟨turn, member, asked⟩ := List.mem_filterMap.mp given
    obtain ⟨front, back, run⟩ := List.append_of_mem member
    obtain ⟨_, _, began, since, before, _, seen, later, stop, _⟩ := (run_lawful run).start operation asked
    obtain ⟨earlier, request, split, command, _⟩ := before.place
    have inside {taken : Turn} (former : taken ∈ front) : taken ∈ trace (renew policy) .initial adopted := by
      rw [run]
      exact List.mem_append_left _ former
    obtain ⟨outcome, heard, _, answered, _, status, _⟩ := stop.outcome
    obtain ⟨row, listed, found⟩ := adopts.heard seen (inside (split ▸ List.mem_append_right _
      (List.mem_cons_of_mem _ later))) outcome heard
    obtain ⟨phase, key⟩ := (fits.rows row listed).outcome outcome found
    have issued : operation.stop ∈ journal.outbox.map Row.command := by
      rw [adopts.commands]
      refine List.mem_append_left _ (List.mem_filterMap.mpr ⟨request, inside ?_, command⟩)
      rw [split]
      exact List.mem_append_right _ List.mem_cons_self
    obtain ⟨other, present, same⟩ := List.mem_map.mp issued
    have equal : row.requestId = other.requestId := by
      rw [← key, answered, (fits.rows other present).named, same]
      rfl
    obtain rfl := eq_of_key fits.unique listed present equal
    exact ⟨row, listed, same, phase, outcome, found, status⟩
  · obtain ⟨relay, handler, named⟩ := faults _ own
    cases named

theorem World.Sound.oneShot (sound : world.Sound approval policy) : world.OneShot approval := by
  have kept := sound.kept
  obtain ⟨rest, adopts, short, faults⟩ := sound.refines.adopts kept.fits
  refine ⟨kept.once, fun change member => ?_, kept.patched, ?_, fun change member operation started => ?_⟩
  · obtain ⟨row, listed, own, tried⟩ := kept.tried change member
    refine ⟨row, listed, own, tried, ?_⟩
    rcases (kept.fits.rows row listed).attempts with ⟨pending, _⟩ | ⟨_, once⟩
    · exact absurd pending tried
    · exact once
  · obtain ⟨operations, ordered, told⟩ := (run_held policy world.adopted).2.in_order
    exact ⟨operations, _, rest, ordered, adopts.commands, told, short, faults⟩
  · obtain ⟨row, listed, own, _⟩ := kept.tried change member
    exact adopts.stopped kept.fits faults (List.mem_map.mpr ⟨row, listed, own.trans started⟩)

/-- No process starts on a journal with a command whose outcome is unknown. -/
theorem step_held {event : Event} (absent : world.process = none) (pending : world.journal.isPending = true) :
    world.step approval policy provider event = world := by
  unfold World.step
  rw [absent]
  dsimp only
  split
  · exact if_pos pending
  · rfl

/-- Over any run of processes that may end at any point, with transactions that may be lost or reported
as lost: each command is asked of the relay at most once, after its row was marked; a patch keeps the
entry of YouTube; a start follows the observed stop of its operation; and once a process has left a
command without an outcome, nothing is asked any more. -/
theorem daily_dispatches_once (approval : Approval) (policy : RenewalPolicy) (provider : Providers)
    (events : List Event) :
    (World.run approval policy provider events).OneShot approval ∧
    ((World.run approval policy provider events).process = none →
      (World.run approval policy provider events).journal.isPending = true →
      ∀ more, World.run approval policy provider (events ++ more) = World.run approval policy provider events) := by
  refine ⟨(run_sound approval policy provider events).oneShot, fun absent pending more => ?_⟩
  induction more using List.reverseRecOn with
  | nil => rw [List.append_nil]
  | append_singleton more event ih =>
    have last : World.run approval policy provider (events ++ (more ++ [event])) =
        (World.run approval policy provider (events ++ more)).step approval policy provider event := by
      unfold World.run
      rw [← List.append_assoc, List.foldl_append, List.foldl_cons, List.foldl_nil]
    rw [last, ih, step_held absent pending]

end LiveStream.Twitch

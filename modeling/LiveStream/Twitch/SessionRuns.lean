import LiveStream.Support.Run
import LiveStream.Twitch.SessionSteps

/-! Runs of the renewal reducer: its commands come in pairs of one operation after the other, and
each of them, and each renewal, rests on what earlier ticks have seen. -/

namespace LiveStream.Twitch

open LiveStream.Support

/-- A tick of a run. -/
abbrev Turn := Taken RenewalState Tick Decision

def commands (log : List Turn) : List Command := log.filterMap fun turn => turn.output.command

/-- No command was given. -/
def Quiet (log : List Turn) : Prop := ∀ turn ∈ log, turn.output.command = none

/-- Both commands of an operation. -/
def Operation.commands (operation : Operation) : List Command := [operation.stop, operation.start]

/-- Operations of ever later broadcasts. -/
def Ordered (operations : List Operation) : Prop :=
  operations.Pairwise fun earlier later => earlier.session.startedAt < later.session.startedAt

/-- What the commands of a log are: those of whole operations, and then a part. -/
structure Told (log : List Turn) (operations : List Operation) (part : List Command) : Prop where
  commands : commands log = operations.flatMap Operation.commands ++ part
  ordered : Ordered operations

/-- The stop of an operation was the last command. -/
structure StopAsked (log : List Turn) (operation : Operation) (began : ℚ) (since : List Turn) : Prop where
  place : ∃ front turn, log = front ++ turn :: since ∧ turn.output.command = some operation.stop ∧
    turn.event.now.utc = began
  quiet : Quiet since

/-- The start of an operation was the last command, and its stop the one before. -/
structure StartAsked (policy : RenewalPolicy) (log : List Turn) (operation : Operation) (began requested : ℚ)
    (since : List Turn) : Prop where
  place : ∃ front turn, log = front ++ turn :: since ∧ turn.output.command = some operation.start ∧
    turn.event.now.utc = requested ∧ ∃ between, StopAsked front operation began between ∧
      ∃ seen ∈ between, StopSeen policy operation began seen.event
  quiet : Quiet since

/-- A renewal comes after all the operations before it. -/
def Later (operations : List Operation) (session : Session) : Prop :=
  ∀ operation ∈ operations, operation.session.startedAt < session.startedAt

/-- What a state that a run leads to says of its log. -/
inductive Held (policy : RenewalPolicy) (log : List Turn) (state : RenewalState) : Prop where
  | tracking (phase : state.phase = .tracking) (operations : List Operation) (told : Told log operations [])
      (later : ∀ operation ∈ operations, ∃ session, state.session = some session ∧
        operation.session.startedAt < session.startedAt)
  | waitStop (phase : state.phase = .waitStop) (operation : Operation) (began : ℚ)
      (renewing : Renewing state operation began) (operations : List Operation)
      (told : Told log operations [operation.stop]) (later : Later operations operation.session)
      (since : List Turn) (asked : StopAsked log operation began since)
  | waitOffline (phase : state.phase = .waitOffline) (operation : Operation) (began : ℚ)
      (renewing : Renewing state operation began) (operations : List Operation)
      (told : Told log operations [operation.stop]) (later : Later operations operation.session)
      (since : List Turn) (asked : StopAsked log operation began since) (seen : Turn) (member : seen ∈ since)
      (stopped : StopSeen policy operation began seen.event) (clock : state.stoppedClock = some seen.event.now)
  | waitStart (phase : state.phase = .waitStart) (operation : Operation) (began requested : ℚ)
      (renewing : Renewing state operation began) (instant : state.startRequestedAt = some requested)
      (operations : List Operation) (told : Told log operations operation.commands)
      (later : Later operations operation.session) (since : List Turn)
      (asked : StartAsked policy log operation began requested since)
  | verifying (phase : state.phase = .verifying) (operation : Operation) (began requested : ℚ)
      (renewing : Renewing state operation began) (instant : state.startRequestedAt = some requested)
      (operations : List Operation) (told : Told log operations operation.commands)
      (later : Later operations operation.session) (since : List Turn)
      (asked : StartAsked policy log operation began requested since) (seen : Turn) (member : seen ∈ since)
      (started : StartSeen policy operation requested seen.event)
  | ended (phase : state.phase = .cancelled ∨ state.phase = .unknown) (operations : List Operation)
      (told : commands log <+: operations.flatMap Operation.commands) (ordered : Ordered operations)

variable {policy : RenewalPolicy} {log since : List Turn} {state after : RenewalState} {turn : Turn}
  {operation : Operation} {operations : List Operation} {began requested : ℚ}

/-! ### Logs that grow -/

theorem commands_snoc : commands (log ++ [turn]) = commands log ++ turn.output.command.toList := by
  simp only [commands, List.filterMap_append, List.filterMap_cons, List.filterMap_nil]
  cases turn.output.command <;> rfl

theorem commands_quiet (quiet : turn.output.command = none) : commands (log ++ [turn]) = commands log := by
  rw [commands_snoc, quiet]
  exact List.append_nil _

theorem Quiet.snoc (quiet : Quiet log) (silent : turn.output.command = none) : Quiet (log ++ [turn]) := by
  intro other member
  rcases List.mem_append.mp member with former | new
  · exact quiet other former
  · rw [List.mem_singleton.mp new]
    exact silent

theorem Told.quiet {part : List Command} (told : Told log operations part) (silent : turn.output.command = none) :
    Told (log ++ [turn]) operations part :=
  ⟨(commands_quiet silent).trans told.commands, told.ordered⟩

theorem StopAsked.waits (asked : StopAsked log operation began since) (silent : turn.output.command = none) :
    StopAsked (log ++ [turn]) operation began (since ++ [turn]) := by
  obtain ⟨front, request, rfl, command, instant⟩ := asked.place
  exact ⟨⟨front, request, by simp, command, instant⟩, asked.quiet.snoc silent⟩

theorem StartAsked.waits (asked : StartAsked policy log operation began requested since)
    (silent : turn.output.command = none) :
    StartAsked policy (log ++ [turn]) operation began requested (since ++ [turn]) := by
  obtain ⟨front, request, rfl, command, instant, before⟩ := asked.place
  exact ⟨⟨front, request, by simp, command, instant, before⟩, asked.quiet.snoc silent⟩

theorem StopAsked.new (command : turn.output.command = some operation.stop)
    (instant : turn.event.now.utc = began) : StopAsked (log ++ [turn]) operation began [] :=
  ⟨⟨log, turn, rfl, command, instant⟩, by rintro _ ⟨⟩⟩

theorem Ordered.snoc (ordered : Ordered operations) (later : Later operations operation.session) :
    Ordered (operations ++ [operation]) := by
  refine List.pairwise_append.mpr ⟨ordered, List.pairwise_singleton _ _, ?_⟩
  rintro earlier member _ (_ | ⟨_, ⟨⟩⟩)
  exact later earlier member

/-- The commands so far are the first ones of operations in order. -/
theorem Held.in_order (held : Held policy log state) : ∃ operations, Ordered operations ∧
    commands log <+: operations.flatMap Operation.commands := by
  have part {operation : Operation} {operations : List Operation} {part : List Command}
      (told : Told log operations part) (later : Later operations operation.session) (rest : List Command)
      (whole : part ++ rest = operation.commands) : ∃ operations, Ordered operations ∧
        commands log <+: operations.flatMap Operation.commands := by
    refine ⟨operations ++ [operation], told.ordered.snoc later, rest, ?_⟩
    rw [told.commands, List.flatMap_append, List.flatMap_singleton, ← whole, List.append_assoc]
  cases held with
  | tracking phase operations told later =>
    refine ⟨operations, told.ordered, ?_⟩
    rw [told.commands, List.append_nil]
  | waitStop phase operation began renewing operations told later since asked =>
    exact part told later [operation.start] rfl
  | waitOffline phase operation began renewing operations told later since asked seen member stopped clock =>
    exact part told later [operation.start] rfl
  | waitStart phase operation began requested renewing instant operations told later since asked =>
    exact part told later [] rfl
  | verifying phase operation began requested renewing instant operations told later since asked =>
    exact part told later [] rfl
  | ended phase operations told ordered => exact ⟨operations, ordered, told⟩

/-- The state is in a renewal when its phase says so. -/
theorem Held.whole (held : Held policy log state) (live : state.phase.isRenewing = true) :
    ∃ operation began, Renewing state operation began := by
  cases held with
  | tracking phase => rw [phase] at live; cases live
  | waitStop phase operation began renewing => exact ⟨operation, began, renewing⟩
  | waitOffline phase operation began renewing => exact ⟨operation, began, renewing⟩
  | waitStart phase operation began requested renewing => exact ⟨operation, began, renewing⟩
  | verifying phase operation began requested renewing => exact ⟨operation, began, renewing⟩
  | ended phase =>
    rcases phase with phase | phase
    · rw [phase] at live; cases live
    · rw [phase] at live; cases live

/-! ### What a step keeps -/

/-- The fields that a renewal goes by. -/
structure Alike (state after : RenewalState) : Prop where
  phase : after.phase = state.phase
  session : after.session = state.session
  binding : after.binding = state.binding
  operation : after.operation = state.operation
  beganAt : after.beganAt = state.beganAt
  stoppedClock : after.stoppedClock = state.stoppedClock
  startRequestedAt : after.startRequestedAt = state.startRequestedAt

theorem Renewing.alike (renewing : Renewing state operation began) (binding : after.binding = state.binding)
    (session : after.session = state.session) (named : after.operation = state.operation)
    (instant : after.beganAt = state.beganAt) : Renewing after operation began :=
  ⟨binding.trans renewing.binding, session.trans renewing.session, named.trans renewing.operation,
    instant.trans renewing.began⟩

/-- A tick without a command leaves a run where it is. -/
theorem Held.waits (held : Held policy log state) (alike : Alike state after)
    (silent : turn.output.command = none) : Held policy (log ++ [turn]) after := by
  have renewing {operation : Operation} {began : ℚ} (former : Renewing state operation began) :
      Renewing after operation began :=
    former.alike alike.binding alike.session alike.operation alike.beganAt
  cases held with
  | tracking phase operations told later =>
    refine .tracking (alike.phase.trans phase) operations (told.quiet silent) fun operation member => ?_
    rw [alike.session]
    exact later operation member
  | waitStop phase operation began former operations told later since asked =>
    exact .waitStop (alike.phase.trans phase) operation began (renewing former) operations (told.quiet silent)
      later _ (asked.waits silent)
  | waitOffline phase operation began former operations told later since asked seen member stopped clock =>
    exact .waitOffline (alike.phase.trans phase) operation began (renewing former) operations
      (told.quiet silent) later _ (asked.waits silent) seen (List.mem_append_left _ member) stopped
      (alike.stoppedClock.trans clock)
  | waitStart phase operation began requested former instant operations told later since asked =>
    exact .waitStart (alike.phase.trans phase) operation began requested (renewing former)
      (alike.startRequestedAt.trans instant) operations (told.quiet silent) later _ (asked.waits silent)
  | verifying phase operation began requested former instant operations told later since asked seen member started =>
    exact .verifying (alike.phase.trans phase) operation began requested (renewing former)
      (alike.startRequestedAt.trans instant) operations (told.quiet silent) later _ (asked.waits silent) seen
      (List.mem_append_left _ member) started
  | ended phase operations told ordered =>
    refine .ended ?_ operations ?_ ordered
    · rw [alike.phase]
      exact phase
    · rw [commands_quiet silent]
      exact told

/-- What `Held` says in each phase of a renewal. -/
theorem Held.at_tracking (held : Held policy log state) (phase : state.phase = .tracking) :
    ∃ operations, Told log operations [] ∧ ∀ operation ∈ operations, ∃ session,
      state.session = some session ∧ operation.session.startedAt < session.startedAt := by
  cases held with
  | tracking _ operations told later => exact ⟨operations, told, later⟩
  | waitStop other => cases phase.symm.trans other
  | waitOffline other => cases phase.symm.trans other
  | waitStart other => cases phase.symm.trans other
  | verifying other => cases phase.symm.trans other
  | ended other => rcases other with other | other <;> cases phase.symm.trans other

theorem Held.at_waitStop (held : Held policy log state) (phase : state.phase = .waitStop)
    (renewing : Renewing state operation began) : ∃ operations since, Told log operations [operation.stop] ∧
      Later operations operation.session ∧ StopAsked log operation began since := by
  cases held with
  | tracking other => cases phase.symm.trans other
  | waitStop _ operation began former operations told later since asked =>
    obtain rfl := Option.some.inj (former.operation.symm.trans renewing.operation)
    obtain rfl := Option.some.inj (former.began.symm.trans renewing.began)
    exact ⟨operations, since, told, later, asked⟩
  | waitOffline other => cases phase.symm.trans other
  | waitStart other => cases phase.symm.trans other
  | verifying other => cases phase.symm.trans other
  | ended other => rcases other with other | other <;> cases phase.symm.trans other

theorem Held.at_waitOffline (held : Held policy log state) (phase : state.phase = .waitOffline)
    (renewing : Renewing state operation began) {stopped : Clock} (clock : state.stoppedClock = some stopped) :
    ∃ operations since, Told log operations [operation.stop] ∧ Later operations operation.session ∧
      StopAsked log operation began since ∧ ∃ seen ∈ since,
        StopSeen policy operation began seen.event ∧ seen.event.now = stopped := by
  cases held with
  | tracking other => cases phase.symm.trans other
  | waitStop other => cases phase.symm.trans other
  | waitOffline _ operation began former operations told later since asked seen member found instant =>
    obtain rfl := Option.some.inj (former.operation.symm.trans renewing.operation)
    obtain rfl := Option.some.inj (former.began.symm.trans renewing.began)
    obtain rfl := Option.some.inj (instant.symm.trans clock)
    exact ⟨operations, since, told, later, asked, seen, member, found, rfl⟩
  | waitStart other => cases phase.symm.trans other
  | verifying other => cases phase.symm.trans other
  | ended other => rcases other with other | other <;> cases phase.symm.trans other

theorem Held.at_waitStart (held : Held policy log state) (phase : state.phase = .waitStart)
    (renewing : Renewing state operation began) (instant : state.startRequestedAt = some requested) :
    ∃ operations since, Told log operations operation.commands ∧ Later operations operation.session ∧
      StartAsked policy log operation began requested since := by
  cases held with
  | tracking other => cases phase.symm.trans other
  | waitStop other => cases phase.symm.trans other
  | waitOffline other => cases phase.symm.trans other
  | waitStart _ operation began requested former same operations told later since asked =>
    obtain rfl := Option.some.inj (former.operation.symm.trans renewing.operation)
    obtain rfl := Option.some.inj (former.began.symm.trans renewing.began)
    obtain rfl := Option.some.inj (same.symm.trans instant)
    exact ⟨operations, since, told, later, asked⟩
  | verifying other => cases phase.symm.trans other
  | ended other => rcases other with other | other <;> cases phase.symm.trans other

theorem Held.at_verifying (held : Held policy log state) (phase : state.phase = .verifying)
    (renewing : Renewing state operation began) (instant : state.startRequestedAt = some requested) :
    ∃ operations since, Told log operations operation.commands ∧ Later operations operation.session ∧
      StartAsked policy log operation began requested since ∧ ∃ seen ∈ since,
        StartSeen policy operation requested seen.event := by
  cases held with
  | tracking other => cases phase.symm.trans other
  | waitStop other => cases phase.symm.trans other
  | waitOffline other => cases phase.symm.trans other
  | waitStart other => cases phase.symm.trans other
  | verifying _ operation began requested former same operations told later since asked seen member started =>
    obtain rfl := Option.some.inj (former.operation.symm.trans renewing.operation)
    obtain rfl := Option.some.inj (former.began.symm.trans renewing.began)
    obtain rfl := Option.some.inj (same.symm.trans instant)
    exact ⟨operations, since, told, later, asked, seen, member, started⟩
  | ended other => rcases other with other | other <;> cases phase.symm.trans other

theorem sane_step {tick : Tick} {decision : Decision} (sane : Sane state)
    (steps : Steps policy state tick decision) : Sane decision.state := by
  cases steps with
  | stays => exact sane
  | goes => exact ⟨sane.session, sane.binding⟩
  | ends => exact ⟨sane.session, sane.binding⟩
  | tracks phase session goes =>
    refine ⟨fun other same => ?_, sane.binding⟩
    obtain rfl := Option.some.inj same
    exact goes.valid sane.session
  | requestsStop phase session goes authorized =>
    refine ⟨fun other same => ?_, fun other same => ?_⟩
    · obtain rfl := Option.some.inj same
      exact goes.valid sane.session
    · obtain rfl := Option.some.inj same
      exact authorized.target
  | seesStop => exact ⟨sane.session, sane.binding⟩
  | requestsStart => exact ⟨sane.session, sane.binding⟩
  | seesStart => exact ⟨sane.session, sane.binding⟩
  | renews phase operation began requested new renewing instant passed confirmed =>
    refine ⟨fun other same => ?_, fun _ => by rintro ⟨⟩⟩
    obtain rfl := Option.some.inj same
    exact confirmed.valid

theorem held_step {tick : Tick} (held : Held policy log state) (decision : Decision)
    (steps : Steps policy state tick decision) :
    Held policy (log ++ [⟨state, tick, decision, decision.state⟩]) decision.state := by
  cases steps with
  | stays status reason plain => exact held.waits ⟨rfl, rfl, rfl, rfl, rfl, rfl, rfl⟩ rfl
  | goes running status reason plain => exact held.waits ⟨rfl, rfl, rfl, rfl, rfl, rfl, rfl⟩ rfl
  | ends phase ended running status reason plain =>
    obtain ⟨operations, ordered, told⟩ := held.in_order
    refine .ended ended operations ?_ ordered
    rw [commands_quiet rfl]
    exact told
  | tracks phase session goes status reason plain =>
    obtain ⟨operations, told, later⟩ := held.at_tracking phase
    refine .tracking phase operations (told.quiet rfl) fun operation member => ?_
    obtain ⟨old, stored, earlier⟩ := later operation member
    exact ⟨session, rfl, earlier.trans_le (goes.later old stored)⟩
  | requestsStop phase session goes authorized progress due reason =>
    obtain ⟨operations, told, later⟩ := held.at_tracking phase
    refine .waitStop rfl ⟨tick.binding, session⟩ tick.now.utc ⟨rfl, rfl, rfl, rfl⟩ operations
      ⟨?_, told.ordered⟩ (fun operation member => ?_) [] (.new rfl rfl)
    · rw [commands_snoc, told.commands, List.append_nil]
      rfl
    · obtain ⟨old, stored, earlier⟩ := later operation member
      exact earlier.trans_le (goes.later old stored)
  | seesStop phase operation began renewing seen reason =>
    obtain ⟨operations, since, told, later, asked⟩ := held.at_waitStop phase renewing
    exact .waitOffline rfl operation began (renewing.alike rfl rfl rfl rfl) operations (told.quiet rfl) later _
      (asked.waits rfl) _ (List.mem_append_right _ (List.mem_singleton_self _)) seen rfl
  | requestsStart phase operation began stopped renewing clock passed seen reason =>
    obtain ⟨operations, since, told, later, asked, former, member, found, _⟩ :=
      held.at_waitOffline phase renewing clock
    refine .waitStart rfl operation began tick.now.utc (renewing.alike rfl rfl rfl rfl) rfl operations
      ⟨?_, told.ordered⟩ later [] ⟨⟨log, _, rfl, rfl, rfl, since, asked, former, member, found⟩, by rintro _ ⟨⟩⟩
    rw [commands_snoc, told.commands, List.append_assoc]
    rfl
  | seesStart phase operation began requested renewing instant seen reason =>
    obtain ⟨operations, since, told, later, asked⟩ := held.at_waitStart phase renewing instant
    exact .verifying rfl operation began requested (renewing.alike rfl rfl rfl rfl) instant operations
      (told.quiet rfl) later _ (asked.waits rfl) _ (List.mem_append_right _ (List.mem_singleton_self _)) seen
  | renews phase operation began requested new renewing instant passed confirmed reason =>
    obtain ⟨operations, since, told, later, _⟩ := held.at_verifying phase renewing instant
    refine .tracking rfl (operations ++ [operation]) ⟨?_, told.ordered.snoc later⟩ fun other member => ?_
    · rw [commands_quiet rfl, told.commands, List.append_nil, List.flatMap_append, List.flatMap_singleton]
    · refine ⟨new, rfl, ?_⟩
      rcases List.mem_append.mp member with former | own
      · exact (later other former).trans confirmed.later
      · rw [List.mem_singleton.mp own]
        exact confirmed.later

/-! ### What a tick rests on -/

/-- What is true of a tick that comes after a log. -/
structure Lawful (policy : RenewalPolicy) (log : List Turn) (turn : Turn) : Prop where
  /-- A command is the stop or the start of an operation. -/
  command : ∀ command, turn.output.command = some command →
    ∃ operation : Operation, command = operation.stop ∨ command = operation.start
  stop : ∀ operation : Operation, turn.output.command = some operation.stop →
    Authorized policy turn.event ∧ operation.binding = turn.event.binding ∧
      writerProgress policy turn.event.writer = true ∧ turn.after.session = some operation.session ∧
      (dueAt policy operation.session ≤ turn.event.now.utc ∨ turn.event.validationAuthorized = true)
  start : ∀ operation : Operation, turn.output.command = some operation.start →
    Authorized policy turn.event ∧ operation.binding.current turn.event = true ∧
      ∃ began since, StopAsked log operation began since ∧
        turn.event.now.utc - began < policy.renewalTimeoutSeconds ∧
        ∃ seen ∈ since, StopSeen policy operation began seen.event ∧
          OfflineSeen policy operation seen.event.now turn.event
  renewed : turn.output.status = .renewed → ∃ operation began requested since new,
    Authorized policy turn.event ∧ operation.binding.current turn.event = true ∧
      StartAsked policy log operation began requested since ∧
      turn.event.now.utc - began < policy.renewalTimeoutSeconds ∧
      (∃ seen ∈ since, StartSeen policy operation requested seen.event) ∧
      turn.before.session = some operation.session ∧ turn.after.session = some new ∧
      Confirmed policy operation requested turn.event new
  /-- What has ended stays as it is. -/
  final : turn.before.phase = .cancelled ∨ turn.before.phase = .unknown →
    turn.after = turn.before ∧ turn.output.command = none

theorem stop_ne_start (first second : Operation) : first.stop ≠ second.start := by
  intro same
  cases congrArg Command.action same

theorem stop_inj {first second : Operation} (same : first.stop = second.stop) : first = second := by
  cases congrArg Command.requestId same
  rfl

theorem start_inj {first second : Operation} (same : first.start = second.start) : first = second := by
  cases congrArg Command.requestId same
  rfl

theorem lawful_quiet (silent : turn.output.command = none) (plain : turn.output.status ≠ .renewed)
    (final : turn.before.phase = .cancelled ∨ turn.before.phase = .unknown → turn.after = turn.before) :
    Lawful policy log turn where
  command := fun command given => by cases silent.symm.trans given
  stop := fun operation given => by cases silent.symm.trans given
  start := fun operation given => by cases silent.symm.trans given
  renewed := fun renewed => absurd renewed plain
  final := fun ended => ⟨final ended, silent⟩

/-- A phase that has not ended. -/
theorem not_ended {phase : Phase} (here : state.phase = phase) (running : phase ≠ .cancelled ∧ phase ≠ .unknown) :
    ¬ (state.phase = .cancelled ∨ state.phase = .unknown) := by
  rw [here]
  exact not_or.mpr running

theorem lawful_step {tick : Tick} (sane : Sane state) (held : Held policy log state) (decision : Decision)
    (steps : Steps policy state tick decision) : Lawful policy log ⟨state, tick, decision, decision.state⟩ := by
  cases steps with
  | stays status reason plain => exact lawful_quiet rfl plain fun _ => rfl
  | goes running status reason plain =>
    exact lawful_quiet rfl plain fun ended => absurd ended (not_or.mpr running.symm)
  | ends phase ended running status reason plain =>
    refine lawful_quiet rfl plain fun ended => ?_
    rcases running with running | insane
    · exact absurd ended (not_or.mpr running.symm)
    · exact absurd sane insane
  | tracks phase session goes status reason plain =>
    exact lawful_quiet rfl plain fun ended => absurd ended (not_ended phase (by decide))
  | requestsStop phase session goes authorized progress due reason =>
    exact
      { command := fun command given => ⟨_, Or.inl (Option.some.inj given).symm⟩
        stop := fun operation given => by
          obtain rfl := stop_inj (Option.some.inj given)
          exact ⟨authorized, rfl, progress, rfl, due⟩
        start := fun operation given => absurd (Option.some.inj given) (stop_ne_start _ _)
        renewed := by rintro ⟨⟩
        final := fun ended => absurd ended (not_ended phase (by decide)) }
  | seesStop phase operation began renewing seen reason =>
    exact lawful_quiet rfl (by rintro ⟨⟩) fun ended => absurd ended (not_ended phase (by decide))
  | requestsStart phase operation began stopped renewing clock passed seen reason =>
    obtain ⟨operations, since, told, later, asked, former, member, found, rfl⟩ :=
      held.at_waitOffline phase renewing clock
    exact
      { command := fun command given => ⟨_, Or.inr (Option.some.inj given).symm⟩
        stop := fun operation given => absurd (Option.some.inj given).symm (stop_ne_start _ _)
        start := fun operation given => by
          obtain rfl := start_inj (Option.some.inj given)
          exact ⟨passed.authorized, passed.binding _ renewing.binding, began, since, asked,
            passed.deadline began renewing.began, former, member, found, seen⟩
        renewed := by rintro ⟨⟩
        final := fun ended => absurd ended (not_ended phase (by decide)) }
  | seesStart phase operation began requested renewing instant seen reason =>
    exact lawful_quiet rfl (by rintro ⟨⟩) fun ended => absurd ended (not_ended phase (by decide))
  | renews phase operation began requested new renewing instant passed confirmed reason =>
    obtain ⟨operations, since, told, later, asked, seen⟩ := held.at_verifying phase renewing instant
    exact
      { command := fun _ => by rintro ⟨⟩
        stop := fun _ => by rintro ⟨⟩
        start := fun _ => by rintro ⟨⟩
        renewed := fun _ => ⟨operation, began, requested, since, new, passed.authorized,
          passed.binding _ renewing.binding, asked, passed.deadline began renewing.began, seen,
          renewing.session, rfl, confirmed⟩
        final := fun ended => absurd ended (not_ended phase (by decide)) }

/-! ### Runs -/

theorem run_held (policy : RenewalPolicy) (ticks : List Tick) :
    Sane (final (renew policy) .initial ticks) ∧
      Held policy (trace (renew policy) .initial ticks) (final (renew policy) .initial ticks) := by
  induction ticks using List.reverseRecOn with
  | nil =>
    refine ⟨⟨fun _ => by rintro ⟨⟩, fun _ => by rintro ⟨⟩⟩, ?_⟩
    exact .tracking rfl [] ⟨rfl, List.Pairwise.nil⟩ (by rintro _ ⟨⟩)
  | append_singleton ticks tick ih =>
    obtain ⟨sane, held⟩ := ih
    rw [trace_append, final_append]
    have steps : Steps policy _ tick (advance policy _ tick) := advance_steps held.whole
    exact ⟨sane_step sane steps, held_step held _ steps⟩

/-- Every tick of a run rests on what the ticks before it saw. -/
theorem run_lawful {ticks : List Tick} {front back : List Turn}
    (run : trace (renew policy) .initial ticks = front ++ turn :: back) : Lawful policy front turn := by
  obtain ⟨first, tick, later, _, rfl, rfl⟩ := trace_split run
  obtain ⟨sane, held⟩ := run_held policy first
  exact lawful_step sane held _ (advance_steps held.whole)

/-- Over any run of the reducer: the commands are those of operations on ever later broadcasts, the stop
and then the start of each, cut off at some point; and every tick rests on what the ticks before it saw. -/
theorem renewal_ordered (policy : RenewalPolicy) (ticks : List Tick) :
    (∃ operations, Ordered operations ∧
      commands (trace (renew policy) .initial ticks) <+: operations.flatMap Operation.commands) ∧
    ∀ front turn back, trace (renew policy) .initial ticks = front ++ turn :: back →
      Lawful policy front turn := by
  exact ⟨(run_held policy ticks).2.in_order, fun front turn back run => run_lawful run⟩

end LiveStream.Twitch

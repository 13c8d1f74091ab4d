import LiveStream.Twitch.Session

/-! What a call of `advance` can do: it goes on, ends the renewal, or makes one of the moves of a
renewal, each with what it has seen. -/

namespace LiveStream.Twitch

/-! ### Times of day -/

/-- The daily renewal comes strictly after the start and within a day, at the time of the policy. -/
theorem nextDailyRenewalAt_spec (startedAt : ℚ) (policy : RenewalPolicy) :
    startedAt < nextDailyRenewalAt startedAt policy ∧
      nextDailyRenewalAt startedAt policy ≤ startedAt + 86400 ∧
      ∃ day : Int, nextDailyRenewalAt startedAt policy + 32400 =
        86400 * day + (3600 * policy.hour.val + 60 * policy.minute.val) := by
  have below := Int.floor_le ((startedAt + 32400) / 86400)
  have above := Int.lt_floor_add_one ((startedAt + 32400) / 86400)
  rw [le_div_iff₀ (by norm_num)] at below
  rw [div_lt_iff₀ (by norm_num)] at above
  have hour : (policy.hour.val : ℚ) ≤ 23 := by exact_mod_cast Nat.lt_succ_iff.mp policy.hour.isLt
  have minute : (policy.minute.val : ℚ) ≤ 59 := by exact_mod_cast Nat.lt_succ_iff.mp policy.minute.isLt
  have hour' : (0 : ℚ) ≤ policy.hour.val := Nat.cast_nonneg _
  have minute' : (0 : ℚ) ≤ policy.minute.val := Nat.cast_nonneg _
  unfold nextDailyRenewalAt
  dsimp only
  split
  · rename_i passed
    refine ⟨by linarith, by linarith, ⌊(startedAt + 32400) / 86400⌋ + 1, ?_⟩
    push_cast
    ring
  · rename_i ahead
    refine ⟨by linarith [not_le.mp ahead], by linarith, ⌊(startedAt + 32400) / 86400⌋, by ring⟩

variable {policy : RenewalPolicy} {state : RenewalState} {tick : Tick} {decision : Decision}

theorem dueAt_le (session : Session) : dueAt policy session ≤ session.startedAt + 86400 :=
  (min_le_left _ _).trans (nextDailyRenewalAt_spec session.startedAt policy).2.1

/-! ### What a tick has seen -/

/-- A tick past the exits that all phases share. -/
structure Authorized (policy : RenewalPolicy) (tick : Tick) : Prop where
  route : tick.context.routeState ∈ ["PRIMARY", "PRIMARY_DEGRADED"] ∧ tick.context.routeChangePending = false
  granted : tick.context.effectsEnabled = true ∧ tick.context.maintenanceAuthorized = true
  lease : tick.context.leaseBootId = tick.now.bootId ∧
    ∃ expires, tick.context.leaseExpiresElapsed = some expires ∧ tick.now.elapsedSeconds < expires
  input : tick.context.inputFresh = true
  target : tick.binding.wellFormed = true
  writer : fresh policy tick.writer.observedAt tick.now = true ∧
    tick.writer.relayInstanceId = tick.context.relayInstanceId

/-- What the state and a tick have in common past the shared exits. -/
structure Passed (policy : RenewalPolicy) (state : RenewalState) (tick : Tick) : Prop where
  running : state.phase ≠ .unknown ∧ state.phase ≠ .cancelled
  authorized : Authorized policy tick
  binding : ∀ binding, state.binding = some binding → binding.current tick = true
  deadline : ∀ began, state.beganAt = some began → tick.now.utc - began < policy.renewalTimeoutSeconds

/-- The outcome of the stop of an operation, with the writer it left. -/
structure StopSeen (policy : RenewalPolicy) (operation : Operation) (began : ℚ) (tick : Tick) : Prop where
  authorized : Authorized policy tick
  current : operation.binding.current tick = true
  outcome : ∃ outcome, tick.outcome = some outcome ∧ outcome.action = .stopTwitch ∧
    outcome.requestId = .renewal operation .stopTwitch ∧ outcome.binding = operation.binding ∧
    outcome.status = .stopped ∧ began ≤ outcome.observedAt ∧ outcome.observedAt ≤ tick.writer.observedAt
  writer : tick.writer.status = .stopped ∧ tick.writer.generation = operation.binding.writerGeneration

/-- The provider is offline, long enough after the stop was seen. -/
structure OfflineSeen (policy : RenewalPolicy) (operation : Operation) (stopped : Clock) (tick : Tick) : Prop where
  writer : tick.writer.status = .stopped ∧ tick.writer.generation = operation.binding.writerGeneration
  wait : stopped.elapsedSeconds + policy.offlineWaitSeconds ≤ tick.now.elapsedSeconds
  provider : tick.providerFresh policy = true ∧ tick.broadcast.status = .offline ∧
    stopped.utc ≤ tick.broadcast.observedAt

/-- The outcome of the start of an operation, with the new writer. -/
structure StartSeen (policy : RenewalPolicy) (operation : Operation) (requested : ℚ) (tick : Tick) : Prop where
  authorized : Authorized policy tick
  current : operation.binding.current tick = true
  outcome : ∃ outcome, tick.outcome = some outcome ∧ outcome.action = .startTwitch ∧
    outcome.requestId = .renewal operation .startTwitch ∧ outcome.binding = operation.binding ∧
    outcome.status = .started ∧ requested ≤ outcome.observedAt ∧ outcome.observedAt ≤ tick.writer.observedAt
  writer : tick.writer.generation = operation.binding.writerGeneration + 1 ∧
    writerProgress policy tick.writer = true

/-- A broadcast that is another one than before, and began after the start was requested. -/
structure Confirmed (policy : RenewalPolicy) (operation : Operation) (requested : ℚ) (tick : Tick)
    (new : Session) : Prop where
  writer : tick.writer.generation = operation.binding.writerGeneration + 1 ∧
    writerProgress policy tick.writer = true
  provider : tick.providerFresh policy = true ∧ tick.broadcast.status = .live ∧
    tick.broadcast.session = some new
  valid : isId new.streamId = true
  other : new.streamId ≠ operation.session.streamId
  later : operation.session.startedAt < new.startedAt
  since : requested - policy.clockSkewSeconds ≤ new.startedAt
  past : new.startedAt ≤ tick.now.utc

/-! ### Commands -/

def Operation.stop (operation : Operation) : Command :=
  ⟨.stopTwitch, .renewal operation .stopTwitch, operation.binding⟩

def Operation.start (operation : Operation) : Command :=
  ⟨.startTwitch, .renewal operation .startTwitch, operation.binding⟩

/-- What `advance` checks of a state that was stored. -/
structure Sane (state : RenewalState) : Prop where
  session : ∀ session, state.session = some session → isId session.streamId = true
  binding : ∀ binding, state.binding = some binding → binding.wellFormed = true

/-- The state is in a renewal. -/
structure Renewing (state : RenewalState) (operation : Operation) (began : ℚ) : Prop where
  binding : state.binding = some operation.binding
  session : state.session = some operation.session
  operation : state.operation = some operation
  began : state.beganAt = some began

/-- A session may be tracked after the one before. -/
structure Goes (state : RenewalState) (session : Session) : Prop where
  valid : (∀ old, state.session = some old → isId old.streamId = true) → isId session.streamId = true
  later : ∀ old, state.session = some old → old.startedAt ≤ session.startedAt

/-- A phase in which no renewal has ended. -/
def Phase.isRenewing : Phase → Bool
  | .waitStop | .waitOffline | .waitStart | .verifying => true
  | .tracking | .cancelled | .unknown => false

inductive Steps (policy : RenewalPolicy) (state : RenewalState) (tick : Tick) : Decision → Prop where
  | stays (status : Status) (reason : String) (plain : status ≠ .renewed) :
      Steps policy state tick ⟨state, status, reason, none⟩
  | goes (running : state.phase ≠ .unknown ∧ state.phase ≠ .cancelled) (status : Status) (reason : String)
      (plain : status ≠ .renewed) : Steps policy state tick (settle state tick status reason)
  | ends (phase : Phase) (ended : phase = .cancelled ∨ phase = .unknown)
      (running : state.phase ≠ .unknown ∧ state.phase ≠ .cancelled ∨ ¬ Sane state) (status : Status)
      (reason : String) (plain : status ≠ .renewed) :
      Steps policy state tick (conclude state tick phase status reason)
  | tracks (phase : state.phase = .tracking) (session : Session) (goes : Goes state session) (status : Status)
      (reason : String) (plain : status ≠ .renewed) :
      Steps policy state tick ⟨{ state.ticked tick.now with session := some session }, status, reason, none⟩
  | requestsStop (phase : state.phase = .tracking) (session : Session) (goes : Goes state session)
      (authorized : Authorized policy tick) (progress : writerProgress policy tick.writer = true)
      (due : dueAt policy session ≤ tick.now.utc ∨ tick.validationAuthorized = true) (reason : String) :
      Steps policy state tick ⟨{ state.ticked tick.now with
          phase := .waitStop
          session := some session
          binding := some tick.binding
          operation := some ⟨tick.binding, session⟩
          beganAt := some tick.now.utc },
        .stopRequested, reason, some (Operation.stop ⟨tick.binding, session⟩)⟩
  | seesStop (phase : state.phase = .waitStop) (operation : Operation) (began : ℚ)
      (renewing : Renewing state operation began) (seen : StopSeen policy operation began tick)
      (reason : String) :
      Steps policy state tick
        ⟨{ state.ticked tick.now with phase := .waitOffline, stoppedClock := some tick.now },
          .waiting, reason, none⟩
  | requestsStart (phase : state.phase = .waitOffline) (operation : Operation) (began : ℚ) (stopped : Clock)
      (renewing : Renewing state operation began) (clock : state.stoppedClock = some stopped)
      (passed : Passed policy state tick) (seen : OfflineSeen policy operation stopped tick) (reason : String) :
      Steps policy state tick
        ⟨{ state.ticked tick.now with phase := .waitStart, startRequestedAt := some tick.now.utc },
          .startRequested, reason, some operation.start⟩
  | seesStart (phase : state.phase = .waitStart) (operation : Operation) (began requested : ℚ)
      (renewing : Renewing state operation began) (instant : state.startRequestedAt = some requested)
      (seen : StartSeen policy operation requested tick) (reason : String) :
      Steps policy state tick ⟨{ state.ticked tick.now with phase := .verifying }, .waiting, reason, none⟩
  | renews (phase : state.phase = .verifying) (operation : Operation) (began requested : ℚ) (new : Session)
      (renewing : Renewing state operation began) (instant : state.startRequestedAt = some requested)
      (passed : Passed policy state tick) (confirmed : Confirmed policy operation requested tick new)
      (reason : String) :
      Steps policy state tick ⟨{ state.ticked tick.now with
          phase := .tracking
          session := some new
          binding := none
          lastCompletedOperation := some operation
          operation := none
          beganAt := none
          stoppedClock := none
          startRequestedAt := none }, .renewed, reason, none⟩

/-! ### The parts of `advance` -/

theorem storedGate_cases (found : storedGate policy state tick = some decision) :
    Steps policy state tick decision := by
  unfold storedGate at found
  split at found
  · rename_i corrupt
    obtain rfl := Option.some.inj found
    obtain ⟨session, stored, bad⟩ := (Option.any_eq_true _ _).mp corrupt
    refine .ends .unknown (Or.inr rfl) (Or.inr fun sane => ?_) _ _ (by rintro ⟨⟩)
    exact of_decide_eq_true bad (sane.session session stored)
  · split at found
    · rename_i corrupt
      obtain rfl := Option.some.inj found
      obtain ⟨binding, stored, bad⟩ := (Option.any_eq_true _ _).mp corrupt
      refine .ends .unknown (Or.inr rfl) (Or.inr fun sane => ?_) _ _ (by rintro ⟨⟩)
      exact of_decide_eq_true bad (sane.binding binding stored)
    · split at found
      · obtain rfl := Option.some.inj found
        exact .stays _ _ (by rintro ⟨⟩)
      · split at found
        · obtain rfl := Option.some.inj found
          exact .stays _ _ (by rintro ⟨⟩)
        · obtain ⟨reason, _, rfl⟩ := Option.map_eq_some_iff.mp found
          exact .stays _ _ (by rintro ⟨⟩)

/-- Past the first exits a state has not ended. -/
theorem storedGate_none (passed : storedGate policy state tick = none) :
    state.phase ≠ .unknown ∧ state.phase ≠ .cancelled := by
  unfold storedGate at passed
  split at passed
  · cases passed
  · split at passed
    · cases passed
    · split at passed
      · cases passed
      · rename_i unknown
        split at passed
        · cases passed
        · rename_i cancelled
          exact ⟨unknown, cancelled⟩

theorem routeGate_cases (running : state.phase ≠ .unknown ∧ state.phase ≠ .cancelled)
    (found : routeGate state tick = some decision) : Steps policy state tick decision := by
  unfold routeGate at found
  dsimp only at found
  split at found
  · split at found
    · obtain rfl := Option.some.inj found
      exact .ends .cancelled (Or.inl rfl) (Or.inl running) _ _ (by rintro ⟨⟩)
    · obtain rfl := Option.some.inj found
      exact .goes running _ _ (by rintro ⟨⟩)
  · split at found
    · obtain rfl := Option.some.inj found
      exact .ends .cancelled (Or.inl rfl) (Or.inl running) _ _ (by rintro ⟨⟩)
    · split at found
      · obtain rfl := Option.some.inj found
        exact .goes running _ _ (by rintro ⟨⟩)
      · split at found
        · obtain rfl := Option.some.inj found
          exact .goes running _ _ (by rintro ⟨⟩)
        · cases found

theorem factsGate_cases (running : state.phase ≠ .unknown ∧ state.phase ≠ .cancelled)
    (found : factsGate policy state tick = some decision) : Steps policy state tick decision := by
  unfold factsGate at found
  dsimp only at found
  split at found
  · obtain rfl := Option.some.inj found
    exact .goes running _ _ (by rintro ⟨⟩)
  · split at found
    · obtain rfl := Option.some.inj found
      exact .goes running _ _ (by rintro ⟨⟩)
    · split at found
      · obtain rfl := Option.some.inj found
        exact .ends .unknown (Or.inr rfl) (Or.inl running) _ _ (by rintro ⟨⟩)
      · cases found

theorem gate_cases (found : gate policy state tick = some decision) : Steps policy state tick decision := by
  rcases Option.or_eq_some_iff.mp found with stored | ⟨passed, found⟩
  · exact storedGate_cases stored
  · have running := storedGate_none passed
    rcases Option.or_eq_some_iff.mp found with route | ⟨_, facts⟩
    · exact routeGate_cases running route
    · exact factsGate_cases running facts

/-- What the route and the permissions are past the second exits. -/
theorem routeGate_none (passed : routeGate state tick = none) :
    (tick.context.routeState ∈ ["PRIMARY", "PRIMARY_DEGRADED"] ∧ tick.context.routeChangePending = false) ∧
    (∀ binding, state.binding = some binding → binding.current tick = true) ∧
    (tick.context.effectsEnabled = true ∧ tick.context.maintenanceAuthorized = true) ∧
    (tick.context.leaseBootId = tick.now.bootId ∧ ∃ expires,
      tick.context.leaseExpiresElapsed = some expires ∧ tick.now.elapsedSeconds < expires) ∧
    tick.context.inputFresh = true := by
  unfold routeGate at passed
  dsimp only at passed
  split at passed
  · split at passed <;> cases passed
  · rename_i route
    obtain ⟨known, steady⟩ := not_or.mp route
    split at passed
    · cases passed
    · rename_i current
      split at passed
      · cases passed
      · rename_i granted
        split at passed
        · cases passed
        · rename_i lease
          obtain ⟨boot, rest⟩ := not_or.mp lease
          obtain ⟨expires, input⟩ := not_or.mp rest
          obtain ⟨expiry, stored, later⟩ := (Option.any_eq_true _ _).mp (not_not.mp expires)
          refine ⟨⟨not_not.mp known, Bool.eq_false_iff.mpr steady⟩, fun binding stored => ?_,
            not_not.mp granted, ⟨not_not.mp boot, expiry, stored, of_decide_eq_true later⟩, ?_⟩
          · rw [stored, Option.any_some, decide_eq_true_eq, not_not] at current
            exact current
          · exact Bool.not_eq_false _ ▸ input

/-- What the facts are past the last exits. -/
theorem factsGate_none (passed : factsGate policy state tick = none) :
    tick.binding.wellFormed = true ∧ (fresh policy tick.writer.observedAt tick.now = true ∧
      tick.writer.relayInstanceId = tick.context.relayInstanceId) ∧
    ∀ began, state.beganAt = some began → tick.now.utc - began < policy.renewalTimeoutSeconds := by
  unfold factsGate at passed
  dsimp only at passed
  split at passed
  · cases passed
  · rename_i facts
    simp only [not_or, not_not, not_le] at facts
    obtain ⟨target, generation, epoch, _, recent, relay, writer⟩ := facts
    split at passed
    · cases passed
    · split at passed
      · cases passed
      · rename_i deadline
        refine ⟨decide_eq_true ⟨target, writer, generation, epoch⟩, ⟨recent, relay⟩, fun began stored => ?_⟩
        rw [stored, Option.any_some, decide_eq_true_eq, not_le] at deadline
        exact deadline

theorem gate_none (passed : gate policy state tick = none) : Passed policy state tick := by
  obtain ⟨stored, rest⟩ := Option.or_eq_none_iff.mp passed
  obtain ⟨route, facts⟩ := Option.or_eq_none_iff.mp rest
  obtain ⟨known, current, granted, lease, input⟩ := routeGate_none route
  obtain ⟨target, writer, deadline⟩ := factsGate_none facts
  exact
    { running := storedGate_none stored
      authorized := ⟨known, granted, lease, input, target, writer⟩
      binding := current
      deadline := deadline }

/-- A tracked session is the stored one, or a later one. -/
theorem trackedSession_goes {session : Session} (tracked : trackedSession policy state tick = .ok (some session)) :
    Goes state session := by
  unfold trackedSession at tracked
  split at tracked
  · split at tracked
    · cases tracked
    · rename_i candidate _
      split at tracked
      · cases tracked
      · rename_i valid
        split at tracked
        · cases tracked
        · rename_i consistent
          obtain rfl := Option.some.inj (Except.ok.inj tracked)
          refine ⟨fun _ => not_not.mp valid, fun old stored => ?_⟩
          rw [stored, Option.any_some, decide_eq_true_eq] at consistent
          by_cases same : candidate = old
          · rw [same]
          · exact (not_le.mp fun early => consistent ⟨same, Or.inr early⟩).le
  · have stored := Except.ok.inj tracked
    refine ⟨fun valid => valid session stored, fun old other => ?_⟩
    obtain rfl := Option.some.inj (other.symm.trans stored)
    exact le_refl _

theorem track_steps (passed : Passed policy state tick) (phase : state.phase = .tracking) :
    Steps policy state tick (track policy state tick) := by
  unfold track
  split
  · exact .goes passed.running _ _ (by rintro ⟨⟩)
  · exact .goes passed.running _ _ (by rintro ⟨⟩)
  · rename_i session tracked
    have goes := trackedSession_goes tracked
    split
    · exact .goes passed.running _ _ (by rintro ⟨⟩)
    · dsimp only
      split
      · exact .tracks phase session goes _ _ (by rintro ⟨⟩)
      · rename_i progress
        split
        · exact .tracks phase session goes _ _ (by rintro ⟨⟩)
        · rename_i due
          refine .requestsStop phase session goes passed.authorized (not_not.mp progress) ?_ _
          rw [not_and_or, not_lt] at due
          exact due.imp_right (Bool.not_eq_false _ ▸ ·)

/-- What an outcome that is waited for says. -/
theorem answered_some {binding : Binding} {operation : Operation} {action : Action} {issuedAt : Option ℚ}
    {outcome : Outcome} (found : answered policy tick binding operation action issuedAt = some outcome) :
    tick.outcome = some outcome ∧ outcome.action = action ∧
      outcome.requestId = .renewal operation action ∧ outcome.binding = binding ∧
      ∃ issued, issuedAt = some issued ∧ issued ≤ outcome.observedAt := by
  obtain ⟨given, holds⟩ := Option.filter_eq_some_iff.mp found
  obtain ⟨action, request, binding, _, issued⟩ := of_decide_eq_true holds
  obtain ⟨instant, stored, earlier⟩ := (Option.any_eq_true _ _).mp issued
  exact ⟨given, action, request, binding, instant, stored, of_decide_eq_true earlier⟩

section Renewing

variable {operation : Operation} {began : ℚ}

theorem waitStop_steps (passed : Passed policy state tick) (phase : state.phase = .waitStop)
    (renewing : Renewing state operation began) :
    Steps policy state tick (waitStop policy state tick operation.binding operation) := by
  unfold waitStop
  split
  · exact .goes passed.running _ _ (by rintro ⟨⟩)
  · rename_i outcome found
    obtain ⟨given, action, request, binding, issued, stored, since⟩ := answered_some found
    obtain rfl := Option.some.inj (renewing.began.symm.trans stored)
    split
    · exact .ends .unknown (Or.inr rfl) (Or.inl passed.running) _ _ (by rintro ⟨⟩)
    · split
      · exact .goes passed.running _ _ (by rintro ⟨⟩)
      · rename_i status
        split
        · exact .goes passed.running _ _ (by rintro ⟨⟩)
        · rename_i writer
          simp only [not_or, not_not, not_lt] at writer
          obtain ⟨stopped, generation, observed⟩ := writer
          refine .seesStop phase operation _ renewing
            ⟨passed.authorized, passed.binding _ renewing.binding, ?_, stopped, generation⟩ _
          exact ⟨outcome, given, action, request, binding, not_not.mp status, since, observed⟩

theorem waitOffline_steps (passed : Passed policy state tick) (phase : state.phase = .waitOffline)
    (renewing : Renewing state operation began) :
    Steps policy state tick (waitOffline policy state tick operation.binding operation) := by
  unfold waitOffline
  split
  · exact .ends .unknown (Or.inr rfl) (Or.inl passed.running) _ _ (by rintro ⟨⟩)
  · rename_i stopped clock
    split
    · exact .ends .unknown (Or.inr rfl) (Or.inl passed.running) _ _ (by rintro ⟨⟩)
    · rename_i writer
      split
      · exact .goes passed.running _ _ (by rintro ⟨⟩)
      · rename_i wait
        split
        · exact .goes passed.running _ _ (by rintro ⟨⟩)
        · rename_i provider
          simp only [not_or, not_not, not_lt] at writer wait provider
          refine .requestsStart phase operation began stopped renewing clock passed ⟨writer, ?_, provider⟩ _
          linarith

theorem waitStart_steps (passed : Passed policy state tick) (phase : state.phase = .waitStart)
    (renewing : Renewing state operation began) :
    Steps policy state tick (waitStart policy state tick operation.binding operation) := by
  unfold waitStart
  split
  · exact .goes passed.running _ _ (by rintro ⟨⟩)
  · rename_i outcome found
    obtain ⟨given, action, request, binding, issued, stored, since⟩ := answered_some found
    split
    · exact .ends .unknown (Or.inr rfl) (Or.inl passed.running) _ _ (by rintro ⟨⟩)
    · split
      · exact .goes passed.running _ _ (by rintro ⟨⟩)
      · rename_i status
        split
        · exact .goes passed.running _ _ (by rintro ⟨⟩)
        · rename_i writer
          simp only [not_or, not_not, not_lt] at writer
          obtain ⟨generation, progress, observed⟩ := writer
          refine .seesStart phase operation began issued renewing stored
            ⟨passed.authorized, passed.binding _ renewing.binding, ?_, generation, progress⟩ _
          exact ⟨outcome, given, action, request, binding, not_not.mp status, since, observed⟩

theorem confirmed_some {new : Session}
    (found : confirmed policy state tick operation.binding operation.session = some new) :
    ∃ requested, state.startRequestedAt = some requested ∧ Confirmed policy operation requested tick new := by
  unfold confirmed at found
  split at found
  · rename_i seen
    obtain ⟨generation, progress, recent, live⟩ := seen
    obtain ⟨given, holds⟩ := Option.filter_eq_some_iff.mp found
    obtain ⟨valid, other, later, requested, past⟩ := of_decide_eq_true holds
    obtain ⟨instant, stored, since⟩ := (Option.any_eq_true _ _).mp requested
    exact ⟨instant, stored, ⟨⟨generation, progress⟩, ⟨recent, live, given⟩, valid, other, later,
      of_decide_eq_true since, past⟩⟩
  · cases found

theorem verify_steps (passed : Passed policy state tick) (phase : state.phase = .verifying)
    (renewing : Renewing state operation began) :
    Steps policy state tick (verify policy state tick operation.binding operation.session operation) := by
  unfold verify
  split
  · exact .goes passed.running _ _ (by rintro ⟨⟩)
  · rename_i new found
    obtain ⟨requested, stored, confirmed⟩ := confirmed_some found
    exact .renews phase operation began requested new renewing stored passed confirmed _

end Renewing

/-- The cases of `advance`, from a state that is in a renewal when its phase says so. -/
theorem advance_steps (whole : state.phase.isRenewing = true → ∃ operation began, Renewing state operation began) :
    Steps policy state tick (advance policy state tick) := by
  unfold advance
  split
  · rename_i decision found
    exact gate_cases found
  · rename_i found
    have passed := gate_none found
    split
    · rename_i phase
      exact track_steps passed phase
    · rename_i busy
      split
      · rename_i binding session operation began bound tracked named instant
        have renewing : ∀ live : state.phase.isRenewing = true, ∃ began, Renewing state operation began ∧
            binding = operation.binding ∧ session = operation.session := by
          intro live
          obtain ⟨other, since, renewing⟩ := whole live
          obtain rfl := Option.some.inj (named.symm.trans renewing.operation)
          exact ⟨since, renewing, Option.some.inj (bound.symm.trans renewing.binding),
            Option.some.inj (tracked.symm.trans renewing.session)⟩
        split
        · rename_i phase
          obtain ⟨since, held, rfl, rfl⟩ := renewing (by rw [phase]; rfl)
          exact waitStop_steps passed phase held
        · rename_i phase
          obtain ⟨since, held, rfl, rfl⟩ := renewing (by rw [phase]; rfl)
          exact waitOffline_steps passed phase held
        · rename_i phase
          obtain ⟨since, held, rfl, rfl⟩ := renewing (by rw [phase]; rfl)
          exact waitStart_steps passed phase held
        · rename_i phase
          obtain ⟨since, held, rfl, rfl⟩ := renewing (by rw [phase]; rfl)
          exact verify_steps passed phase held
        · exact .ends .unknown (Or.inr rfl) (Or.inl passed.running) _ _ (by rintro ⟨⟩)
      · exact .ends .unknown (Or.inr rfl) (Or.inl passed.running) _ _ (by rintro ⟨⟩)

end LiveStream.Twitch

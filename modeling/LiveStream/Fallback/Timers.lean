import LiveStream.Fallback.Controller

/-! What the assessments can say, and that the timers of the loop are windows over
the history of its polls. -/

namespace LiveStream.Fallback

open LiveStream.Support

/-- An assessment of one of four kinds: nothing is known, a failure, confirmed
progress, or progress that resumed. -/
structure Assessment.Coherent (assessment : Assessment) : Prop where
  healthy : assessment.health = .healthy → assessment.routeProgress = true
  domain : assessment.domain = .healthy ↔ assessment.health = .healthy
  progress : assessment.routeProgress = true → assessment.domain ≠ .mediaFailure

theorem coherent_lost (reason : String) : (Assessment.lost reason).Coherent :=
  ⟨by simp [Assessment.lost], by simp [Assessment.lost], by simp [Assessment.lost]⟩

theorem coherent_failed (reason : String) : (Assessment.failed reason).Coherent :=
  ⟨by simp [Assessment.failed], by simp [Assessment.failed], by simp [Assessment.failed]⟩

theorem Sample.confirm_coherent (sample : Sample) (checks : List (Bool × String))
    (resumed : Bool) : (sample.confirm checks resumed).Coherent := by
  unfold Sample.confirm
  split
  · exact coherent_failed _
  · split_ifs
    · exact coherent_failed _
    · exact ⟨by simp, by simp, by simp⟩
    · exact ⟨by simp, by simp, by simp⟩

theorem Sample.compare_coherent (sample prev : Sample) (resumed : Bool) :
    (sample.compare prev resumed).Coherent := by
  unfold Sample.compare
  split
  · exact coherent_lost _
  · exact coherent_lost _
  · exact Sample.confirm_coherent ..

theorem Controller.assess_coherent (controller : Controller) (sample : Option Sample)
    (observationReason : String) : (controller.assess sample observationReason).Coherent := by
  unfold Controller.assess
  split
  · refine ⟨by simp, ?_, by simp⟩
    simp only [domainForMissing]
    split <;> simp
  · split
    · exact coherent_failed _
    · split
      · exact ⟨by simp, by simp, by simp⟩
      · exact Sample.compare_coherent ..

/-- `combine_transport` keeps what it does not overrule. -/
theorem Controller.combined_cases (controller : Controller) (witness : Witness) :
    (controller.routeProgress = false ∧ (controller.combined witness).health = .unhealthy ∧
        (controller.combined witness).domain = .mediaFailure ∧
        (controller.combined witness).routeProgress = false) ∨
      ((controller.combined witness).health = controller.health ∧
        (controller.combined witness).domain = controller.domain ∧
        (controller.combined witness).routeProgress = controller.routeProgress) := by
  unfold Controller.combined
  split
  · rename_i overruled
    exact .inl ⟨overruled.2, rfl, rfl, rfl⟩
  · exact .inr ⟨rfl, rfl, rfl⟩

theorem Controller.combined_kept (controller : Controller) (witness : Witness) :
    (controller.combined witness).healthySince = controller.healthySince ∧
      (controller.combined witness).unhealthySince = controller.unhealthySince ∧
      (controller.combined witness).last = controller.last ∧
      (controller.combined witness).observationGap = controller.observationGap := by
  unfold Controller.combined
  split <;> exact ⟨rfl, rfl, rfl, rfl⟩

section Round

variable (state : LoopState) (poll : Poll)

/-- The sample and the witness leave the timers alone. -/
theorem LoopState.observed_since :
    (state.observed poll).1.healthySince = state.controller.healthySince ∧
      (state.observed poll).1.unhealthySince = state.controller.unhealthySince := by
  have ⟨healthySince, unhealthySince, _⟩ := Controller.combined_kept
    (state.controller.healthy poll.sample poll.observationReason).1 poll.witness
  exact ⟨healthySince, unhealthySince⟩

theorem LoopState.observed_last :
    (state.observed poll).1.last = poll.sample.or state.controller.last ∧
      (state.observed poll).1.observationGap = poll.sample.isNone := by
  have ⟨_, _, last, gap⟩ := Controller.combined_kept
    (state.controller.healthy poll.sample poll.observationReason).1 poll.witness
  exact ⟨last, gap⟩

/-- Healthy is one domain and has progress, and progress excludes a failure, also
where a stopped witness overrules the assessment. -/
theorem LoopState.observed_assessment :
    ((state.observed poll).2 = true ↔ (state.observed poll).1.domain = .healthy) ∧
      ((state.observed poll).2 = true → (state.observed poll).1.routeProgress = true) ∧
      ((state.observed poll).1.routeProgress = true →
        (state.observed poll).1.domain ≠ .mediaFailure) := by
  have coherent := state.controller.assess_coherent poll.sample poll.observationReason
  unfold LoopState.observed Controller.combineTransport
  simp only [decide_eq_true_eq]
  rcases Controller.combined_cases
    (state.controller.healthy poll.sample poll.observationReason).1 poll.witness with
    ⟨_, health, domain, progress⟩ | ⟨health, domain, progress⟩
  · simp [health, domain, progress]
  · rw [health, domain, progress]
    exact ⟨coherent.domain.symm, coherent.healthy, coherent.progress⟩

/-- The witness makes nothing healthy. -/
theorem LoopState.assessed_of_healthy (healthy : (state.observed poll).2 = true) :
    (state.controller.assess poll.sample poll.observationReason).health = .healthy := by
  unfold LoopState.observed Controller.combineTransport at healthy
  rw [decide_eq_true_eq] at healthy
  rcases Controller.combined_cases
    (state.controller.healthy poll.sample poll.observationReason).1 poll.witness with
    ⟨_, health, _⟩ | ⟨health, _⟩
  · rw [health] at healthy
    cases healthy
  · exact health.symm.trans healthy

end Round

section Decision

variable (controller : Controller) (now : ℚ) (healthy : Bool) (replicas : Option Int)
variable (inhibited : Bool) (uncertainty : Uncertainty) (utcNow : String)

/-- The healthy timer runs while polls are healthy and not inhibited. -/
theorem Controller.decide_healthySince :
    (controller.decide now healthy replicas inhibited uncertainty utcNow).1.healthySince =
      windowed controller.healthySince (!inhibited && healthy) now := by
  unfold Controller.decide windowed
  cases inhibited with
  | true => rfl
  | false =>
    cases healthy with
    | true => simp
    | false =>
      simp only [Bool.false_eq_true, if_false, true_and, Bool.not_false, Bool.and_false]
      split
      · split <;> rfl
      · rfl

/-- The failure timer runs while polls are media failures and not inhibited. -/
theorem Controller.decide_unhealthySince :
    (controller.decide now healthy replicas inhibited uncertainty utcNow).1.unhealthySince =
      windowed controller.unhealthySince
        (!inhibited && !healthy && controller.domain = .mediaFailure) now := by
  unfold Controller.decide windowed
  cases inhibited with
  | true => rfl
  | false =>
    cases healthy with
    | true => simp
    | false =>
      by_cases failure : controller.domain = .mediaFailure
      · simp [failure]
      · simp only [Bool.false_eq_true, if_false, failure, ne_eq, not_false_eq_true, and_self,
          if_true, decide_false, Bool.and_false]
        split <;> rfl

/-- START: the failure window is over, or the uncertain one. -/
theorem Controller.decide_start_iff :
    (controller.decide now healthy replicas inhibited uncertainty utcNow).2 = some .start ↔
      inhibited = false ∧ healthy = false ∧ replicas = some 0 ∧
        if controller.domain = .mediaFailure then
          START_AFTER ≤ now - controller.unhealthySince.getD now
        else uncertainty.expired = true := by
  unfold Controller.decide
  cases inhibited with
  | true => simp
  | false =>
    cases healthy with
    | true => cases replicas <;> simp
    | false =>
      by_cases failure : controller.domain = .mediaFailure
      · cases replicas <;> simp [failure]
      · cases expired : uncertainty.expired <;> simp [failure]

/-- STOP: the healthy window is over. -/
theorem Controller.decide_stop_iff :
    (controller.decide now healthy replicas inhibited uncertainty utcNow).2 = some .stop ↔
      inhibited = false ∧ healthy = true ∧ (∃ count, replicas = some count ∧ 1 ≤ count) ∧
        STOP_AFTER ≤ now - controller.healthySince.getD now := by
  unfold Controller.decide
  cases inhibited with
  | true => simp
  | false =>
    cases healthy with
    | true => cases replicas <;> simp
    | false =>
      by_cases failure : controller.domain = .mediaFailure
      · cases replicas <;> simp [failure]
      · cases expired : uncertainty.expired <;> simp [failure]

end Decision

section Runs

variable (polls : ℕ → Poll)

/-- A poll that renews the healthy window. -/
def healthyPoll (n : ℕ) : Bool := !(polls n).inhibited && (outcomeAt polls n).healthy

/-- A poll that renews the failure window. -/
def failurePoll (n : ℕ) : Bool :=
  !(polls n).inhibited && (outcomeAt polls n).domain = .mediaFailure

/-- A poll that renews the progress deadline. -/
def renewingPoll (n : ℕ) : Bool := (polls n).inhibited || (outcomeAt polls n).routeProgress

/-- The instant of the n-th poll. -/
def pollTime (n : ℕ) : ℚ := (polls n).now

/-- A poll is healthy exactly in that domain, and then has progress; progress
excludes a media failure. -/
theorem outcomeAt_assessment (n : ℕ) :
    ((outcomeAt polls n).healthy = true ↔ (outcomeAt polls n).domain = .healthy) ∧
      ((outcomeAt polls n).healthy = true → (outcomeAt polls n).routeProgress = true) ∧
      ((outcomeAt polls n).routeProgress = true → (outcomeAt polls n).domain ≠ .mediaFailure) :=
  (loopAt polls n).observed_assessment (polls n)

theorem loopAt_succ (n : ℕ) : loopAt polls (n + 1) = ((loopAt polls n).poll (polls n)).1 := rfl

/-- One round runs or resets the two windows. -/
theorem LoopState.poll_timers (state : LoopState) (poll : Poll) :
    (state.poll poll).1.controller.healthySince =
        windowed state.controller.healthySince (!poll.inhibited && (state.poll poll).2.healthy)
          poll.now ∧
      (state.poll poll).1.controller.unhealthySince =
        windowed state.controller.unhealthySince
          (!poll.inhibited && (state.poll poll).2.domain = .mediaFailure) poll.now := by
  have ⟨healthySince, unhealthySince⟩ := state.observed_since poll
  have assessed := (state.observed_assessment poll).1
  have failing : (!poll.inhibited && !(state.observed poll).2 &&
      decide ((state.observed poll).1.domain = .mediaFailure)) =
      (!poll.inhibited && decide ((state.observed poll).1.domain = .mediaFailure)) := by
    cases healthy : (state.observed poll).2 with
    | true => simp [assessed.mp healthy]
    | false => simp
  constructor
  · exact (Controller.decide_healthySince ..).trans
      (congrArg (fun since => windowed since _ _) healthySince)
  · exact (Controller.decide_unhealthySince ..).trans
      (congrArg₂ (fun since holds => windowed since holds _) unhealthySince failing)

/-- The timers after n + 1 polls are the windows over these polls. -/
theorem loopAt_timers (n : ℕ) :
    (loopAt polls (n + 1)).controller.healthySince =
        windowSince (healthyPoll polls) (pollTime polls) n ∧
      (loopAt polls (n + 1)).controller.unhealthySince =
        windowSince (failurePoll polls) (pollTime polls) n := by
  induction n with
  | zero => exact (loopAt polls 0).poll_timers (polls 0)
  | succ n inductionHypothesis =>
    have ⟨healthySince, unhealthySince⟩ := (loopAt polls (n + 1)).poll_timers (polls (n + 1))
    rw [inductionHypothesis.1] at healthySince
    rw [inductionHypothesis.2] at unhealthySince
    exact ⟨healthySince, unhealthySince⟩

/-- The instant that a deadline counts from. -/
def ProgressDeadline.since (deadline : ProgressDeadline) : Option ℚ :=
  deadline.lastRouteProgress.or deadline.started

/-- `observe` renews the deadline, or goes on counting. -/
theorem ProgressDeadline.observe_since (deadline : ProgressDeadline) (now : ℚ)
    (routeProgress inhibited : Bool) :
    (deadline.observe now routeProgress inhibited).1.since =
      if inhibited || routeProgress || deadline.started.isNone then some now
      else deadline.since := by
  unfold ProgressDeadline.observe ProgressDeadline.since
  cases inhibited <;> cases routeProgress <;> cases started : deadline.started <;> simp [started]

theorem ProgressDeadline.observe_started (deadline : ProgressDeadline) (now : ℚ)
    (routeProgress inhibited : Bool) :
    (deadline.observe now routeProgress inhibited).1.started.isSome = true := by
  unfold ProgressDeadline.observe
  cases inhibited <;> cases routeProgress <;> cases started : deadline.started <;> simp [started]

/-- After a poll the deadline counts from the poll that last renewed it. -/
theorem loopAt_deadline (n : ℕ) :
    (loopAt polls (n + 1)).deadline.since =
      some (lastSeen (renewingPoll polls) (pollTime polls) n) := by
  have turn : ∀ k, (loopAt polls (k + 1)).deadline.since =
      if renewingPoll polls k || (loopAt polls k).deadline.started.isNone then
        some (pollTime polls k)
      else (loopAt polls k).deadline.since :=
    fun k => ProgressDeadline.observe_since ..
  induction n with
  | zero =>
    refine (turn 0).trans ?_
    simp [loopAt, LoopState.new, ProgressDeadline.new, lastSeen]
  | succ n inductionHypothesis =>
    have started : (loopAt polls (n + 1)).deadline.started.isSome = true :=
      ProgressDeadline.observe_started ..
    rw [turn (n + 1), inductionHypothesis, lastSeen, Option.isNone_eq_false_iff.mpr started,
      Bool.or_false]
    split <;> rfl

/-- The deadline has expired when it was last renewed `AFTER` ago. -/
theorem outcomeAt_expired (n : ℕ) :
    (outcomeAt polls n).uncertainty.expired = true ↔
      AFTER ≤ pollTime polls n - lastSeen (renewingPoll polls) (pollTime polls) n := by
  have positive : (0 : ℚ) < AFTER := by decide +kernel
  have expired : (outcomeAt polls n).uncertainty.expired = decide (AFTER ≤ max 0
      (pollTime polls n - ((loopAt polls (n + 1)).deadline.since).getD (pollTime polls n))) := rfl
  rw [expired, loopAt_deadline, Option.getD_some, decide_eq_true_iff, le_max_iff]
  exact or_iff_right (not_le.mpr positive)

/-- START at a poll: a failure window or the progress deadline is over. -/
theorem outcomeAt_start_iff (n : ℕ) :
    (outcomeAt polls n).action = some .start ↔
      (polls n).inhibited = false ∧ (outcomeAt polls n).healthy = false ∧
        (polls n).replicas = some 0 ∧
        if (outcomeAt polls n).domain = .mediaFailure then
          START_AFTER ≤ pollTime polls n -
            (windowSince (failurePoll polls) (pollTime polls) n).getD (pollTime polls n)
        else AFTER ≤ pollTime polls n - lastSeen (renewingPoll polls) (pollTime polls) n := by
  have start := Controller.decide_start_iff ((loopAt polls n).observed (polls n)).1 (polls n).now
    ((loopAt polls n).observed (polls n)).2 (polls n).replicas (polls n).inhibited
    (outcomeAt polls n).uncertainty (polls n).utcNow
  refine start.trans (and_congr_right fun free => and_congr_right fun _ =>
    and_congr_right fun _ => ?_)
  change (if (outcomeAt polls n).domain = .mediaFailure then _ else _) ↔ _
  by_cases failure : (outcomeAt polls n).domain = .mediaFailure
  · have window : windowSince (failurePoll polls) (pollTime polls) n =
        some ((loopAt polls n).controller.unhealthySince.getD (pollTime polls n)) := by
      rw [← (loopAt_timers polls n).2]
      refine ((loopAt polls n).poll_timers (polls n)).2.trans ?_
      change windowed _ (!(polls n).inhibited && decide ((outcomeAt polls n).domain = _)) _ = _
      simp [windowed, free, failure, pollTime]
    rw [if_pos failure, if_pos failure, window, Option.getD_some,
      ((loopAt polls n).observed_since (polls n)).2]
    rfl
  · rw [if_neg failure, if_neg failure, outcomeAt_expired]

/-- STOP at a poll: the healthy window is over. -/
theorem outcomeAt_stop_iff (n : ℕ) :
    (outcomeAt polls n).action = some .stop ↔
      (polls n).inhibited = false ∧ (outcomeAt polls n).healthy = true ∧
        (∃ count, (polls n).replicas = some count ∧ 1 ≤ count) ∧
        STOP_AFTER ≤ pollTime polls n -
          (windowSince (healthyPoll polls) (pollTime polls) n).getD (pollTime polls n) := by
  have stop := Controller.decide_stop_iff ((loopAt polls n).observed (polls n)).1 (polls n).now
    ((loopAt polls n).observed (polls n)).2 (polls n).replicas (polls n).inhibited
    (outcomeAt polls n).uncertainty (polls n).utcNow
  refine stop.trans (and_congr_right fun free => and_congr_right fun healthy =>
    and_congr_right fun _ => ?_)
  have window : windowSince (healthyPoll polls) (pollTime polls) n =
      some ((loopAt polls n).controller.healthySince.getD (pollTime polls n)) := by
    rw [← (loopAt_timers polls n).1]
    refine ((loopAt polls n).poll_timers (polls n)).1.trans ?_
    change windowed _ (!(polls n).inhibited && ((loopAt polls n).observed (polls n)).2) _ = _
    simp [windowed, free, healthy, pollTime]
  rw [window, Option.getD_some, ((loopAt polls n).observed_since (polls n)).1]
  rfl

end Runs

end LiveStream.Fallback

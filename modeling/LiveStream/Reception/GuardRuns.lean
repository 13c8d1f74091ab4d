import LiveStream.Reception.GuardSteps

/-! The restarts of the reception guard over whole runs: what each rests on, and what lies
between two of one boot. -/

namespace LiveStream.Reception

open LiveStream.Support

/-- The calls of a run on a store that was just initialized. -/
def calls (policy : Policy) (events : List Turn) : List Step :=
  trace (turn policy) .initial events

/-- The state that the calls leave. -/
def left (policy : Policy) (events : List Turn) : State := final (turn policy) .initial events

theorem calls_snoc (policy : Policy) (events : List Turn) (event : Turn) :
    calls policy (events ++ [event]) =
      calls policy events ++ [take (turn policy) (left policy events) event] :=
  trace_append (turn policy) _ events [event]

theorem left_snoc (policy : Policy) (events : List Turn) (event : Turn) :
    left policy (events ++ [event]) = (turn policy (left policy events) event).1 :=
  final_append (turn policy) _ events [event]

/-- The episode is watched in every run. -/
theorem watched_run (policy : Policy) (events : List Turn) :
    WatchedState policy.values (calls policy events) (left policy events) := by
  induction events using List.reverseRecOn with
  | nil => exact fun _ none => by cases none
  | append_singleton events event inductionHypothesis =>
    rw [calls_snoc, left_snoc]
    exact watched_left inductionHypothesis (left_turn policy _ event)

theorem mem_remember {values : PolicyValues} {history : List Sample} {sample row : Sample}
    (member : row ∈ remember values history sample) : row ∈ history ∨ row = sample := by
  have kept := List.mem_of_mem_filter (List.mem_of_mem_drop member)
  split at kept
  · exact .inl kept
  · simpa using kept

/-- The rows of the history were read by calls of the run. -/
def Remembered (history : List Step) (state : State) : Prop :=
  ∀ row ∈ state.history, ∃ call ∈ history, snapshot? call = some row

theorem Remembered.append {history : List Step} {state : State}
    (remembered : Remembered history state) (step : Step) : Remembered (history ++ [step]) state := by
  intro row member
  obtain ⟨call, known, taken⟩ := remembered row member
  exact ⟨call, List.mem_append_left _ known, taken⟩

theorem Remembered.finished {history : List Step} {step : Step} {values : PolicyValues}
    {state other : State} {episode : Episode} {sample : Sample} {verdict : Verdict}
    (remembered : Remembered history state) (same : other.history = state.history)
    (taken : snapshot? step = some sample) :
    Remembered (history ++ [step]) (other.finished values episode sample verdict) := by
  intro row member
  rw [State.finished] at member
  rcases mem_remember member with old | rfl
  · exact remembered.append step row (same ▸ old)
  · exact ⟨step, by simp, taken⟩

theorem remembered_left {values : PolicyValues} {history : List Step} {step : Step} {state : State}
    (watched : WatchedState values history step.before) (left : Left values step state)
    (remembered : Remembered history step.before) : Remembered (history ++ [step]) state := by
  cases left with
  | lost _ => exact remembered.append step
  | unobserved _ _ => exact remembered.append step
  | examined sample episode rows saved taken attached member =>
    have bound := bound_of_attach taken watched attached
    cases examined_of_saved bound member with
    | drifted | passed _ _ | backwards _ | reset => exact remembered.append step
    | judged verdict _ => exact remembered.finished rfl taken
    | spent judged baseline saved _ _ _ recovered =>
      rw [saves_recover] at recovered
      simp only [List.mem_cons, List.not_mem_nil, or_false] at recovered
      rcases recovered with rfl | rfl | rfl
      · exact remembered.append step
      · exact remembered.append step
      · exact remembered.finished rfl taken

theorem remembered_run (policy : Policy) (events : List Turn) :
    Remembered (calls policy events) (left policy events) := by
  induction events using List.reverseRecOn with
  | nil => exact fun _ none => by cases none
  | append_singleton events event inductionHypothesis =>
    rw [calls_snoc, left_snoc]
    exact remembered_left (watched_run policy events) (left_turn policy _ event) inductionHypothesis

/-- The snapshot that a restart was decided on. -/
structure Restarting (policy : Policy) (state : State) (reading : Reading) (sample : Sample)
    (episode : Episode) (rows : List Event) (judged : Episode) (baseline : Baseline) : Prop where
  read : reading.collected = .ok sample
  attached : attach policy.values state sample = .attached episode rows
  steady : drift episode sample = none
  newSource : (episode.adopt policy.values).lastSource ≠ some sample.sourceNow
  forward : ¬ ((episode.adopt policy.values).lastPost.any
    fun previous => previous.movedBack sample) = true
  sameCounters : ¬ ((episode.adopt policy.values).lastPost.any
    fun previous => previous.counterReset sample) = true
  found : assess policy.values ((episode.adopt policy.values).advanced policy.values sample)
    (progressing policy.values (episode.adopt policy.values).lastPost sample) sample =
      .sustained judged baseline
  granted : withheld policy.values state judged sample reading.allowEffect = none
  effects : observe policy state reading =
    rows.map .event ++ recover policy.values state judged sample reading.restarted

private theorem not_mem_settle (state : State) (episode : Episode) (verdict : Verdict) :
    Effect.restart ∉ settle state episode verdict := by
  simp [settle]

private theorem not_mem_finish (values : PolicyValues) (state : State) (episode : Episode)
    (sample : Sample) (verdict : Verdict) :
    Effect.restart ∉ finish values state episode sample verdict := by
  simp [finish]

/-- A collapse that lasted is answered with a restart only where nothing is against it. -/
theorem granted_of_conclude {values : PolicyValues} {state : State} {judged : Episode}
    {baseline : Baseline} {sample : Sample} {reading : Reading}
    (member : Effect.restart ∈ conclude values state judged baseline sample reading) :
    withheld values state judged sample reading.allowEffect = none ∧
      conclude values state judged baseline sample reading =
        recover values state judged sample reading.restarted := by
  cases granted : withheld values state judged sample reading.allowEffect with
  | some verdict =>
    simp only [conclude, granted] at member
    exact absurd member (not_mem_finish _ _ _ _ _)
  | none =>
    simp only [conclude, granted] at member ⊢
    cases checked : reading.checked with
    | error text => simp [checked] at member
    | ok check =>
      simp only [checked] at member ⊢
      cases clear : recheck values baseline sample check with
      | some verdict =>
        simp only [clear] at member
        exact absurd member (not_mem_finish _ _ _ _ _)
      | none => exact ⟨trivial, rfl⟩

theorem restarting_of_mem {policy : Policy} {state : State} {reading : Reading}
    (member : Effect.restart ∈ observe policy state reading) :
    ∃ sample episode rows judged baseline,
      Restarting policy state reading sample episode rows judged baseline := by
  cases read : reading.collected with
  | error text => simp [observe, read] at member
  | ok sample =>
    cases attached : attach policy.values state sample with
    | waiting => simp [observe, read, attached] at member
    | attached episode rows =>
      have effects : observe policy state reading =
          rows.map .event ++ examine policy.values state episode sample reading := by
        simp only [observe, read, attached]
      rw [effects] at member
      have examined := (List.mem_append.mp member).resolve_left (by simp)
      cases steady : drift episode sample with
      | some key =>
        simp only [examine, steady] at examined
        exact absurd examined (not_mem_settle _ _ _)
      | none =>
        have taken : examine policy.values state episode sample reading =
            examine policy.values state episode sample reading := rfl
        conv at taken => rhs; simp only [examine, steady]
        rw [taken] at examined effects
        split_ifs at examined effects with stale again backwards reset
        · exact absurd examined (not_mem_settle _ _ _)
        · exact absurd examined (not_mem_settle _ _ _)
        · exact absurd examined (not_mem_settle _ _ _)
        · exact absurd examined (not_mem_settle _ _ _)
        · rw [process] at examined effects
          split at examined
          · exact absurd examined (not_mem_finish _ _ _ _ _)
          · rename_i judged baseline found
            obtain ⟨granted, same⟩ := granted_of_conclude examined
            rw [found] at effects
            exact ⟨sample, episode, rows, judged, baseline, read, attached, steady, again, backwards,
              reset, found, granted, same ▸ effects⟩

/-- A restart that happened in a call, and what happened before it in the call. -/
theorem take_of_mem {α : Type} {front back : List α} {item : α} {count : Nat}
    (fresh : item ∉ front) (member : item ∈ (front ++ item :: back).take count) :
    ∃ rest, (front ++ item :: back).take count = front ++ item :: rest := by
  have past : front.length < count := by
    by_contra short
    rw [List.take_append_of_le_length (not_lt.mp short)] at member
    exact fresh (List.mem_of_mem_take member)
  refine ⟨back.take (count - front.length - 1), ?_⟩
  rw [List.take_append, List.take_of_length_le past.le]
  obtain ⟨more, same⟩ := Nat.exists_eq_add_of_lt past
  have one : count - front.length = more + 1 := by omega
  rw [one, List.take_succ_cons]
  rfl

/-- What the effects of a call with a restart begin with: the attempt is saved first. -/
theorem Restarting.performed {policy : Policy} {state : State} {event : Turn} {sample : Sample}
    {episode : Episode} {rows : List Event} {judged : Episode} {baseline : Baseline}
    (restarting : Restarting policy state event.reading sample episode rows judged baseline)
    (member : Effect.restart ∈ (turn policy state event).2) :
    ∃ rest, (turn policy state event).2 =
      (rows.map .event ++ [.save (state.reserve judged sample),
        .event (.recoveryRestartReserved judged.baseline judged.bad sample)]) ++
        .restart :: rest := by
  change Effect.restart ∈ (observe policy state event.reading).take event.performed at member
  change ∃ rest, (observe policy state event.reading).take event.performed = _ ++ .restart :: rest
  have effects : observe policy state event.reading =
      (rows.map .event ++ [.save (state.reserve judged sample),
        .event (.recoveryRestartReserved judged.baseline judged.bad sample)]) ++
        .restart :: ((recover policy.values state judged sample event.reading.restarted).drop 3) := by
    rw [restarting.effects, List.append_assoc]
    rfl
  rw [effects] at member ⊢
  exact take_of_mem (by simp) member

/-- The durable state at the restart has its attempt spent. -/
def Durable (step : Step) : Prop :=
  ∃ front back, step.output = front ++ .restart :: back ∧
    ∃ episode, (lastSaved step.before front).episode = some episode ∧ episode.attempts = 1

/-- The calls over which a restart was earned: the invocation was seen for the first time with a
baseline from before it, and a window of low snapshots of it ends in the call of the restart. -/
def Earned (values : PolicyValues) (front : List Step) (step : Step) : Prop :=
  ∃ sample baseline, snapshot? step = some sample ∧
    ∃ first, (∃ before opening later, front ++ [step] = before ++ opening :: later ∧
      snapshot? opening = some first ∧ first.binding = sample.binding ∧
      baselineFor values opening.before.history first = some baseline ∧
      ∀ row ∈ opening.before.history, ∃ call ∈ before, snapshot? call = some row) ∧
    sample.mono - first.startMono ≤ values.startupWindowSec ∧
    ∃ early span window, front ++ [step] = early ++ span ∧
      Window values sample.binding first.startMono baseline span window ∧
      window.getLast? = some sample ∧ values.minSamples ≤ window.length ∧
      ∀ oldest ∈ window.head?, values.sustainSec ≤ sample.sourceNow - oldest.sourceNow ∧
        values.sustainSec ≤ sample.mono - oldest.mono

/-- A restart that nothing is against has its attempt left, is early enough and late enough. -/
theorem of_withheld_eq_none {values : PolicyValues} {state : State} {episode : Episode}
    {sample : Sample} {allowEffect : Bool}
    (granted : withheld values state episode sample allowEffect = none) :
    episode.attempts = 0 ∧ sample.mono - episode.startMono ≤ values.startupWindowSec ∧
      cooldownOk values state sample := by
  rw [withheld] at granted
  split_ifs at granted with spent late hot lost observing
  exact ⟨not_not.mp spent, not_lt.mp late, hot⟩

section Restart

variable {policy : Policy} {events : List Turn} {event : Turn} {sample : Sample} {episode : Episode}
  {rows : List Event} {judged : Episode} {baseline : Baseline}

theorem Restarting.taken
    (restarting : Restarting policy (left policy events) event.reading sample episode rows judged
      baseline)
    (member : Effect.restart ∈ (turn policy (left policy events) event).2) :
    snapshot? (take (turn policy) (left policy events) event) = some sample := by
  obtain ⟨rest, output⟩ := restarting.performed member
  have wrote : recorded (take (turn policy) (left policy events) event) = true := by
    rw [recorded, take, output]
    simp [saves]
  rw [snapshot?, if_pos wrote]
  change event.reading.collected.toOption = some sample
  rw [restarting.read]
  rfl

theorem Restarting.durable
    (restarting : Restarting policy (left policy events) event.reading sample episode rows judged
      baseline)
    (member : Effect.restart ∈ (turn policy (left policy events) event).2) :
    Durable (take (turn policy) (left policy events) event) := by
  obtain ⟨rest, output⟩ := restarting.performed member
  refine ⟨_, rest, output, judged.reserved, ?_, rfl⟩
  rw [lastSaved, saves_append, saves_events]
  rfl

theorem Restarting.bound
    (restarting : Restarting policy (left policy events) event.reading sample episode rows judged
      baseline)
    (member : Effect.restart ∈ (turn policy (left policy events) event).2) :
    Bound policy.values (calls policy events) (take (turn policy) (left policy events) event) sample
        (episode.adopt policy.values) ∧
      Fresh policy.values (episode.adopt policy.values) sample := by
  have bound : Bound policy.values (calls policy events)
      (take (turn policy) (left policy events) event) sample episode :=
    bound_of_attach (restarting.taken member) (watched_run policy events) restarting.attached
  have stillSteady : drift (episode.adopt policy.values) sample = none := by
    rw [drift, (sameOrigin_adopt episode policy.values).binding]
    exact restarting.steady
  exact ⟨bound.adopt, Fresh.of_exits bound.adopt stillSteady restarting.newSource
    restarting.forward restarting.sameCounters⟩

end Restart

/-- The rows that an episode's baseline was made of were read by earlier calls. -/
theorem remembered_opening {policy : Policy} {events : List Turn} {before later : List Step}
    {opening : Step} (split : calls policy events = before ++ opening :: later) :
    Remembered before opening.before := by
  obtain ⟨first, event, _, _, rfl, rfl⟩ := trace_split split
  exact remembered_run policy first

/-- A restart in the last call of a run was earned, and its attempt is durable. -/
theorem earned_of_restart (policy : Policy) (events : List Turn) (event : Turn)
    (member : Effect.restart ∈ (turn policy (left policy events) event).2) :
    Earned policy.values (calls policy events) (take (turn policy) (left policy events) event) ∧
      Durable (take (turn policy) (left policy events) event) := by
  have asked : Effect.restart ∈ observe policy (left policy events) event.reading :=
    List.mem_of_mem_take member
  obtain ⟨sample, episode, rows, judged, baseline, restarting⟩ := restarting_of_mem asked
  refine ⟨?_, restarting.durable member⟩
  obtain ⟨bound, fresh⟩ := restarting.bound member
  have taken := restarting.taken member
  obtain ⟨unspent, inWindow, _⟩ := of_withheld_eq_none restarting.granted
  obtain ⟨grown, enough, lasted⟩ := grown_of_sustained restarting.found
  obtain ⟨early, span, window, split, held, listed, ends⟩ :=
    evidence_grown taken bound fresh grown
  obtain rfl := grown.added
  obtain ⟨before, opening, later, first, opened, seen, start, known, since⟩ := bound.opened
  obtain ⟨binding, noRetry⟩ := since unspent
  have startMono : (episode.adopt policy.values).retryStartMono.getD
      (episode.adopt policy.values).startMono = first.startMono := by
    rw [noRetry, start]
    rfl
  refine ⟨sample, baseline, taken, first, ⟨before, opening, later, opened, seen, ?_, ?_, ?_⟩, ?_,
    early, span, window, split, ?_, ends, ?_, ?_⟩
  · exact binding.symm.trans fresh.binding.symm
  · exact known.symm.trans grown.known
  · exact remembered_opening ((calls_snoc policy events event).trans opened)
  · exact start ▸ inWindow
  · have moved : Window policy.values (episode.adopt policy.values).binding
        ((episode.adopt policy.values).retryStartMono.getD
          (episode.adopt policy.values).startMono) baseline span window := held
    rw [startMono, ← fresh.binding] at moved
    exact moved
  · rw [listed, List.length_map] at enough
    exact enough
  · intro oldest member
    have entry := lasted (oldest.badEntry baseline) (by
      rw [listed, List.head?_map, member]
      rfl)
    exact entry

/-- Two snapshots in a row that confirm the reception. -/
structure Confirms (values : PolicyValues) (earlier later : Sample) : Prop where
  firstFresh : 0 < earlier.freshPositions
  secondFresh : 0 < later.freshPositions
  newer : earlier.sourceNow < later.sourceNow
  near : later.sourceNow - earlier.sourceNow ≤ values.sampleMaxAgeSec
  progress : earlier.positions < later.positions

/-- The reception was confirmed by snapshots of these calls. -/
def Confirmed (values : PolicyValues) (history : List Step) : Prop :=
  ∃ earlier later, [earlier, later].Sublist (history.filterMap snapshot?) ∧
    Confirms values earlier later

theorem Confirmed.append {values : PolicyValues} {history : List Step}
    (confirmed : Confirmed values history) (step : Step) :
    Confirmed values (history ++ [step]) := by
  obtain ⟨earlier, later, listed, confirms⟩ := confirmed
  refine ⟨earlier, later, ?_, confirms⟩
  rw [List.filterMap_append]
  exact listed.trans (List.sublist_append_left _ _)

/-- The attempt of the episode is spent and nothing has confirmed the reception since. -/
structure Unconfirmed (history : List Step) (boot : String) (episode : Episode) : Prop where
  notWaiting : episode.waitingOrigin = none
  boot : episode.binding.boot = boot
  spent : episode.attempts = 1
  phase : episode.phase ≠ .healthy
  source : episode.lastSource = episode.lastPost.map (·.sourceNow)
  good : 0 < episode.good → ∃ post, episode.lastPost = some post ∧ 0 < post.freshPositions ∧
    post ∈ history.filterMap snapshot?

theorem Unconfirmed.append {history : List Step} {boot : String} {episode : Episode}
    (unconfirmed : Unconfirmed history boot episode) (step : Step) :
    Unconfirmed (history ++ [step]) boot episode :=
  { unconfirmed with
    good := by
      intro positive
      obtain ⟨post, last, fresh, listed⟩ := unconfirmed.good positive
      refine ⟨post, last, fresh, ?_⟩
      rw [List.filterMap_append]
      exact List.mem_append_left _ listed }

/-- What the calls since a restart in this boot leave. -/
structure Spent (values : PolicyValues) (boot : String) (mono : ℚ) (history : List Step)
    (state : State) : Prop where
  restartBoot : state.lastRestartBoot = some boot
  last : ∃ last, state.lastRestartMono = some last ∧ mono ≤ last
  budget : Confirmed values history ∨
    ∃ episode, state.episode = some episode ∧ Unconfirmed history boot episode

section Since

variable {values : PolicyValues} {history : List Step} {boot : String} {step : Step}
  {sample : Sample} {episode : Episode}

theorem Unconfirmed.attached (unconfirmed : Unconfirmed history boot episode)
    {state : State} (known : state.episode = some episode) (same : sample.binding.boot = boot)
    {other : Episode} {rows : List Event}
    (attached : attach values state sample = .attached other rows) :
    Unconfirmed history boot other := by
  simp only [attach, known, unconfirmed.notWaiting, unconfirmed.boot, same, unconfirmed.spent,
    unconfirmed.phase, ne_eq, not_true_eq_false, not_false_eq_true, and_self, if_true,
    if_false] at attached
  split_ifs at attached
  · injection attached with fits _
    exact fits ▸ unconfirmed
  · injection attached with fits _
    subst fits
    exact {
      notWaiting := unconfirmed.notWaiting
      boot := unconfirmed.boot
      spent := unconfirmed.spent
      phase := by simp [Episode.retried]
      source := rfl
      good := fun positive => absurd (show 0 < 0 from positive) (lt_irrefl 0) }

theorem Unconfirmed.adopt (unconfirmed : Unconfirmed history boot episode) :
    Unconfirmed history boot (episode.adopt values) := by
  rcases episode.adopt_cases values with same | same
  · rw [same]
    exact unconfirmed
  · rw [same]
    exact { unconfirmed with }

/-- Losing the good snapshots leaves the episode unconfirmed. -/
theorem Unconfirmed.dropped (unconfirmed : Unconfirmed history boot episode) {other : Episode}
    (same : SameOrigin episode other) (attempts : other.attempts = episode.attempts)
    (phase : other.phase = episode.phase) (good : other.good = 0)
    (source : other.lastSource = other.lastPost.map (·.sourceNow)) :
    Unconfirmed (history ++ [step]) boot other where
  notWaiting := same.waitingOrigin.trans unconfirmed.notWaiting
  boot := (congrArg Binding.boot same.binding).trans unconfirmed.boot
  spent := attempts.trans unconfirmed.spent
  phase := phase ▸ unconfirmed.phase
  source := source
  good := fun positive => absurd (good ▸ positive) (lt_irrefl 0)

/-- The second good snapshot in a row confirms the reception; before it nothing does. -/
theorem Unconfirmed.assessed (taken : snapshot? step = some sample)
    (unconfirmed : Unconfirmed history boot episode) (fresh : Fresh values episode sample)
    {judged : Episode} (kept : Judged (episode.advanced values sample) judged) :
    Confirmed values (history ++ [step]) ∨ Unconfirmed (history ++ [step]) boot judged := by
  have listed : (history ++ [step]).filterMap snapshot? =
      history.filterMap snapshot? ++ [sample] := by
    rw [List.filterMap_append, List.filterMap_cons, taken, List.filterMap_nil]
  by_cases twice : 2 ≤ (episode.advanced values sample).good
  · left
    have good : goodSnapshot values episode.lastPost sample = true := by
      by_contra bad
      simp [Episode.advanced, bad] at twice
    have near : gap values episode.lastPost sample = false := by
      cases late : gap values episode.lastPost sample with
      | false => rfl
      | true => simp [Episode.advanced, late, good] at twice
    have earlier : 0 < episode.good := by
      simp only [Episode.advanced, good, near, Bool.false_eq_true, if_true, if_false] at twice
      omega
    obtain ⟨post, last, firstFresh, known⟩ := unconfirmed.good earlier
    rw [goodSnapshot, progressing, near, last] at good
    rw [gap, last] at near
    simp only [Option.any_some, Option.isNone_some, Bool.or_false, Bool.and_eq_true,
      decide_eq_true_eq, Bool.not_false, Bool.true_and] at good
    refine ⟨post, sample, ?_, firstFresh, good.1, fresh.newer unconfirmed.source last, ?_, good.2⟩
    · rw [listed]
      exact (List.singleton_sublist.mpr known).append (List.Sublist.refl [sample])
    · simpa using near
  · right
    refine ⟨kept.same.waitingOrigin.trans unconfirmed.notWaiting,
      (congrArg Binding.boot kept.same.binding).trans unconfirmed.boot,
      kept.attempts.trans unconfirmed.spent, ?_, ?_, ?_⟩
    · rcases kept.phase with same | healthy
      · exact same ▸ unconfirmed.phase
      · exact absurd healthy.2 twice
    · rw [kept.lastSource, kept.lastPost]
      rfl
    · intro positive
      rw [kept.good] at positive
      have good : goodSnapshot values episode.lastPost sample = true := by
        by_contra bad
        simp [Episode.advanced, bad] at positive
      rw [goodSnapshot, Bool.and_eq_true, decide_eq_true_eq] at good
      refine ⟨sample, kept.lastPost, good.1, ?_⟩
      rw [listed]
      simp

/-- What is saved of an unconfirmed episode is unconfirmed, or the reception is confirmed now. -/
theorem Unconfirmed.examined (taken : snapshot? step = some sample)
    (unconfirmed : Unconfirmed history boot episode) {state saved : State} {reading : Reading}
    (examined : Examined values state episode sample reading saved) :
    Confirmed values (history ++ [step]) ∨
      ∃ kept, saved.episode = some kept ∧ Unconfirmed (history ++ [step]) boot kept := by
  have adopted : Unconfirmed history boot (episode.adopt values) := unconfirmed.adopt
  cases examined with
  | drifted =>
    exact .inr ⟨_, rfl, { unconfirmed.append step with }⟩
  | passed _ _ => exact .inr ⟨_, rfl, adopted.append step⟩
  | backwards status =>
    refine .inr ⟨_, rfl, ?_⟩
    exact adopted.dropped ⟨rfl, rfl, rfl, rfl, rfl⟩ rfl rfl rfl adopted.source
  | reset =>
    refine .inr ⟨_, rfl, ?_⟩
    exact adopted.dropped ⟨rfl, rfl, rfl, rfl, rfl⟩ rfl rfl rfl rfl
  | judged verdict fresh =>
    rcases adopted.assessed taken fresh judged_assess with confirmed | held
    · exact .inl confirmed
    · exact .inr ⟨_, rfl, { held with }⟩
  | spent judged baseline saved fresh found granted _ =>
    have unspent := (of_withheld_eq_none granted).1
    have attempts := (judged_of_sustained found).attempts
    exact absurd (unspent.symm.trans (attempts.trans adopted.spent)) (by decide)

/-- The last restart that a call leaves is the one before, or one on its own sample. -/
theorem restartTimes_examined {state saved : State} {reading : Reading}
    (examined : Examined values state episode sample reading saved) :
    (saved.lastRestartMono = state.lastRestartMono ∧
        saved.lastRestartBoot = state.lastRestartBoot) ∨
      (cooldownOk values state sample ∧ saved.lastRestartMono = some sample.mono ∧
        saved.lastRestartBoot = some sample.binding.boot) := by
  cases examined with
  | drifted | passed _ _ | backwards _ | reset | judged _ _ => exact .inl ⟨rfl, rfl⟩
  | spent judged baseline saved _ _ granted recovered =>
    have cool := (of_withheld_eq_none granted).2.2
    rw [saves_recover] at recovered
    simp only [List.mem_cons, List.not_mem_nil, or_false] at recovered
    rcases recovered with rfl | rfl | rfl <;> exact .inr ⟨cool, rfl, rfl⟩

/-- Under a cooldown a restart in the same boot is later than the one before. -/
theorem later_of_cooldown {state : State} {last : ℚ} (cool : cooldownOk values state sample)
    (sameBoot : state.lastRestartBoot = some sample.binding.boot)
    (known : state.lastRestartMono = some last) : values.cooldownSec ≤ sample.mono - last := by
  rcases cool with other | late
  · exact absurd sameBoot other
  · exact late last known

/-- A call of the same boot keeps what the calls since a restart leave. -/
theorem Spent.left {mono : ℚ} {all : List Step} {state : State} (positive : 0 < values.cooldownSec)
    (watched : WatchedState values all step.before)
    (spent : Spent values boot mono history step.before)
    (oneBoot : ∀ sample ∈ snapshot? step, sample.binding.boot = boot)
    (left : Left values step state) : Spent values boot mono (history ++ [step]) state := by
  cases left with
  | lost _ =>
    refine ⟨spent.restartBoot, spent.last, spent.budget.imp (·.append step) ?_⟩
    exact fun ⟨episode, known, held⟩ => ⟨episode, known, held.append step⟩
  | unobserved _ _ =>
    refine ⟨spent.restartBoot, spent.last, spent.budget.imp (·.append step) ?_⟩
    rintro ⟨episode, known, held⟩
    refine ⟨episode.unobserved, congrArg (Option.map Episode.unobserved) known, ?_⟩
    exact held.dropped ⟨rfl, rfl, rfl, rfl, rfl⟩ rfl rfl rfl rfl
  | examined sample episode rows saved taken attached member =>
    have same := oneBoot sample taken
    have bound := bound_of_attach taken watched attached
    have examined := examined_of_saved bound member
    obtain ⟨last, known, since⟩ := spent.last
    have budget : Confirmed values (history ++ [step]) ∨
        ∃ kept, state.episode = some kept ∧ Unconfirmed (history ++ [step]) boot kept := by
      rcases spent.budget with confirmed | ⟨former, held, unconfirmed⟩
      · exact .inl (confirmed.append step)
      · exact (unconfirmed.attached held same attached).examined taken examined
    rcases restartTimes_examined examined with ⟨times, boots⟩ | ⟨cool, times, boots⟩
    · exact ⟨boots.trans spent.restartBoot, ⟨last, times.trans known, since⟩, budget⟩
    · have late := later_of_cooldown cool (spent.restartBoot.trans (congrArg some same.symm)) known
      exact ⟨boots.trans (congrArg some same), ⟨sample.mono, times, by linarith⟩, budget⟩

/-- The state that a call with a restart leaves has its attempt spent. -/
theorem spent_of_restart {policy : Policy} {state : State} {event : Turn}
    (bound : ∀ sample episode rows judged baseline,
      Restarting policy state event.reading sample episode rows judged baseline →
        judged.waitingOrigin = none ∧ judged.lastSource = judged.lastPost.map (·.sourceNow) ∧
          judged.binding.boot = sample.binding.boot)
    (member : Effect.restart ∈ (turn policy state event).2) :
    ∃ sample, event.reading.collected = .ok sample ∧
      Spent policy.values sample.binding.boot sample.mono [] (turn policy state event).1 := by
  have asked : Effect.restart ∈ observe policy state event.reading := List.mem_of_mem_take member
  obtain ⟨sample, episode, rows, judged, baseline, restarting⟩ := restarting_of_mem asked
  obtain ⟨notWaiting, source, boot⟩ := bound sample episode rows judged baseline restarting
  refine ⟨sample, restarting.read, ?_⟩
  have reserved : ∀ kept : Episode, kept = judged.reserved ∨
      kept = judged.reserved.answered event.reading.restarted ∨
      (∃ verdict, kept = { judged.reserved.answered event.reading.restarted with
        status := some verdict }) → Unconfirmed [] sample.binding.boot kept := by
    have first : Unconfirmed [] sample.binding.boot judged.reserved :=
      ⟨notWaiting, boot, rfl, by simp [Episode.reserved], source,
        fun positive => absurd (show 0 < 0 from positive) (lt_irrefl 0)⟩
    have second : Unconfirmed [] sample.binding.boot
        (judged.reserved.answered event.reading.restarted) := by
      cases event.reading.restarted with
      | error name => exact { first with phase := by simp [Episode.answered] }
      | ok code =>
        refine { first with phase := ?_ }
        rw [Episode.answered]
        split_ifs <;> simp
    rintro kept (rfl | rfl | ⟨verdict, rfl⟩)
    · exact first
    · exact second
    · exact { second with }
  have written : saves (turn policy state event).2 ≠ [] := by
    obtain ⟨rest, output⟩ := restarting.performed member
    rw [output]
    simp [saves]
  rcases turn_cases policy state event with ⟨nothing, _⟩ | saved
  · exact absurd nothing written
  · have recovered := saved_of_turn saved
    rw [restarting.effects, saves_append, saves_events, List.nil_append, saves_recover] at recovered
    simp only [List.mem_cons, List.not_mem_nil, or_false] at recovered
    rcases recovered with same | same | same <;> rw [same]
    · exact ⟨rfl, ⟨_, rfl, le_rfl⟩, .inr ⟨_, rfl, reserved _ (.inl rfl)⟩⟩
    · exact ⟨rfl, ⟨_, rfl, le_rfl⟩, .inr ⟨_, rfl, reserved _ (.inr (.inl rfl))⟩⟩
    · exact ⟨rfl, ⟨_, rfl, le_rfl⟩, .inr ⟨_, rfl, reserved _ (.inr (.inr ⟨_, rfl⟩))⟩⟩

end Since

/-- What lies between two restarts: a cooldown of monotonic time and a confirmed reception. -/
def Apart (values : PolicyValues) (earlier : Step) (middle : List Step) (later : Step) : Prop :=
  ∃ first second, snapshot? earlier = some first ∧ snapshot? later = some second ∧
    values.cooldownSec ≤ second.mono - first.mono ∧ Confirmed values middle

/-- No call that read a snapshot read one of another boot than the first. -/
def OneBoot (earlier : Step) (steps : List Step) : Prop :=
  ∀ first ∈ snapshot? earlier, ∀ step ∈ steps, ∀ sample ∈ snapshot? step,
    sample.binding.boot = first.binding.boot

section Between

variable {policy : Policy} {first : List Turn} {event : Turn} {sample : Sample}

/-- The calls since a restart, as long as the boot stays. -/
theorem spent_run (second : List Turn)
    (spent : Spent policy.values sample.binding.boot sample.mono [] (left policy (first ++ [event])))
    (oneBoot : ∀ step ∈ trace (turn policy) (left policy (first ++ [event])) second,
      ∀ read ∈ snapshot? step, read.binding.boot = sample.binding.boot) :
    Spent policy.values sample.binding.boot sample.mono
      (trace (turn policy) (left policy (first ++ [event])) second)
      (left policy (first ++ [event] ++ second)) := by
  induction second using List.reverseRecOn with
  | nil =>
    rw [List.append_nil]
    exact spent
  | append_singleton second next inductionHypothesis =>
    have states : final (turn policy) (left policy (first ++ [event])) second =
        left policy (first ++ [event] ++ second) :=
      (final_append (turn policy) _ (first ++ [event]) second).symm
    have next_ := left_snoc policy (first ++ [event] ++ second) next
    rw [trace_append, states] at oneBoot ⊢
    rw [← List.append_assoc, next_]
    have kept := inductionHypothesis fun step member =>
      oneBoot step (List.mem_append_left _ member)
    exact kept.left policy.cooldown_pos (watched_run policy (first ++ [event] ++ second))
      (oneBoot _ (by simp [trace])) (left_turn policy _ next)

/-- A restart after calls of the same boot comes after a cooldown and a confirmation. -/
theorem apart_of_restart {events : List Turn} {history : List Step} {later : Turn}
    (spent : Spent policy.values sample.binding.boot sample.mono history (left policy events))
    (member : Effect.restart ∈ (turn policy (left policy events) later).2)
    (oneBoot : ∀ read ∈ snapshot? (take (turn policy) (left policy events) later),
      read.binding.boot = sample.binding.boot) :
    Confirmed policy.values history ∧
      ∃ read, snapshot? (take (turn policy) (left policy events) later) = some read ∧
        policy.values.cooldownSec ≤ read.mono - sample.mono := by
  have asked : Effect.restart ∈ observe policy (left policy events) later.reading :=
    List.mem_of_mem_take member
  obtain ⟨read, episode, rows, judged, baseline, restarting⟩ := restarting_of_mem asked
  have taken := restarting.taken member
  have same := oneBoot read taken
  obtain ⟨unspent, _, cool⟩ := of_withheld_eq_none restarting.granted
  constructor
  · rcases spent.budget with confirmed | ⟨former, held, unconfirmed⟩
    · exact confirmed
    · have adopted : Unconfirmed history sample.binding.boot (episode.adopt policy.values) :=
        (unconfirmed.attached held same restarting.attached).adopt
      have attempts := (judged_of_sustained restarting.found).attempts
      exact absurd (unspent.symm.trans (attempts.trans adopted.spent)) (by decide)
  · obtain ⟨last, known, since⟩ := spent.last
    have late := later_of_cooldown cool (spent.restartBoot.trans (congrArg some same.symm)) known
    exact ⟨read, taken, by linarith⟩

end Between

/-- The state after a restart has the attempt spent on the sample of the restart. -/
theorem spent_after (policy : Policy) (events : List Turn) (event : Turn)
    (member : Effect.restart ∈ (turn policy (left policy events) event).2) :
    ∃ sample, snapshot? (take (turn policy) (left policy events) event) = some sample ∧
      Spent policy.values sample.binding.boot sample.mono [] (left policy (events ++ [event])) := by
  obtain ⟨sample, read, spent⟩ := spent_of_restart (fun sample episode rows judged baseline
      restarting => by
    obtain ⟨bound, _⟩ := restarting.bound member
    have kept := judged_of_sustained restarting.found
    refine ⟨kept.same.waitingOrigin.trans bound.notWaiting, ?_,
      (congrArg Binding.boot kept.same.binding).trans bound.boot.symm⟩
    rw [kept.lastSource, kept.lastPost]
    rfl) member
  have asked : Effect.restart ∈ observe policy (left policy events) event.reading :=
    List.mem_of_mem_take member
  obtain ⟨other, episode, rows, judged, baseline, restarting⟩ := restarting_of_mem asked
  obtain rfl : other = sample := Except.ok.inj (restarting.read.symm.trans read)
  exact ⟨other, restarting.taken member, left_snoc policy events event ▸ spent⟩

/-- In every run each restart was earned by the calls up to it, with its attempt durable; and two
restarts of one boot lie a cooldown apart, with a confirmed reception between them. -/
theorem receiver_restarts_earned (policy : Policy) (events : List Turn) :
    (∀ front step back, calls policy events = front ++ step :: back →
        Effect.restart ∈ step.output → Earned policy.values front step ∧ Durable step) ∧
      ∀ front earlier middle later back,
        calls policy events = front ++ earlier :: (middle ++ later :: back) →
          Effect.restart ∈ earlier.output → Effect.restart ∈ later.output →
          OneBoot earlier (middle ++ [later]) → Apart policy.values earlier middle later := by
  constructor
  · intro front step back run restarts
    obtain ⟨first, event, _, _, rfl, rfl⟩ := trace_split run
    exact earned_of_restart policy first event restarts
  · intro front earlier middle later back run firstRestart secondRestart oneBoot
    obtain ⟨first, event, tail, rfl, rfl, rfl⟩ := trace_split run
    obtain ⟨sample, taken, spent⟩ := spent_after policy first event firstRestart
    have rest : trace (turn policy) (left policy (first ++ [event])) tail =
        middle ++ later :: back := by
      rw [calls, trace_append] at run
      rw [left_snoc]
      exact (List.cons.inj (List.append_cancel_left run)).2
    obtain ⟨second, last, _, _, rfl, rfl⟩ := trace_split rest
    have states : final (turn policy) (left policy (first ++ [event])) second =
        left policy (first ++ [event] ++ second) :=
      (final_append (turn policy) _ (first ++ [event]) second).symm
    have since := spent_run second spent fun step member =>
      oneBoot sample taken step (List.mem_append_left _ member)
    rw [states] at secondRestart ⊢
    obtain ⟨confirmed, read, seen, late⟩ := apart_of_restart since secondRestart
      (oneBoot sample taken _ (by simp [states]))
    exact ⟨sample, read, taken, seen, late, confirmed⟩

/-- The values that a policy has where the environment sets none. -/
def defaultPolicy : Policy where
  values := ⟨1 / 10, 300, 90, 180, 900, 90, 30, 3, 3, 2, 300⟩
  valid := ⟨by decide +kernel, by decide +kernel, by decide, by decide, by decide, by decide +kernel⟩

/-- A snapshot of one invocation, read on the second that its sources wrote it. -/
def snapshotAt (invocation : String) (start mono rate positions : ℚ) (fresh : Nat) : Sample where
  mono := mono
  binding := ⟨"boot", invocation, "config", "binary", "command"⟩
  startMono := start
  startEpoch := start
  sourceNow := mono
  readsbNow := mono
  rate := rate
  lostBuffers := 0
  positions := positions
  readsbStart := 10
  freshPositions := fresh

/-- A call that reads this snapshot, also right before its effect, and comes to its end. -/
def reads (sample : Sample) : Turn := ⟨⟨.ok sample, none, .ok sample, .ok 0, true⟩, 10⟩

/-- Traffic of one invocation, and then three low snapshots of the next. -/
def collapse : List Turn :=
  ([100, 160, 220].map fun mono => reads (snapshotAt "first" 10 mono 100 (10 * mono) 10)) ++
    [330, 390, 450, 510].map fun mono => reads (snapshotAt "second" 250 mono 2 2200 0)

/-- An observation that fails, in a call that is killed before it saves anything. -/
def killedTurn : Turn := ⟨⟨.error "source snapshot stale or future", none, .error "", .ok 0, true⟩, 0⟩

/-- The last call of the collapse, in which the receiver is restarted. -/
def lastTurn : Turn := reads (snapshotAt "second" 250 570 2 2200 0)

private theorem length_le_one {α : Type} {front early span : List α} {former last : α}
    (split : front ++ [former, last] = early ++ span) (absent : former ∉ span) :
    span.length ≤ 1 := by
  by_contra long
  have ends : [former, last] <:+ span :=
    List.suffix_of_suffix_length_le (List.suffix_append front _) (split ▸ List.suffix_append early span)
      (Nat.lt_of_not_le long)
  exact absent (ends.subset (by simp))

/-- A failed observation that a kill kept from being saved lies between the low snapshots. -/
theorem failed_observation_in_window :
    ¬ ∀ (policy : Policy) (events : List Turn) (front : List Step) (step : Step) (back : List Step),
      calls policy events = front ++ step :: back → Effect.restart ∈ step.output →
        ∃ early span binding start baseline window, front ++ [step] = early ++ span ∧
          Window policy.values binding start baseline span window ∧
          policy.values.minSamples ≤ window.length ∧
          ∀ call ∈ span, call.event.reading.collected.isOk = true := by
  intro every
  have restarts : Effect.restart ∈
      (turn defaultPolicy (left defaultPolicy (collapse ++ [killedTurn])) lastTurn).2 := by
    decide +kernel
  obtain ⟨early, span, _, _, _, window, split, held, enough, read⟩ :=
    every defaultPolicy (collapse ++ [killedTurn] ++ [lastTurn]) _ _ []
      (calls_snoc defaultPolicy (collapse ++ [killedTurn]) lastTurn) restarts
  rw [calls_snoc, List.append_assoc] at split
  have short := length_le_one split fun member => by
    have failed := read _ member
    simp [take, killedTurn, Except.isOk, Except.toBool] at failed
  have three : 3 ≤ window.length := enough
  exact absurd (three.trans (held.length_le.trans short)) (by decide)

end LiveStream.Reception

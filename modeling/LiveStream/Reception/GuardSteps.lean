import LiveStream.Reception.Windows

/-! What one call of the reception guard makes of a watched episode, exit by exit. -/

namespace LiveStream.Reception

open LiveStream.Support

/-- The episode that a sample was attached to, before the sample is examined. -/
structure Bound (values : PolicyValues) (history : List Step) (step : Step) (sample : Sample)
    (episode : Episode) : Prop where
  notWaiting : episode.waitingOrigin = none
  source : episode.lastSource = episode.lastPost.map (·.sourceNow)
  opened : Opened values (history ++ [step]) episode
  boot : sample.binding.boot = episode.binding.boot
  invocation : sample.binding.instance_ = episode.binding.instance_
  evidence : Evidence values history episode

section Attachment

variable {values : PolicyValues} {history : List Step} {step : Step} {sample : Sample}

theorem bound_newEpisode (taken : snapshot? step = some sample) :
    Bound values history step sample (newEpisode values step.before sample) where
  notWaiting := rfl
  source := rfl
  opened := ⟨history, step, [], sample, rfl, taken, rfl, rfl, fun _ => ⟨rfl, rfl⟩⟩
  boot := rfl
  invocation := rfl
  evidence := .inl rfl

/-- A watched episode stays, is bound to a retry child, or gives way to a new one. -/
theorem bound_of_attach (taken : snapshot? step = some sample)
    (watched : ∀ episode ∈ step.before.episode, Watched values history episode)
    {episode : Episode} {rows : List Event}
    (attached : attach values step.before sample = .attached episode rows) :
    Bound values history step sample episode := by
  have opening : Bound values history step sample (newEpisode values step.before sample) :=
    bound_newEpisode taken
  cases known : step.before.episode with
  | none =>
    simp only [attach, known, Attachment.attached.injEq] at attached
    exact attached.1 ▸ opening
  | some former =>
    have kept := watched former known
    simp only [attach, known, kept.notWaiting] at attached
    split_ifs at attached with otherBoot otherInstance spent
    · injection attached with same _
      exact same ▸ opening
    · injection attached with same _
      subst same
      exact {
        notWaiting := kept.notWaiting
        source := rfl
        opened := by
          obtain ⟨early, first, later, started, split, snap, start, baseline, _⟩ :=
            kept.opened.append step
          exact ⟨early, first, later, started, split, snap, start, baseline,
            fun unspent => absurd (unspent.symm.trans spent.1) (by decide)⟩
        boot := not_not.mp otherBoot
        invocation := rfl
        evidence := .inl rfl }
    · injection attached with same _
      exact same ▸ opening
    · injection attached with same _
      subst same
      exact {
        notWaiting := kept.notWaiting
        source := kept.source
        opened := kept.opened.append step
        boot := not_not.mp otherBoot
        invocation := not_not.mp otherInstance
        evidence := kept.evidence }

theorem binding_of_drift {episode : Episode} (bound : Bound values history step sample episode)
    (steady : drift episode sample = none) : sample.binding = episode.binding := by
  rw [drift] at steady
  split_ifs at steady with config binary command
  have boot := bound.boot
  have invocation := bound.invocation
  rcases sample with ⟨_, ⟨_, _, _, _, _⟩, _, _, _, _, _, _, _, _, _⟩
  rcases episode with ⟨⟨_, _, _, _, _⟩, _, _, _, _, _, _, _, _, _, _, _, _, _, _⟩
  simp_all

theorem Episode.adopt_cases (episode : Episode) (values : PolicyValues) :
    episode.adopt values = episode ∨
      episode.adopt values = { episode with policy := values, bad := [] } := by
  unfold Episode.adopt
  split
  · exact .inl rfl
  · exact .inr rfl

theorem sameOrigin_adopt (episode : Episode) (values : PolicyValues) :
    SameOrigin episode (episode.adopt values) := by
  rcases episode.adopt_cases values with same | same <;> rw [same] <;>
    exact ⟨rfl, rfl, rfl, rfl, rfl⟩

theorem adopt_attempts (episode : Episode) (values : PolicyValues) :
    (episode.adopt values).attempts = episode.attempts ∧
      (episode.adopt values).phase = episode.phase ∧ (episode.adopt values).good = episode.good ∧
      (episode.adopt values).lastPost = episode.lastPost := by
  rcases episode.adopt_cases values with same | same <;> rw [same] <;> exact ⟨rfl, rfl, rfl, rfl⟩

theorem Bound.adopt {episode : Episode} (bound : Bound values history step sample episode) :
    Bound values history step sample (episode.adopt values) := by
  rcases episode.adopt_cases values with same | same
  · rw [same]
    exact bound
  · rw [same]
    exact {
      notWaiting := bound.notWaiting
      source := bound.source
      opened := bound.opened.same ⟨rfl, rfl, rfl, rfl, rfl⟩ id
      boot := bound.boot
      invocation := bound.invocation
      evidence := .inl rfl }

/-- What is saved of a bound episode is watched, if it has the evidence for it. -/
theorem Bound.watched {episode saved : Episode} (bound : Bound values history step sample episode)
    (same : SameOrigin episode saved) (attempts : saved.attempts = 0 → episode.attempts = 0)
    (source : saved.lastSource = saved.lastPost.map (·.sourceNow))
    (evidence : Evidence values (history ++ [step]) saved) :
    Watched values (history ++ [step]) saved where
  notWaiting := same.waitingOrigin.trans bound.notWaiting
  source := source
  opened := bound.opened.same same attempts
  evidence := evidence

end Attachment

/-- A finding's episode. -/
def Finding.episode : Finding → Episode
  | .ruled episode _ | .sustained episode _ => episode

section Assessment

variable {values : PolicyValues} {episode : Episode} {progressed : Bool} {sample : Sample}

/-- The snapshot was found low and added to the evidence. -/
structure Grown (values : PolicyValues) (episode : Episode) (progressed : Bool) (sample : Sample)
    (baseline : Baseline) (judged : Episode) : Prop where
  known : episode.baseline = some baseline
  grace : values.graceSec ≤ sample.mono - episode.retryStartMono.getD episode.startMono
  decoder : sample.readsbStart = baseline.readsbStart
  isLow : low values baseline sample
  still : progressed = false
  added : judged = episode.suspected baseline sample

/-- What the ladder leaves of the bad entries. -/
inductive Assessed (values : PolicyValues) (episode : Episode) (progressed : Bool)
    (sample : Sample) (judged : Episode) : Prop
  | cleared : judged.bad = [] → Assessed values episode progressed sample judged
  | noBaseline : episode.baseline = none → judged.bad = episode.bad →
      Assessed values episode progressed sample judged
  | otherDecoder (baseline : Baseline) : episode.baseline = some baseline →
      sample.readsbStart ≠ baseline.readsbStart → judged.bad = episode.bad →
      Assessed values episode progressed sample judged
  | grown (baseline : Baseline) : Grown values episode progressed sample baseline judged →
      Assessed values episode progressed sample judged

/-- What the ladder keeps; it only ever promotes to `HEALTHY`. -/
structure Judged (episode judged : Episode) : Prop where
  same : SameOrigin episode judged
  attempts : judged.attempts = episode.attempts
  good : judged.good = episode.good
  lastSource : judged.lastSource = episode.lastSource
  lastPost : judged.lastPost = episode.lastPost
  phase : judged.phase = episode.phase ∨ (judged.phase = .healthy ∧ 2 ≤ episode.good)

theorem judged_compareWith (baseline : Baseline) :
    Judged episode (compareWith values episode baseline progressed sample).episode := by
  rw [compareWith]
  split_ifs <;> exact ⟨⟨rfl, rfl, rfl, rfl, rfl⟩, rfl, rfl, rfl, rfl, .inl rfl⟩

theorem judged_assess :
    Judged episode (assess values episode progressed sample).episode := by
  rw [assess]
  split_ifs with healthy
  · exact ⟨⟨rfl, rfl, rfl, rfl, rfl⟩, rfl, rfl, rfl, rfl, .inr ⟨rfl, healthy⟩⟩
  · exact ⟨⟨rfl, rfl, rfl, rfl, rfl⟩, rfl, rfl, rfl, rfl, .inl rfl⟩
  · split
    · exact ⟨⟨rfl, rfl, rfl, rfl, rfl⟩, rfl, rfl, rfl, rfl, .inl rfl⟩
    · exact judged_compareWith _

theorem judged_of_sustained {judged : Episode} {baseline : Baseline}
    (found : assess values episode progressed sample = .sustained judged baseline) :
    Judged episode judged := by
  have kept : Judged episode (assess values episode progressed sample).episode := judged_assess
  rw [found] at kept
  exact kept

theorem assessed_assess :
    Assessed values episode progressed sample
      (assess values episode progressed sample).episode := by
  rw [assess]
  split_ifs with healthy early
  · exact .cleared rfl
  · exact .cleared rfl
  · split
    · rename_i unknown
      exact .noBaseline unknown rfl
    · rename_i baseline known
      rw [compareWith]
      split_ifs with quiet other isLow
      · exact .cleared rfl
      · exact .otherDecoder baseline known other rfl
      · exact .grown baseline ⟨known, not_lt.mp early, not_not.mp other, isLow.1, isLow.2, rfl⟩
      · exact .grown baseline ⟨known, not_lt.mp early, not_not.mp other, isLow.1, isLow.2, rfl⟩
      · exact .cleared rfl

theorem grown_of_sustained {judged : Episode} {baseline : Baseline}
    (found : assess values episode progressed sample = .sustained judged baseline) :
    Grown values episode progressed sample baseline judged ∧ sustained values judged.bad sample := by
  rw [assess] at found
  split_ifs at found with healthy early
  split at found
  · cases found
  · rename_i known
    rw [compareWith] at found
    split_ifs at found with quiet other isLow lasted
    injection found with grown same
    subst same
    subst grown
    exact ⟨⟨known, not_lt.mp early, not_not.mp other, isLow.1, isLow.2, rfl⟩, lasted⟩

end Assessment

section Processing

variable {values : PolicyValues} {history : List Step} {step : Step} {sample : Sample}
  {episode : Episode}

/-- The sample passed every exit before the ladder. -/
structure Fresh (values : PolicyValues) (episode : Episode) (sample : Sample) : Prop where
  binding : sample.binding = episode.binding
  newSource : episode.lastSource ≠ some sample.sourceNow
  forward : ∀ previous ∈ episode.lastPost, ¬ previous.movedBack sample
  sameCounters : ∀ previous ∈ episode.lastPost, ¬ previous.counterReset sample

theorem Fresh.newer (fresh : Fresh values episode sample)
    (source : episode.lastSource = episode.lastPost.map (·.sourceNow)) {previous : Sample}
    (known : episode.lastPost = some previous) : previous.sourceNow < sample.sourceNow := by
  have other : previous.sourceNow ≠ sample.sourceNow := by
    have newSource := fresh.newSource
    rw [source, known] at newSource
    exact fun same => newSource (congrArg some same)
  have forward := fresh.forward previous known
  rw [Sample.movedBack, not_or] at forward
  exact lt_of_le_of_ne (not_lt.mp forward.1) other

/-- Evidence that outlives the gap check ends in a snapshot that the new one is near to. -/
theorem evidence_advanced (bound : Bound values history step sample episode)
    (bad : (episode.advanced values sample).bad ≠ []) :
    ∃ baseline early span front last, episode.baseline = some baseline ∧
      history = early ++ span ∧
      Window values episode.binding (episode.retryStartMono.getD episode.startMono) baseline span
        (front ++ [last]) ∧
      episode.bad = (front ++ [last]).map (·.badEntry baseline) ∧ episode.lastPost = some last ∧
      gap values episode.lastPost sample = false ∧
      (episode.advanced values sample).bad = episode.bad := by
  have near : gap values episode.lastPost sample = false := by
    cases late : gap values episode.lastPost sample with
    | false => rfl
    | true => simp [Episode.advanced, late] at bad
  have same : (episode.advanced values sample).bad = episode.bad := by
    simp [Episode.advanced, near]
  rw [same] at bad
  rcases bound.evidence with none | ⟨baseline, early, span, window, known, split, held, listed, last⟩
  · exact absurd none bad
  · obtain ⟨front, final, rfl⟩ := (List.eq_nil_or_concat' window).resolve_left held.ne_nil
    rw [List.getLast?_concat] at last
    exact ⟨baseline, early, span, front, final, known, split, held, listed, last, near, same⟩

/-- A low snapshot starts a window or continues the one that is there. -/
theorem evidence_grown (taken : snapshot? step = some sample)
    (bound : Bound values history step sample episode) (fresh : Fresh values episode sample)
    {baseline : Baseline} {judged : Episode}
    (grown : Grown values (episode.advanced values sample)
      (progressing values episode.lastPost sample) sample baseline judged) :
    ∃ early span window, history ++ [step] = early ++ span ∧
      Window values judged.binding (judged.retryStartMono.getD judged.startMono) baseline span
        window ∧
      judged.bad = window.map (·.badEntry baseline) ∧ window.getLast? = some sample := by
  have lowAt : LowAt values episode.binding (episode.retryStartMono.getD episode.startMono) baseline
      sample := ⟨fresh.binding, grown.grace, grown.isLow, grown.decoder⟩
  rw [grown.added]
  by_cases bad : (episode.advanced values sample).bad = []
  · refine ⟨history, [step], [sample], rfl, .first taken lowAt, ?_, rfl⟩
    rw [Episode.suspected, bad]
    rfl
  · obtain ⟨known, early, span, front, last, baselineKnown, split, held, listed, lastPost, near,
      same⟩ := evidence_advanced bound bad
    obtain rfl : known = baseline :=
      Option.some.inj (baselineKnown.symm.trans grown.known)
    have counters := fresh.sameCounters last lastPost
    rw [Sample.counterReset, not_or] at counters
    have still := grown.still
    rw [progressing, near, lastPost] at still
    have atMost : sample.positions ≤ last.positions := by simpa using still
    have close : sample.sourceNow - last.sourceNow ≤ values.sampleMaxAgeSec := by
      rw [gap, lastPost] at near
      simpa using near
    have follows : Follows values last sample :=
      ⟨fresh.newer bound.source lastPost, close, le_antisymm atMost (not_lt.mp counters.2)⟩
    refine ⟨early, span ++ [step], front ++ [last] ++ [sample], ?_,
      .next held taken lowAt follows, ?_, List.getLast?_concat⟩
    · rw [split, List.append_assoc]
    · simp only [Episode.suspected, same, listed, List.map_append, List.map_cons, List.map_nil]

/-- Whatever the ladder rules, the evidence is that of the calls so far. -/
theorem evidence_assessed (taken : snapshot? step = some sample)
    (bound : Bound values history step sample episode) (fresh : Fresh values episode sample)
    {judged : Episode} (kept : Judged (episode.advanced values sample) judged)
    (assessed : Assessed values (episode.advanced values sample)
      (progressing values episode.lastPost sample) sample judged) :
    Evidence values (history ++ [step]) judged := by
  cases assessed with
  | cleared none => exact .inl none
  | noBaseline unknown same =>
    left
    by_contra bad
    obtain ⟨baseline, _, _, _, _, known, _⟩ := evidence_advanced bound (same ▸ bad)
    exact absurd (known.symm.trans unknown) (by simp)
  | otherDecoder baseline known other same =>
    left
    by_contra bad
    obtain ⟨held, _, _, front, last, baselineKnown, _, window, _, lastPost, _⟩ :=
      evidence_advanced bound (same ▸ bad)
    obtain rfl : held = baseline := Option.some.inj (baselineKnown.symm.trans known)
    have counters := fresh.sameCounters last lastPost
    rw [Sample.counterReset, not_or, not_not] at counters
    exact other (counters.1.trans (window.lows last (by simp)).decoder)
  | grown baseline grown =>
    obtain ⟨early, span, window, split, held, listed, ends⟩ :=
      evidence_grown taken bound fresh grown
    refine .inr ⟨baseline, early, span, window, kept.same.baseline.trans grown.known, split, held,
      listed, ?_⟩
    rw [kept.lastPost, ends]
    rfl

/-- A state that watches its episode, if it has one. -/
def WatchedState (values : PolicyValues) (history : List Step) (state : State) : Prop :=
  ∀ episode ∈ state.episode, Watched values history episode

theorem watchedState_some {state : State} (watched : Watched values history episode)
    (kept : state.episode = some episode) : WatchedState values history state := by
  intro other member
  obtain rfl : episode = other := Option.some.inj (kept.symm.trans member)
  exact watched

theorem Fresh.of_exits (bound : Bound values history step sample episode)
    (steady : drift episode sample = none) (newSource : episode.lastSource ≠ some sample.sourceNow)
    (forward : ¬ (episode.lastPost.any fun previous => previous.movedBack sample) = true)
    (sameCounters : ¬ (episode.lastPost.any fun previous => previous.counterReset sample) = true) :
    Fresh values episode sample where
  binding := binding_of_drift bound steady
  newSource := newSource
  forward := by
    intro previous known
    rw [Option.mem_def.mp known] at forward
    simpa using forward
  sameCounters := by
    intro previous known
    rw [Option.mem_def.mp known] at sameCounters
    simpa using sameCounters

/-- The ladder's episode, as it is watched. -/
theorem watched_assessed (taken : snapshot? step = some sample)
    (bound : Bound values history step sample episode) (fresh : Fresh values episode sample) :
    Watched values (history ++ [step])
      (assess values (episode.advanced values sample) (progressing values episode.lastPost sample)
        sample).episode := by
  have judged : Judged (episode.advanced values sample)
      (assess values (episode.advanced values sample)
        (progressing values episode.lastPost sample) sample).episode := judged_assess
  have same := judged.same
  refine bound.watched ⟨same.binding, same.startMono, same.retryStartMono, same.baseline,
    same.waitingOrigin⟩ (fun none => judged.attempts.symm.trans none) ?_
    (evidence_assessed taken bound fresh judged assessed_assess)
  rw [judged.lastSource, judged.lastPost]
  rfl

theorem Watched.withStatus {saved : Episode} (watched : Watched values history saved)
    (verdict : Verdict) : Watched values history { saved with status := some verdict } :=
  ⟨watched.notWaiting, watched.source, watched.opened, watched.evidence⟩

theorem Watched.reserved {saved : Episode} (watched : Watched values history saved) :
    Watched values history saved.reserved where
  notWaiting := watched.notWaiting
  source := watched.source
  opened := watched.opened.same ⟨rfl, rfl, rfl, rfl, rfl⟩ fun none => by cases none
  evidence := .inl rfl

theorem Watched.answered {saved : Episode} (watched : Watched values history saved)
    (answer : Except String Int) : Watched values history (saved.answered answer) := by
  cases answer <;> exact ⟨watched.notWaiting, watched.source, watched.opened, watched.evidence⟩

theorem saves_recover (state : State) (judged : Episode) (restarted : Except String Int) :
    saves (recover values state judged sample restarted) =
      [state.reserve judged sample,
        (state.reserve judged sample).withEpisode (judged.reserved.answered restarted),
        (state.reserve judged sample).finished values (judged.reserved.answered restarted) sample
          ⟨(judged.reserved.answered restarted).phase.text,
            "recovery attempt consumed; awaiting observed reception", true, false⟩] := rfl

/-- What a collapse that lasted leads to saves the judged episode, or spends its attempt. -/
theorem saved_of_conclude {state saved : State} {judged : Episode} {baseline : Baseline}
    {reading : Reading}
    (member : saved ∈ saves (conclude values state judged baseline sample reading)) :
    (∃ verdict, saved = state.finished values judged sample verdict) ∨
      (withheld values state judged sample reading.allowEffect = none ∧
        saved ∈ saves (recover values state judged sample reading.restarted)) := by
  rw [conclude] at member
  split at member
  · rw [saves_finish, List.mem_singleton] at member
    exact .inl ⟨_, member⟩
  · rename_i granted
    split at member
    · cases member
    · split at member
      · rw [saves_finish, List.mem_singleton] at member
        exact .inl ⟨_, member⟩
      · exact .inr ⟨granted, member⟩

/-- Reading the last snapshot again, or sources older than the process, keeps the window. -/
theorem evidence_passed (taken : snapshot? step = some sample)
    (bound : Bound values history step sample episode) (binding : sample.binding = episode.binding)
    (passed : sample.preStart ∨ episode.lastSource = some sample.sourceNow) :
    Evidence values (history ++ [step]) episode := by
  rcases bound.evidence with none | ⟨baseline, early, span, window, known, split, held, rest⟩
  · exact .inl none
  · refine .inr ⟨baseline, early, span ++ [step], window, known, ?_, ?_, rest⟩
    · rw [split, List.append_assoc]
    · rcases passed with stale | same
      · exact held.preStart taken binding stale
      · obtain ⟨front, last, rfl⟩ := (List.eq_nil_or_concat' window).resolve_left held.ne_nil
        rw [bound.source, rest.2, List.getLast?_concat] at same
        exact held.reread taken binding (Option.some.inj same).symm

/-- The states that the examination of a sample can save. -/
inductive Examined (values : PolicyValues) (state : State) (episode : Episode) (sample : Sample)
    (reading : Reading) : State → Prop
  | drifted : Examined values state episode sample reading
      (state.withEpisode { episode with bad := [] })
  | passed : drift episode sample = none →
      sample.preStart ∨ (episode.adopt values).lastSource = some sample.sourceNow →
      Examined values state episode sample reading (state.withEpisode (episode.adopt values))
  | backwards (status : Option Verdict) : Examined values state episode sample reading
      (state.withEpisode { episode.adopt values with bad := [], good := 0, status := status })
  | reset : Examined values state episode sample reading (state.withEpisode
      { episode.adopt values with
        bad := [], good := 0, lastSource := some sample.sourceNow, lastPost := some sample })
  | judged (verdict : Verdict) : Fresh values (episode.adopt values) sample →
      Examined values state episode sample reading
        (state.finished values (assess values ((episode.adopt values).advanced values sample)
          (progressing values (episode.adopt values).lastPost sample) sample).episode sample verdict)
  | spent (judged : Episode) (baseline : Baseline) (saved : State) :
      Fresh values (episode.adopt values) sample →
      assess values ((episode.adopt values).advanced values sample)
        (progressing values (episode.adopt values).lastPost sample) sample =
        .sustained judged baseline →
      withheld values state judged sample reading.allowEffect = none →
      saved ∈ saves (recover values state judged sample reading.restarted) →
      Examined values state episode sample reading saved

theorem Examined.ruled {state : State} {reading : Reading} {judged : Episode} (verdict : Verdict)
    (fresh : Fresh values (episode.adopt values) sample)
    (found : (assess values ((episode.adopt values).advanced values sample)
      (progressing values (episode.adopt values).lastPost sample) sample).episode = judged) :
    Examined values state episode sample reading (state.finished values judged sample verdict) :=
  found ▸ .judged verdict fresh

theorem examined_of_saved (bound : Bound values history step sample episode) {state saved : State}
    {reading : Reading}
    (member : saved ∈ saves (examine values state episode sample reading)) :
    Examined values state episode sample reading saved := by
  rw [examine] at member
  split at member
  · rw [saves_settle, List.mem_singleton] at member
    exact member ▸ .drifted
  · rename_i steady
    have stillSteady : drift (episode.adopt values) sample = none := by
      rw [drift, (sameOrigin_adopt episode values).binding]
      exact steady
    dsimp only at member
    split_ifs at member with stale again backwards reset
    · rw [saves_settle, List.mem_singleton] at member
      exact member ▸ .passed steady (.inl stale)
    · rw [saves_settle, List.mem_singleton] at member
      exact member ▸ .passed steady (.inr again)
    · rw [saves_settle, List.mem_singleton] at member
      exact member ▸ .backwards _
    · rw [saves_settle, List.mem_singleton] at member
      exact member ▸ .reset
    · have fresh := Fresh.of_exits bound.adopt stillSteady again backwards reset
      rw [process] at member
      split at member
      · rename_i judged verdict found
        rw [saves_finish, List.mem_singleton] at member
        exact member ▸ .ruled verdict fresh (congrArg Finding.episode found)
      · rename_i judged baseline found
        rcases saved_of_conclude member with ⟨verdict, rfl⟩ | ⟨granted, member⟩
        · exact .ruled verdict fresh (congrArg Finding.episode found)
        · exact .spent judged baseline saved fresh found granted member

/-- Whatever `observe` saves of a bound episode is watched. -/
theorem watched_examine (taken : snapshot? step = some sample)
    (bound : Bound values history step sample episode) {state saved : State} {reading : Reading}
    (examined : Examined values state episode sample reading saved) :
    WatchedState values (history ++ [step]) saved := by
  have adopted := bound.adopt
  cases examined with
  | drifted =>
    refine watchedState_some ?_ rfl
    exact bound.watched ⟨rfl, rfl, rfl, rfl, rfl⟩ id bound.source (.inl rfl)
  | passed steady passed =>
    have binding := (binding_of_drift bound steady).trans
      (sameOrigin_adopt episode values).binding.symm
    exact watchedState_some (adopted.watched ⟨rfl, rfl, rfl, rfl, rfl⟩ id adopted.source
      (evidence_passed taken adopted binding passed)) rfl
  | backwards status =>
    refine watchedState_some ?_ rfl
    exact adopted.watched ⟨rfl, rfl, rfl, rfl, rfl⟩ id adopted.source (.inl rfl)
  | reset =>
    refine watchedState_some ?_ rfl
    exact adopted.watched ⟨rfl, rfl, rfl, rfl, rfl⟩ id rfl (.inl rfl)
  | judged verdict fresh =>
    exact watchedState_some ((watched_assessed taken adopted fresh).withStatus verdict) rfl
  | spent judged baseline saved fresh found granted member =>
    have watched := watched_assessed taken adopted fresh
    rw [found] at watched
    rw [saves_recover] at member
    simp only [List.mem_cons, List.not_mem_nil, or_false] at member
    rcases member with rfl | rfl | rfl
    · exact watchedState_some watched.reserved rfl
    · exact watchedState_some (watched.reserved.answered _) rfl
    · exact watchedState_some ((watched.reserved.answered _).withStatus _) rfl

end Processing

/-- What a call can leave durable: the state before it, the evidence dropped after a failed
observation, or a state that the examination of a sample saves. -/
inductive Left (values : PolicyValues) (step : Step) : State → Prop
  | lost : recorded step = false → Left values step step.before
  | unobserved : recorded step = true → snapshot? step = none →
      Left values step { step.before with episode := step.before.episode.map Episode.unobserved }
  | examined (sample : Sample) (episode : Episode) (rows : List Event) (saved : State) :
      snapshot? step = some sample → attach values step.before sample = .attached episode rows →
      saved ∈ saves (examine values step.before episode sample step.event.reading) →
      Left values step saved

theorem left_turn (policy : Policy) (state : State) (event : Turn) :
    Left policy.values (take (turn policy) state event) (turn policy state event).1 := by
  rcases turn_cases policy state event with ⟨nothing, same⟩ | member
  · rw [same]
    refine .lost ?_
    rw [recorded, take, nothing]
    rfl
  · have saved := saved_of_turn member
    have wrote : recorded (take (turn policy) state event) = true := by
      rw [recorded, take]
      cases found : saves (turn policy state event).2 with
      | nil => simp [found] at member
      | cons _ _ => rfl
    have reads : snapshot? (take (turn policy) state event) =
        event.reading.collected.toOption := if_pos wrote
    rw [observe] at saved
    split at saved
    · rename_i failed
      simp only [saves, List.filterMap_cons, List.filterMap_nil, List.mem_singleton] at saved
      rw [saved]
      refine .unobserved wrote ?_
      rw [reads, failed]
      rfl
    · rename_i sample read
      have taken : snapshot? (take (turn policy) state event) = some sample := by
        rw [reads, read]
        rfl
      split at saved
      · cases saved
      · rename_i episode rows attached
        rw [saves_append, saves_events, List.nil_append] at saved
        exact .examined sample episode rows _ taken attached saved

/-- One call keeps the episode watched, wherever it was cut short. -/
theorem watched_left {values : PolicyValues} {history : List Step} {step : Step} {state : State}
    (watched : WatchedState values history step.before) (left : Left values step state) :
    WatchedState values (history ++ [step]) state := by
  cases left with
  | lost nothing => exact fun episode known => (watched episode known).unrecorded nothing
  | unobserved wrote failed =>
    intro episode known
    obtain ⟨former, held, rfl⟩ := Option.map_eq_some_iff.mp known
    have kept := watched former held
    exact ⟨kept.notWaiting, rfl, (kept.opened.append _).same ⟨rfl, rfl, rfl, rfl, rfl⟩ id, .inl rfl⟩
  | examined sample episode rows saved taken attached member =>
    have bound := bound_of_attach taken watched attached
    exact watched_examine taken bound (examined_of_saved bound member)

end LiveStream.Reception

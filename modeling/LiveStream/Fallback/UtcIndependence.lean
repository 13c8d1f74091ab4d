import LiveStream.Fallback.UtcDiagnostics

/-! UTC neither holds the backup up nor takes it down: two runs of the loop that read
the same but for UTC confirm the same progress and stop at the same polls. -/

namespace LiveStream.Fallback

open LiveStream.Support

/-- The sample with a label that is never found stale. -/
def Sample.renewed (sample : Sample) : Sample :=
  { sample with
    route := sample.route.map fun route =>
      { route with copyUpdatedAt := "", copyObservationNew := true } }

@[simp] theorem Sample.yt_unlabelled (sample : Sample) : sample.unlabelled.yt = sample.yt := rfl

@[simp] theorem Sample.yt_renewed (sample : Sample) : sample.renewed.yt = sample.yt := rfl

@[simp] theorem Sample.boottime_unlabelled (sample : Sample) :
    sample.unlabelled.boottime = sample.boottime := rfl

@[simp] theorem Sample.boottime_renewed (sample : Sample) :
    sample.renewed.boottime = sample.boottime := rfl

theorem Sample.renewed_unlabelled (sample : Sample) :
    sample.unlabelled.renewed = sample.renewed := by
  cases route : sample.route <;> simp [Sample.unlabelled, Sample.renewed, route]

theorem Sample.renewed_of_unlabelled {left right : Sample}
    (same : left.unlabelled = right.unlabelled) : left.renewed = right.renewed := by
  rw [← left.renewed_unlabelled, same, right.renewed_unlabelled]

/-- A counter that is there and whose check passes advances. -/
theorem counterCheck_advances {optional : Bool} {current before : Option Int} {new : Int}
    {reason : String} {checks : List (Bool × String)} (there : current = some new)
    (checked : counterCheck optional current before reason = .ok checks)
    (passed : ∀ check ∈ checks, check.1 = true) : advances current before = true := by
  subst there
  unfold counterCheck at checked
  split_ifs at checked with missing invalid regressed
  · simp at missing
  · cases checked
    have grown := passed _ (List.mem_singleton_self _)
    simp only [not_or, Bool.not_eq_false] at invalid
    rw [advances, invalid.1, invalid.2]
    exact grown

/-- Confirmed progress is progress of every counter. -/
theorem Sample.confirm_advances {sample prev : Sample} {counters : List (Bool × String)}
    {resumed : Bool} {outbound video audio : Int} (output : sample.yt.outbound = some outbound)
    (videoPackets : sample.yt.videoPackets = some video)
    (audioPackets : sample.yt.audioPackets = some audio)
    (counted : counterChecks sample.yt prev.yt = .ok counters)
    (progress : (sample.confirm (inputChecks sample prev ++ counters) resumed).routeProgress =
      true) :
    advances sample.yt.outbound prev.yt.outbound = true ∧
      advances sample.yt.videoPackets prev.yt.videoPackets = true ∧
      advances sample.yt.audioPackets prev.yt.audioPackets = true := by
  unfold Sample.confirm at progress
  cases failing : (inputChecks sample prev ++ counters).find? fun check => !check.1 with
  | some check => simp [failing, Assessment.failed] at progress
  | none =>
    have passed : ∀ check ∈ inputChecks sample prev ++ counters, check.1 = true := by
      simpa using List.find?_eq_none.mp failing
    simp only [counterChecks, bind_eq_ok, pure_eq_ok] at counted
    obtain ⟨outputs, outputChecked, videos, videoChecked, audios, audioChecked, rfl⟩ := counted
    refine ⟨counterCheck_advances output outputChecked fun check member => ?_,
      counterCheck_advances videoPackets videoChecked fun check member => ?_,
      counterCheck_advances audioPackets audioChecked fun check member => ?_⟩
    · exact passed check (by simp [member])
    · exact passed check (by simp [member])
    · exact passed check (by simp [member])

/-- Two assessments that confirm the same progress. -/
def SameProgress (left right : Assessment) : Prop :=
  left.routeProgress = right.routeProgress ∧ (left.health = .healthy ↔ right.health = .healthy)

/-- Without confirmed progress nothing is healthy. -/
theorem sameProgress_of_none {left right : Assessment} (coherent : left.Coherent)
    (coherent' : right.Coherent) (first : left.routeProgress = false)
    (second : right.routeProgress = false) : SameProgress left right := by
  refine ⟨first.trans second.symm, ?_, ?_⟩
  · intro healthy
    rw [coherent.healthy healthy] at first
    cases first
  · intro healthy
    rw [coherent'.healthy healthy] at second
    cases second

/-- A route breaks the same without its label, or only because that label is stale. -/
theorem routeBreak_renewed (sample prev : Sample) :
    routeBreak sample prev = routeBreak sample.renewed prev.unlabelled ∨
      routeBreak sample prev = some "copy_stale" ∧
        ∀ route, sample.route = some route → route.copyObservationFresh = true →
          ¬(advances sample.yt.outbound prev.yt.outbound = true ∧
            advances sample.yt.videoPackets prev.yt.videoPackets = true ∧
            advances sample.yt.audioPackets prev.yt.audioPackets = true) := by
  have renewed : sample.renewed.route = sample.route.map fun route =>
    { route with copyUpdatedAt := "", copyObservationNew := true } := rfl
  have unlabelled : prev.unlabelled.route = prev.route.map fun route =>
    { route with copyUpdatedAt := "" } := rfl
  unfold routeBreak
  rw [renewed, unlabelled]
  cases current : sample.route with
  | none => exact Or.inl rfl
  | some route =>
    cases earlier : prev.route with
    | none => exact Or.inl rfl
    | some before =>
      simp only [Option.map_some, Sample.boottime_renewed, Sample.boottime_unlabelled,
        Bool.true_eq_false, false_and, and_false, if_false]
      by_cases identity : route.identity ≠ before.identity
      · simp only [if_pos identity, true_or]
      by_cases source : ¬(0 < route.sourceMonotonic - before.sourceMonotonic ∧
          route.sourceMonotonic - before.sourceMonotonic ≤ MAX_SAMPLE_GAP)
      · simp only [if_neg identity, if_pos source, true_or]
      by_cases received : ¬(0 < sample.boottime - prev.boottime ∧
          sample.boottime - prev.boottime ≤ MAX_SAMPLE_GAP)
      · simp only [if_neg identity, if_neg source, if_pos received, true_or]
      simp only [if_neg identity, if_neg source, if_neg received]
      by_cases stale : route.copyUpdatedAt = before.copyUpdatedAt ∧
          route.copyObservationNew = false ∧ ¬(route.copyObservationFresh = true ∧
            advances sample.yt.outbound prev.yt.outbound = true ∧
            advances sample.yt.videoPackets prev.yt.videoPackets = true ∧
            advances sample.yt.audioPackets prev.yt.audioPackets = true)
      · rw [if_pos stale]
        refine Or.inr ⟨rfl, fun other found fresh advancing => ?_⟩
        cases found
        exact stale.2.2 ⟨fresh, advancing⟩
      · rw [if_neg stale]
        exact Or.inl rfl

/-- For a live sample of the facts producer the label decides nothing. -/
theorem Sample.compare_renewed {sample : Sample} (prev : Sample) (bound : sample.Bound)
    (live : sample.ready = true) (resumed : Bool) :
    SameProgress (sample.compare prev resumed)
      (sample.renewed.compare prev.unlabelled resumed) := by
  obtain ⟨route, outbound, video, audio, found, fresh, output, videoPackets, audioPackets⟩ :=
    bound live
  rcases routeBreak_renewed sample prev with same | ⟨stale, stalled⟩
  · unfold Sample.compare
    rw [same]
    exact ⟨rfl, Iff.rfl⟩
  · have lost : (sample.compare prev resumed).routeProgress = false := by
      simp [Sample.compare, stale, Assessment.lost]
    refine sameProgress_of_none (Sample.compare_coherent ..) (Sample.compare_coherent ..) lost ?_
    by_contra progress
    rw [Bool.not_eq_false] at progress
    unfold Sample.compare at progress
    cases broken : routeBreak sample.renewed prev.unlabelled with
    | some reason => simp [broken, Assessment.lost] at progress
    | none =>
      simp only [broken, Sample.yt_renewed, Sample.yt_unlabelled] at progress
      cases counted : counterChecks sample.yt prev.yt with
      | error reason => simp [counted, Assessment.lost] at progress
      | ok counters =>
        simp only [counted] at progress
        exact stalled route found fresh
          (Sample.confirm_advances output videoPackets audioPackets counted progress)

/-- Live samples that differ in their labels only confirm the same progress. -/
theorem Sample.compare_sameProgress {left right prev prev' : Sample}
    (same : left.unlabelled = right.unlabelled) (earlier : prev.unlabelled = prev'.unlabelled)
    (bound : left.Bound) (bound' : right.Bound) (live : left.ready = true) (resumed : Bool) :
    SameProgress (left.compare prev resumed) (right.compare prev' resumed) := by
  have ready : right.ready = true := by
    rw [← live]
    exact (congrArg Sample.ready same).symm
  have first := Sample.compare_renewed prev bound live resumed
  have second := Sample.compare_renewed prev' bound' ready resumed
  rw [Sample.renewed_of_unlabelled same, earlier] at first
  exact ⟨first.1.trans second.1.symm, first.2.trans second.2.symm⟩

/-- What one round of `main` reads on the facts path: one observation, a second one if
the first has aged, the witness, the clocks and the guard. -/
structure FactsPoll where
  first : FactsExchange
  recheck : ℚ
  second : FactsExchange
  witness : Witness
  now : ℚ
  replicas : Option Int
  inhibited : Bool
  utcNow : String

/-- The samples of a round of `main`, observed again where the first is over 5 seconds old. -/
def FactsPoll.observed (poll : FactsPoll) (settings : Settings)
    (fromisoformat : String → IsoReading) : Option Sample × String :=
  let (value, reason) := observe settings fromisoformat poll.first
  match value with
  | none => (none, reason)
  | some sample =>
    if 5 < poll.recheck - sample.boottime then observe settings fromisoformat poll.second
    else (some sample, reason)

def FactsPoll.toPoll (poll : FactsPoll) (settings : Settings)
    (fromisoformat : String → IsoReading) : Poll where
  sample := (poll.observed settings fromisoformat).1
  observationReason := (poll.observed settings fromisoformat).2
  witness := poll.witness
  now := poll.now
  replicas := poll.replicas
  inhibited := poll.inhibited
  utcNow := poll.utcNow

/-- What a round reads, without UTC. -/
def FactsPoll.withoutUtc (poll : FactsPoll) : FactsPoll :=
  { poll with
    first := poll.first.withoutUtc
    second := poll.second.withoutUtc
    utcNow := "" }

def FactsPoll.WellTyped (poll : FactsPoll) : Prop :=
  poll.first.WellTyped ∧ poll.second.WellTyped

/-- What `observe` gives is bound. -/
theorem observe_bound (settings : Settings) (fromisoformat : String → IsoReading)
    (exchange : FactsExchange) {sample : Sample}
    (given : (observe settings fromisoformat exchange).1 = some sample) : sample.Bound := by
  have copied : ∀ (value : Value) (started completed : Instant),
      (sampleOfFacts settings value exchange started completed).1 = some sample →
        sample.OfCopyRoute := by
    intro value started completed found
    unfold sampleOfFacts at found
    dsimp only at found
    split at found
    · exact ⟨_, _, _, _, _, found⟩
    all_goals cases found
  unfold observe at given
  split at given
  · cases given
  · cases given
  · cases given
  · rename_i started completed value
    split at given
    · exact (copied _ _ _ given).bound
    · split at given
      · exact (copied _ _ _ given).bound
      · cases given

section Rounds

variable (settings : Settings) (fromisoformat : String → IsoReading)

theorem FactsPoll.observed_bound (poll : FactsPoll) {sample : Sample}
    (given : (poll.observed settings fromisoformat).1 = some sample) : sample.Bound := by
  unfold FactsPoll.observed at given
  cases first : observe settings fromisoformat poll.first with
  | mk value reason =>
    rw [first] at given
    cases value with
    | none => cases given
    | some other =>
      simp only at given
      split at given
      · exact observe_bound settings fromisoformat poll.second given
      · cases given
        exact observe_bound settings fromisoformat poll.first (congrArg Prod.fst first)

variable {left right : FactsPoll} (same : left.withoutUtc = right.withoutUtc)
variable (typed : left.WellTyped) (typed' : right.WellTyped)
include same typed typed'

theorem FactsPoll.observed_related :
    SameObservation (left.observed settings fromisoformat)
      (right.observed settings fromisoformat) := by
  have firstSame : left.first.withoutUtc = right.first.withoutUtc := by
    simpa only [FactsPoll.withoutUtc] using congrArg FactsPoll.first same
  have secondSame : left.second.withoutUtc = right.second.withoutUtc := by
    simpa only [FactsPoll.withoutUtc] using congrArg FactsPoll.second same
  have recheck : left.recheck = right.recheck := by
    simpa only [FactsPoll.withoutUtc] using congrArg FactsPoll.recheck same
  have first := observe_related firstSame settings fromisoformat fromisoformat typed.1 typed'.1
  have second := observe_related secondSame settings fromisoformat fromisoformat typed.2 typed'.2
  unfold FactsPoll.observed
  cases given : observe settings fromisoformat left.first with
  | mk value reason =>
    cases other : observe settings fromisoformat right.first with
    | mk value' reason' =>
      rw [given, other] at first
      cases value with
      | none =>
        cases value' with
        | none => rfl
        | some _ => cases first
      | some sample =>
        cases value' with
        | none => cases first
        | some sample' =>
          have unlabelled : sample.unlabelled = sample'.unlabelled := Option.some.inj first
          have boottime : sample.boottime = sample'.boottime := by
            simpa only [Sample.boottime_unlabelled] using congrArg Sample.boottime unlabelled
          simp only [recheck, boottime]
          split
          · exact second
          · exact first

end Rounds

/-- Two loops whose baselines differ in a label only, with the same healthy window and
deadline. -/
structure SameLoop (left right : LoopState) : Prop where
  last : left.controller.last.map Sample.unlabelled = right.controller.last.map Sample.unlabelled
  gap : left.controller.observationGap = right.controller.observationGap
  healthySince : left.controller.healthySince = right.controller.healthySince
  deadline : left.deadline = right.deadline

/-- Two rounds that read the same but for a label and the label of a reset. -/
structure SamePoll (left right : Poll) : Prop where
  sample : left.sample.map Sample.unlabelled = right.sample.map Sample.unlabelled
  bound : ∀ sample, left.sample = some sample → sample.Bound
  bound' : ∀ sample, right.sample = some sample → sample.Bound
  witness : left.witness = right.witness
  now : left.now = right.now
  replicas : left.replicas = right.replicas
  inhibited : left.inhibited = right.inhibited

/-- The decisions that UTC must not touch. -/
structure SameOutcome (left right : Outcome) : Prop where
  routeProgress : left.routeProgress = right.routeProgress
  healthy : left.healthy = right.healthy
  stop : left.action = some .stop ↔ right.action = some .stop
  uncertainty : left.uncertainty = right.uncertainty

/-- The witness overrules both of two controllers with the same progress, or none. -/
theorem Controller.combineTransport_agree {left right : Controller} (witness : Witness)
    (progress : left.routeProgress = right.routeProgress)
    (healthy : left.health = .healthy ↔ right.health = .healthy) :
    (left.combineTransport witness).1.routeProgress =
        (right.combineTransport witness).1.routeProgress ∧
      (left.combineTransport witness).2 = (right.combineTransport witness).2 := by
  unfold Controller.combineTransport Controller.combined
  by_cases overruled : witness.status = .stopped ∧ right.routeProgress = false
  · have overruled' : witness.status = .stopped ∧ left.routeProgress = false := by
      rw [progress]
      exact overruled
    rw [if_pos overruled, if_pos overruled']
    exact ⟨rfl, rfl⟩
  · have kept : ¬(witness.status = .stopped ∧ left.routeProgress = false) := by
      rw [progress]
      exact overruled
    rw [if_neg overruled, if_neg kept]
    exact ⟨progress, decide_eq_decide.mpr healthy⟩

section Loops

variable {left right : LoopState} {poll poll' : Poll}
variable (loops : SameLoop left right) (polls : SamePoll poll poll')
include loops polls

theorem SameLoop.assess :
    SameProgress (left.controller.assess poll.sample poll.observationReason)
      (right.controller.assess poll'.sample poll'.observationReason) := by
  have samples := polls.sample
  have lasts := loops.last
  cases given : poll.sample with
  | none =>
    rw [given] at samples
    cases given' : poll'.sample with
    | none => exact ⟨rfl, by simp [Controller.assess]⟩
    | some _ => rw [given'] at samples; cases samples
  | some sample =>
    rw [given] at samples
    cases given' : poll'.sample with
    | none => rw [given'] at samples; cases samples
    | some sample' =>
      rw [given'] at samples
      have unlabelled : sample.unlabelled = sample'.unlabelled := Option.some.inj samples
      have ready : sample.ready = sample'.ready := by
        simpa only [Sample.unlabelled] using congrArg Sample.ready unlabelled
      unfold Controller.assess
      cases live : sample.ready with
      | false =>
        simp only [← ready, live, if_true]
        exact ⟨rfl, by simp [Assessment.failed]⟩
      | true =>
        simp only [← ready, live, Bool.true_eq_false, if_false]
        cases baseline : left.controller.last with
        | none =>
          rw [baseline] at lasts
          cases baseline' : right.controller.last with
          | none => exact ⟨rfl, Iff.rfl⟩
          | some _ => rw [baseline'] at lasts; cases lasts
        | some prev =>
          rw [baseline] at lasts
          cases baseline' : right.controller.last with
          | none => rw [baseline'] at lasts; cases lasts
          | some prev' =>
            rw [baseline'] at lasts
            rw [loops.gap]
            exact Sample.compare_sameProgress unlabelled (Option.some.inj lasts)
              (polls.bound sample given) (polls.bound' sample' given') live _

/-- The witness overrules both assessments, or none. -/
theorem SameLoop.observed :
    (left.observed poll).1.routeProgress = (right.observed poll').1.routeProgress ∧
      (left.observed poll).2 = (right.observed poll').2 := by
  obtain ⟨progress, healthy⟩ := loops.assess polls
  unfold LoopState.observed
  rw [polls.witness]
  exact Controller.combineTransport_agree poll'.witness progress healthy

/-- One round keeps two loops alike, and decides the same about stopping. -/
theorem SameLoop.round :
    SameLoop (left.poll poll).1 (right.poll poll').1 ∧
      SameOutcome (left.poll poll).2 (right.poll poll').2 := by
  obtain ⟨progress, healthy⟩ := loops.observed polls
  have ⟨last, gap⟩ := left.observed_last poll
  have ⟨last', gap'⟩ := right.observed_last poll'
  have since := (left.observed_since poll).1
  have since' := (right.observed_since poll').1
  have deadlines : left.deadline.observe poll.now (left.observed poll).1.routeProgress poll.inhibited
      = right.deadline.observe poll'.now (right.observed poll').1.routeProgress poll'.inhibited := by
    rw [loops.deadline, polls.now, progress, polls.inhibited]
  have kept := Controller.decide_last (left.observed poll).1 poll.now (left.observed poll).2
    poll.replicas poll.inhibited (left.poll poll).2.uncertainty poll.utcNow
  have kept' := Controller.decide_last (right.observed poll').1 poll'.now (right.observed poll').2
    poll'.replicas poll'.inhibited (right.poll poll').2.uncertainty poll'.utcNow
  have timer := Controller.decide_healthySince (left.observed poll).1 poll.now
    (left.observed poll).2 poll.replicas poll.inhibited (left.poll poll).2.uncertainty poll.utcNow
  have timer' := Controller.decide_healthySince (right.observed poll').1 poll'.now
    (right.observed poll').2 poll'.replicas poll'.inhibited (right.poll poll').2.uncertainty
    poll'.utcNow
  have stop := Controller.decide_stop_iff (left.observed poll).1 poll.now (left.observed poll).2
    poll.replicas poll.inhibited (left.poll poll).2.uncertainty poll.utcNow
  have stop' := Controller.decide_stop_iff (right.observed poll').1 poll'.now
    (right.observed poll').2 poll'.replicas poll'.inhibited (right.poll poll').2.uncertainty
    poll'.utcNow
  have samples : (poll.sample.or left.controller.last).map Sample.unlabelled =
      (poll'.sample.or right.controller.last).map Sample.unlabelled := by
    rw [Option.map_or, Option.map_or, polls.sample, loops.last]
  have missing : poll.sample.isNone = poll'.sample.isNone := by
    have given := congrArg Option.isNone polls.sample
    simpa only [Option.isNone_map] using given
  refine ⟨⟨?_, ?_, ?_, congrArg Prod.fst deadlines⟩,
    ⟨progress, healthy, ?_, congrArg Prod.snd deadlines⟩⟩
  · exact (congrArg (Option.map Sample.unlabelled) (kept.1.trans last)).trans
      (samples.trans (congrArg (Option.map Sample.unlabelled) (kept'.1.trans last')).symm)
  · exact (kept.2.trans gap).trans (missing.trans (kept'.2.trans gap').symm)
  · refine timer.trans (Eq.trans ?_ timer'.symm)
    rw [since, since', loops.healthySince, polls.inhibited, healthy, polls.now]
  · refine stop.trans (Iff.trans ?_ stop'.symm)
    rw [since, since', loops.healthySince, polls.inhibited, healthy, polls.now, polls.replicas]

end Loops

theorem FactsPoll.samePoll (settings : Settings) (fromisoformat : String → IsoReading)
    {left right : FactsPoll} (same : left.withoutUtc = right.withoutUtc)
    (typed : left.WellTyped) (typed' : right.WellTyped) :
    SamePoll (left.toPoll settings fromisoformat) (right.toPoll settings fromisoformat) := by
  have witness : left.witness = right.witness := by
    simpa only [FactsPoll.withoutUtc] using congrArg FactsPoll.witness same
  have now : left.now = right.now := by
    simpa only [FactsPoll.withoutUtc] using congrArg FactsPoll.now same
  have replicas : left.replicas = right.replicas := by
    simpa only [FactsPoll.withoutUtc] using congrArg FactsPoll.replicas same
  have inhibited : left.inhibited = right.inhibited := by
    simpa only [FactsPoll.withoutUtc] using congrArg FactsPoll.inhibited same
  exact ⟨FactsPoll.observed_related settings fromisoformat same typed typed',
    fun _ given => left.observed_bound settings fromisoformat given,
    fun _ given => right.observed_bound settings fromisoformat given,
    witness, now, replicas, inhibited⟩

/-- The polls of a run of the facts path. -/
def factsPolls (settings : Settings) (fromisoformat : String → IsoReading)
    (reads : ℕ → FactsPoll) (n : ℕ) : Poll := (reads n).toPoll settings fromisoformat

/-- Two runs that read the same but for well-typed UTC agree at every poll on progress,
health, STOP and the deadline. -/
theorem utc_independent (settings : Settings) (fromisoformat : String → IsoReading)
    (left right : ℕ → FactsPoll) (same : ∀ n, (left n).withoutUtc = (right n).withoutUtc)
    (typed : ∀ n, (left n).WellTyped) (typed' : ∀ n, (right n).WellTyped) (n : ℕ) :
    SameOutcome (outcomeAt (factsPolls settings fromisoformat left) n)
      (outcomeAt (factsPolls settings fromisoformat right) n) := by
  have polls : ∀ k, SamePoll (factsPolls settings fromisoformat left k)
      (factsPolls settings fromisoformat right k) :=
    fun k => FactsPoll.samePoll settings fromisoformat (same k) (typed k) (typed' k)
  have loops : SameLoop (loopAt (factsPolls settings fromisoformat left) n)
      (loopAt (factsPolls settings fromisoformat right) n) :=
    stateBefore_related SameLoop ⟨rfl, rfl, rfl, rfl⟩
      (fun k _ _ alike => (alike.round (polls k)).1) n
  exact (loops.round (polls n)).2

/-- The n-th answer of a steady route whose host has the given wall clock and labels. -/
def labelledFacts (wall : Int) (label : String) (n : ℕ) : Value :=
  .dict [("schema", .str "stream_v3.route_facts.v1"),
    ("clock", .dict [("schema", .str SCHEMA), ("nonce", .str "0123456789abcdef0123456789abcdef"),
      ("machine_id_sha256", .str (String.ofList (List.replicate 64 'a'))), ("boot_id", .str "boot"),
      ("received", .dict [("wall", .int wall), ("mono", .int (45 * n))]),
      ("sent", .dict [("wall", .int wall), ("mono", .int (45 * n))])]),
    ("relay", .dict [("schema", .str "stream.relay_raw.v1"), ("host_id", .str "relay-host"),
      ("machine_id_sha256", .str (String.ofList (List.replicate 64 'a'))),
      ("observed_at", .str label), ("boot_id", .str "boot"),
      ("monotonic_seconds", .int (45 * n)), ("observed_boottime_seconds", .int (45 * n)),
      ("relay", .dict [("active", .bool true), ("pid", .int 7)]),
      ("input", .dict [("ready", .bool true), ("available", .bool true),
        ("connection_id", .str "connection"), ("bytes", .int (10 * n))]),
      ("destinations", .dict [("youtube", .dict [("id", .str (copyIdentity 8 1)),
        ("state", .str "forwarding")])])]),
    ("youtube_copy", .dict [("schema", .str "stream_v3.youtube_forward.v1"),
      ("boot_id", .str "boot"),
      ("destination_fingerprint", .str (String.ofList (List.replicate 64 'b'))),
      ("state", .str "FLOWING"), ("pid", .int 8), ("session", .int 1),
      ("updated_at", .str label), ("last_progress_at", .str label),
      ("output_bytes", .int (10 * n)), ("video_packets", .int n), ("audio_packets", .int n)]),
    ("copy_observation", .dict [("schema", .str "stream_v3.copy_observation.v1"),
      ("age_seconds", .int 1), ("confirmed", .bool true), ("new_observation", .bool false)])]

/-- What the n-th round reads when the wall clocks of both hosts say `wall`. -/
def labelledExchange (wall : Int) (label : String) (n : ℕ) : FactsExchange where
  started := ⟨45 * n, wall, 45 * n⟩
  nonce := "0123456789abcdef0123456789abcdef"
  fetched := .ok (labelledFacts wall label n)
  completed := ⟨45 * n, wall, 45 * n⟩
  modelReading := ⟨45 * n, wall, 45 * n⟩
  sourceReading := ⟨45 * n, wall, 45 * n⟩
  copyReading := ⟨45 * n, wall, 45 * n⟩
  progressReading := ⟨45 * n, wall, 45 * n⟩
  received := 45 * n
  boottime := 45 * n

def labelledReads (wall : Int) (label : String) (n : ℕ) : FactsPoll where
  first := labelledExchange wall label n
  recheck := 45 * n
  second := labelledExchange wall label n
  witness := ⟨.flowing, "local_ack_advancing"⟩
  now := 45 * n
  replicas := some 1
  inhibited := false
  utcNow := label

theorem labelledExchange_wellTyped (wall : Int) {label : String} (short : label.length ≤ 40)
    (n : ℕ) : (labelledExchange wall label n).WellTyped := by
  intro value answered
  cases answered
  have long : label.length ≤ 64 := by omega
  refine ⟨fun found read => ?_, fun found read => ?_, fun found read => ?_⟩ <;>
    cases read <;> simp [Value.isTextWithin, Value.text?, short, long]

/-- The label of a host whose wall clock advances every other round. -/
def tickLabel (n : ℕ) : String :=
  if n % 2 = 0 then "2026-01-01T00:00:00Z" else "2026-01-01T00:00:45Z"

theorem tickLabel_short (n : ℕ) : (tickLabel n).length ≤ 40 := by
  unfold tickLabel
  split <;> decide

/-- A host whose wall clock stands still gives the STOP of one whose clock advances. -/
theorem utc_independent_frozen :
    (outcomeAt (factsPolls steadySettings (fun _ => .invalid)
      (labelledReads (-86400) "1969-12-31T00:00:00Z")) 8).action = some .stop := by
  have agree := utc_independent steadySettings (fun _ => .invalid)
    (fun n => labelledReads (45 * n) (tickLabel n) n)
    (labelledReads (-86400) "1969-12-31T00:00:00Z") (fun n => rfl)
    (fun n => ⟨labelledExchange_wellTyped _ (tickLabel_short n) n,
      labelledExchange_wellTyped _ (tickLabel_short n) n⟩)
    (fun n => ⟨labelledExchange_wellTyped _ (by decide) n,
      labelledExchange_wellTyped _ (by decide) n⟩) 8
  exact agree.stop.mp (by decide +kernel)

end LiveStream.Fallback

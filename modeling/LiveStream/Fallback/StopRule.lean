import LiveStream.Fallback.Timers

/-! When the backup stops: only after an unbroken chain of healthy polls, each of
which compares its sample with the one of the poll before. -/

namespace LiveStream.Fallback

open LiveStream.Support

/-- What the facts yield, if they raise nothing, has the property. -/
def Facts.Yields {α : Type} (property : α → Prop) (facts : Facts α) : Prop :=
  ∀ value, facts = .ok value → property value

theorem yields_bind {α β : Type} {property : β → Prop} {first : Facts α} {next : α → Facts β}
    (rest : ∀ value, first = .ok value → (next value).Yields property) :
    Facts.Yields property (first >>= next) := by
  intro result yielded
  obtain ⟨value, same, later⟩ := bind_eq_ok.mp yielded
  exact rest value same result later

theorem yields_pure {α : Type} {property : α → Prop} {value : α} (holds : property value) :
    Facts.Yields property (pure value : Facts α) := by
  intro result yielded
  exact pure_eq_ok.mp yielded ▸ holds

theorem require_singleton {check : Bool} {reason : String}
    (passed : require [.ok check] reason = .ok ()) : check = true := by
  cases check with
  | true => rfl
  | false => cases passed

/-- A live sample of the facts producer: bound, fresh, and with every counter. -/
def Sample.Bound (sample : Sample) : Prop :=
  sample.ready = true → ∃ route outbound video audio, sample.route = some route ∧
    route.copyObservationFresh = true ∧ sample.yt.outbound = some outbound ∧
    sample.yt.videoPackets = some video ∧ sample.yt.audioPackets = some audio

theorem stoppedRelay_bound (availability raw cp : Value) (received : ℚ) :
    (stoppedRelay availability raw cp received).Yields (·.1.Bound) := by
  unfold stoppedRelay
  repeat refine yields_bind fun _ _ => ?_
  exact yields_pure fun ready => by cases ready

theorem unavailableCopy_bound (destination : String) (availability raw cp : Value)
    (received : ℚ) :
    (unavailableCopy destination availability raw cp received).Yields (·.1.Bound) := by
  unfold unavailableCopy
  repeat refine yields_bind fun _ _ => ?_
  exact yields_pure fun ready => by cases ready

theorem observedRoute_bound (destination : String) (observation raw cp : Value)
    (received boottime sourceAge : ℚ) :
    (observedRoute destination observation raw cp received boottime sourceAge).Yields
      (·.1.Bound) := by
  unfold observedRoute
  refine yields_bind fun _ _ => yields_bind fun freshness _ => ?_
  obtain ⟨fresh, new⟩ := freshness
  refine yields_bind fun _ passed => ?_
  obtain rfl := require_singleton passed
  repeat refine yields_bind fun _ _ => ?_
  exact yields_pure fun _ => ⟨_, _, _, _, rfl, rfl, rfl, rfl, rfl⟩

theorem readCopyRoute_bound (settings : Settings) (value : Value)
    (received boottime sourceAge : ℚ) :
    (readCopyRoute settings value received boottime sourceAge).Yields (·.1.Bound) := by
  unfold readCopyRoute
  repeat refine yields_bind fun _ _ => ?_
  split_ifs
  · exact stoppedRelay_bound _ _ _ _
  · exact unavailableCopy_bound _ _ _ _ _
  · exact yields_bind fun _ _ => observedRoute_bound _ _ _ _ _ _ _

/-- A sample that `copy_route_sample` gives. -/
def Sample.OfCopyRoute (sample : Sample) : Prop :=
  ∃ settings value received boottime sourceAge,
    (copyRouteSample settings value received boottime sourceAge).1 = some sample

theorem Sample.OfCopyRoute.bound {sample : Sample} (copied : sample.OfCopyRoute) :
    sample.Bound := by
  obtain ⟨settings, value, received, boottime, sourceAge, given⟩ := copied
  unfold copyRouteSample at given
  split at given
  · rename_i other reason read
    cases given
    exact readCopyRoute_bound settings value received boottime sourceAge _ read
  all_goals cases given

/-- Two samples of one route between which all of its counters advanced. -/
structure Advanced (prev sample : Sample) : Prop where
  route : ∃ route before, sample.route = some route ∧ prev.route = some before ∧
    route.identity = before.identity ∧
    0 < route.sourceMonotonic - before.sourceMonotonic ∧
    route.sourceMonotonic - before.sourceMonotonic ≤ MAX_SAMPLE_GAP
  received : 0 < sample.boottime - prev.boottime ∧ sample.boottime - prev.boottime ≤ MAX_SAMPLE_GAP
  input : prev.bytesReceived < sample.bytesReceived
  output : ∃ new old, sample.yt.outbound = some new ∧ prev.yt.outbound = some old ∧ old < new
  video : ∃ new old, sample.yt.videoPackets = some new ∧ prev.yt.videoPackets = some old ∧ old < new
  audio : ∃ new old, sample.yt.audioPackets = some new ∧ prev.yt.audioPackets = some old ∧ old < new

/-- A counter that is there and whose check passes has advanced. -/
theorem counterCheck_advanced {optional : Bool} {current before : Option Int} {new : Int}
    {reason : String} {checks : List (Bool × String)} (there : current = some new)
    (checked : counterCheck optional current before reason = .ok checks)
    (passed : ∀ check ∈ checks, check.1 = true) :
    ∃ new old, current = some new ∧ before = some old ∧ old < new := by
  subst there
  unfold counterCheck at checked
  cases before with
  | none => simp [isCounter] at checked
  | some old =>
    simp only [Option.isNone_some, Bool.and_false, Bool.false_eq_true, if_false] at checked
    split_ifs at checked
    cases checked
    exact ⟨new, old, rfl, rfl, by simpa using passed _ (List.mem_singleton_self _)⟩

/-- A route that does not break is the one of the sample before. -/
theorem routeBreak_eq_none {sample prev : Sample} {route : RouteBinding}
    (bound : sample.route = some route) (unbroken : routeBreak sample prev = none) :
    ∃ before, prev.route = some before ∧ route.identity = before.identity ∧
      (0 < route.sourceMonotonic - before.sourceMonotonic ∧
        route.sourceMonotonic - before.sourceMonotonic ≤ MAX_SAMPLE_GAP) ∧
      (0 < sample.boottime - prev.boottime ∧ sample.boottime - prev.boottime ≤ MAX_SAMPLE_GAP) := by
  unfold routeBreak at unbroken
  rw [bound] at unbroken
  cases earlier : prev.route with
  | none => simp [earlier] at unbroken
  | some before =>
    simp only [earlier] at unbroken
    split_ifs at unbroken with identity source received _
    exact ⟨before, rfl, not_not.mp identity, source, received⟩

/-- What `healthy` has compared when it says so. -/
theorem Sample.compare_healthy {sample prev : Sample} {resumed : Bool} (bound : sample.Bound)
    (healthy : (sample.compare prev resumed).health = .healthy) :
    resumed = false ∧ Advanced prev sample := by
  unfold Sample.compare at healthy
  cases broken : routeBreak sample prev with
  | some reason => simp [broken, Assessment.lost] at healthy
  | none =>
    cases counted : counterChecks sample.yt prev.yt with
    | error reason => simp [broken, counted, Assessment.lost] at healthy
    | ok counters =>
      simp only [broken, counted, Sample.confirm] at healthy
      cases failing : (inputChecks sample prev ++ counters).find? fun check => !check.1 with
      | some check => simp [failing, Assessment.failed] at healthy
      | none =>
        have passed : ∀ check ∈ inputChecks sample prev ++ counters, check.1 = true := by
          simpa using List.find?_eq_none.mp failing
        have resumption : resumed = false := by
          cases resumed with
          | false => rfl
          | true =>
            simp only [failing] at healthy
            split at healthy <;> simp [Assessment.failed] at healthy
        have live := passed _ (List.mem_append_left _ (List.mem_cons_self ..))
        have input := passed _ (List.mem_append_left _ (List.mem_cons_of_mem _
          (List.mem_singleton_self _)))
        obtain ⟨route, _, _, _, bound, _, outbound, video, audio⟩ := bound live
        obtain ⟨before, earlier, identity, source, received⟩ := routeBreak_eq_none bound broken
        simp only [counterChecks, bind_eq_ok, pure_eq_ok] at counted
        obtain ⟨outputs, outputChecked, videos, videoChecked, audios, audioChecked, rfl⟩ := counted
        exact ⟨resumption, ⟨route, before, bound, earlier, identity, source⟩, received,
          by simp only [Bool.and_eq_true, decide_eq_true_eq] at input; exact input.2,
          counterCheck_advanced outbound outputChecked fun check member =>
            passed check (by simp [member]),
          counterCheck_advanced video videoChecked fun check member =>
            passed check (by simp [member]),
          counterCheck_advanced audio audioChecked fun check member =>
            passed check (by simp [member])⟩

section Runs

variable {polls : ℕ → Poll}

theorem Controller.decide_last (controller : Controller) (now : ℚ) (healthy : Bool)
    (replicas : Option Int) (inhibited : Bool) (uncertainty : Uncertainty) (utcNow : String) :
    (controller.decide now healthy replicas inhibited uncertainty utcNow).1.last =
        controller.last ∧
      (controller.decide now healthy replicas inhibited uncertainty utcNow).1.observationGap =
        controller.observationGap := by
  have reset : (controller.resetHealthy utcNow).last = controller.last ∧
      (controller.resetHealthy utcNow).observationGap = controller.observationGap := by
    unfold Controller.resetHealthy
    split <;> exact ⟨rfl, rfl⟩
  unfold Controller.decide
  split
  · exact ⟨rfl, rfl⟩
  · split
    · split <;> exact reset
    · cases healthy with
      | true => exact ⟨rfl, rfl⟩
      | false => exact reset

/-- The baseline after a poll is its sample, or an older one if it had none. -/
theorem loopAt_last (polls : ℕ → Poll) (n : ℕ) :
    (loopAt polls (n + 1)).controller.last =
        (polls n).sample.or (loopAt polls n).controller.last ∧
      (loopAt polls (n + 1)).controller.observationGap = (polls n).sample.isNone := by
  have ⟨last, gap⟩ := (loopAt polls n).observed_last (polls n)
  have ⟨keptLast, keptGap⟩ := Controller.decide_last ((loopAt polls n).observed (polls n)).1
    (polls n).now ((loopAt polls n).observed (polls n)).2 (polls n).replicas (polls n).inhibited
    (outcomeAt polls n).uncertainty (polls n).utcNow
  exact ⟨keptLast.trans last, keptGap.trans gap⟩

/-- A healthy poll compares its sample with that of the poll before, which had one. -/
theorem healthy_advances {k : ℕ} {sample : Sample} (bound : sample.Bound)
    (healthy : (outcomeAt polls k).healthy = true) (observed : (polls k).sample = some sample) :
    ∃ j prev, k = j + 1 ∧ (polls j).sample = some prev ∧ Advanced prev sample := by
  have assessed : ((loopAt polls k).controller.assess (polls k).sample
      (polls k).observationReason).health = .healthy :=
    (loopAt polls k).assessed_of_healthy (polls k) healthy
  rw [observed, Controller.assess] at assessed
  split at assessed
  · simp [Assessment.failed] at assessed
  · cases baseline : (loopAt polls k).controller.last with
    | none => simp [baseline] at assessed
    | some prev =>
      simp only [baseline] at assessed
      obtain ⟨unbroken, advanced⟩ := Sample.compare_healthy bound assessed
      cases k with
      | zero => cases baseline
      | succ j =>
        obtain ⟨last, gap⟩ := loopAt_last polls j
        rw [unbroken] at gap
        obtain ⟨earlier, present⟩ := Option.isSome_iff_exists.mp
          (Option.isNone_eq_false_iff.mp gap.symm)
        rw [present, Option.some_or, baseline] at last
        obtain rfl := Option.some.inj last
        exact ⟨j, prev, rfl, present, advanced⟩

/-- A STOP ends 300 seconds of uninhibited healthy polls while a backup runs. -/
theorem stop_window {n : ℕ} (stops : (outcomeAt polls n).action = some .stop) :
    (∃ count, (polls n).replicas = some count ∧ 1 ≤ count) ∧ (polls n).inhibited = false ∧
      ∃ m ≤ n, STOP_AFTER ≤ (polls n).now - (polls m).now ∧
        ∀ k, m ≤ k → k ≤ n →
          (outcomeAt polls k).healthy = true ∧ (polls k).inhibited = false := by
  obtain ⟨free, healthy, running, elapsed⟩ := (outcomeAt_stop_iff polls n).mp stops
  refine ⟨running, free, ?_⟩
  have current : healthyPoll polls n = true := by simp [healthyPoll, free, healthy]
  obtain ⟨since, window⟩ : ∃ since,
      windowSince (healthyPoll polls) (pollTime polls) n = some since := by
    cases n <;> exact ⟨_, if_pos current⟩
  obtain ⟨m, before, rfl, held⟩ := windowSince_eq_some window
  rw [window, Option.getD_some] at elapsed
  refine ⟨m, before, elapsed, fun k first last => ?_⟩
  have ⟨uninhibited, good⟩ := Bool.and_eq_true_iff.mp (held k first last)
  exact ⟨good, by simpa using uninhibited⟩

end Runs

/-- Every STOP is earned by an unbroken chain of healthy polls, and every healthy
poll on a sample of the facts producer by the advance of all counters since the
sample of the poll before. -/
theorem stop_sound (polls : ℕ → Poll) :
    (∀ n, (outcomeAt polls n).action = some .stop →
      (∃ count, (polls n).replicas = some count ∧ 1 ≤ count) ∧ (polls n).inhibited = false ∧
        ∃ m ≤ n, STOP_AFTER ≤ (polls n).now - (polls m).now ∧
          ∀ k, m ≤ k → k ≤ n →
            (outcomeAt polls k).healthy = true ∧ (polls k).inhibited = false) ∧
    ∀ k sample, (outcomeAt polls k).healthy = true → (polls k).sample = some sample →
      sample.OfCopyRoute →
      ∃ j prev, k = j + 1 ∧ (polls j).sample = some prev ∧ Advanced prev sample := by
  constructor
  · intro n stops
    exact stop_window stops
  · intro k sample healthy observed copied
    exact healthy_advances copied.bound healthy observed

/-- The answer of the facts producer when the n-th sample of a steady route is read. -/
def steadyFacts (n : ℕ) : Value :=
  .dict [("schema", .str "stream_v3.route_facts.v1"),
    ("relay", .dict [("schema", .str "stream.relay_raw.v1"), ("host_id", .str "relay-host"),
      ("machine_id_sha256", .str (String.ofList (List.replicate 64 'a'))),
      ("observed_at", .str "2026-01-01T00:00:00+00:00"), ("boot_id", .str "boot"),
      ("monotonic_seconds", .int (45 * n)),
      ("relay", .dict [("active", .bool true), ("pid", .int 7)]),
      ("input", .dict [("ready", .bool true), ("available", .bool true),
        ("connection_id", .str "connection"), ("bytes", .int (10 * n))]),
      ("destinations", .dict [("youtube", .dict [("id", .str (copyIdentity 8 1)),
        ("state", .str "forwarding")])])]),
    ("youtube_copy", .dict [("schema", .str "stream_v3.youtube_forward.v1"),
      ("boot_id", .str "boot"),
      ("destination_fingerprint", .str (String.ofList (List.replicate 64 'b'))),
      ("state", .str "FLOWING"), ("pid", .int 8), ("session", .int 1),
      ("updated_at", .str "2026-01-01T00:00:00+00:00"),
      ("last_progress_at", .str "2026-01-01T00:00:00+00:00"),
      ("output_bytes", .int (10 * n)), ("video_packets", .int n), ("audio_packets", .int n)]),
    ("copy_observation", .dict [("schema", .str "stream_v3.copy_observation.v1"),
      ("age_seconds", .int 1), ("confirmed", .bool true), ("new_observation", .bool true)])]

def steadySettings : Settings :=
  ⟨"relay-host", String.ofList (List.replicate 64 'a'), String.ofList (List.replicate 64 'b'), "local"⟩

/-- Polls of a steady route every 45 seconds while a backup runs. -/
def steadyPolls (n : ℕ) : Poll where
  sample := (copyRouteSample steadySettings (steadyFacts n) (45 * n) (45 * n) 1).1
  observationReason := "baseline_required"
  witness := ⟨.flowing, "local_ack_advancing"⟩
  now := 45 * n
  replicas := some 1
  inhibited := false
  utcNow := ""

theorem steadyPolls_copied {n : ℕ} {sample : Sample}
    (observed : (steadyPolls n).sample = some sample) : sample.OfCopyRoute := by
  simp only [steadyPolls] at observed
  exact ⟨steadySettings, steadyFacts n, 45 * n, 45 * n, 1, observed⟩

/-- The ninth poll of a steady route stops the backup, and each poll after the
first compares it with the one before. -/
theorem stop_sound_steady :
    (∃ m ≤ 8, STOP_AFTER ≤ (steadyPolls 8).now - (steadyPolls m).now) ∧
      ∃ j prev, 1 = j + 1 ∧ (steadyPolls j).sample = some prev := by
  constructor
  · obtain ⟨_, _, m, before, window, _⟩ := (stop_sound steadyPolls).1 8 (by decide +kernel)
    exact ⟨m, before, window⟩
  · have given : (steadyPolls 1).sample.isSome = true := by decide +kernel
    have healthy : (outcomeAt steadyPolls 1).healthy = true := by decide +kernel
    obtain ⟨sample, observed⟩ := Option.isSome_iff_exists.mp given
    obtain ⟨j, prev, next, present, _⟩ := (stop_sound steadyPolls).2 1 sample healthy observed
      (steadyPolls_copied observed)
    exact ⟨j, prev, next, present⟩

end LiveStream.Fallback

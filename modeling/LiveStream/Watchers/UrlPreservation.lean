import LiveStream.Watchers.ResolverFreshness

/-! The window in which the current URL is preserved: it opens in the first cycle of a fast-mode
episode whose ingest is ready, and no cycle inside it changes the saved id. -/

namespace LiveStream.Resolver

open LiveStream.Support

variable (config : ResolverConfig)

/-- One cycle as a step of a run. -/
def ResolverConfig.cycleStep (state : ResolverState) (cycle : Cycle) : ResolverState × Unit :=
  (config.main state cycle, ())

/-- The cycle runs in fast mode. -/
def ResolverConfig.Fast (state : ResolverState) (cycle : Cycle) : Prop :=
  (config.prepare state cycle).fastMode = true

/-- The cycle runs in fast mode and its ingest is not ready. -/
def ResolverConfig.Waits (state : ResolverState) (cycle : Cycle) : Prop :=
  config.Fast state cycle ∧ (config.prepare state cycle).ingestReady = false

instance (state : ResolverState) (cycle : Cycle) : Decidable (config.Fast state cycle) :=
  inferInstanceAs (Decidable (_ = true))

instance (state : ResolverState) (cycle : Cycle) : Decidable (config.Waits state cycle) :=
  inferInstanceAs (Decidable (_ ∧ _ = false))

/-- The clock does not go back along the cycles. -/
def Advancing (cycles : List Cycle) : Prop := cycles.Pairwise fun one next => one.nowTs ≤ next.nowTs

instance (cycles : List Cycle) : Decidable (Advancing cycles) :=
  inferInstanceAs (Decidable (List.Pairwise _ _))

/-- From this state on, every cycle that starts inside the window of `since` saves the id that the
state has. -/
def ResolverConfig.Preserved (state : ResolverState) (since : Int) (cycles : List Cycle) : Prop :=
  ∀ taken ∈ trace config.cycleStep state cycles,
    taken.event.nowTs - since < config.URL_PRESERVATION_WINDOW_SEC →
      strip taken.after.videoId = strip state.videoId

instance (state : ResolverState) (since : Int) (cycles : List Cycle) :
    Decidable (config.Preserved state since cycles) :=
  inferInstanceAs (Decidable (∀ taken ∈ trace config.cycleStep state cycles, _ → _))

variable {config} {state : ResolverState} {cycle : Cycle}

/-- A fast cycle inside an open window saves the id that it found. -/
theorem main_preserves (fast : config.Fast state cycle)
    (opened : 0 < (config.prepare state cycle).state.fastSearchWindowStartTs)
    (inside : cycle.nowTs - (config.prepare state cycle).state.fastSearchWindowStartTs <
      config.URL_PRESERVATION_WINDOW_SEC)
    (some_ : strip state.videoId ≠ "") :
    strip (config.main state cycle).videoId = strip state.videoId := by
  cases tried : (config.prepare state cycle).skip with
  | true => rw [(main_skipped tried).1]
  | false =>
    have active : config.preserves (config.prepare state cycle) cycle = true := by
      simp only [ResolverConfig.preserves, ResolverConfig.urlPreservationActive,
        Bool.and_eq_true, decide_eq_true_eq]
      exact ⟨⟨fast, opened⟩, inside⟩
    have chosen : (config.select (config.prepare state cycle) cycle).1 =
        if cleanCandidates [] (config.candidates (config.prepare state cycle) cycle) = [] then ""
        else strip state.videoId := by
      rw [ResolverConfig.select, active, choose_preserved (by simpa using some_)]
      simp only [strip_strip, prepare_videoId]
    by_cases selected : (config.select (config.prepare state cycle) cycle).1 = ""
    · rw [(main_unresolved tried selected).1, strip_strip]
    · split at chosen
      · exact absurd chosen selected
      · rw [(main_selected tried selected).1, chosen, strip_strip]

/-- A cycle changes the id only to one that a source names in it. -/
theorem main_changes (changed : strip (config.main state cycle).videoId ≠ strip state.videoId) :
    ∃ candidate ∈ config.sourceCandidates (config.prepare state cycle) cycle,
      strip candidate.1 = strip (config.main state cycle).videoId := by
  cases tried : (config.prepare state cycle).skip with
  | true => exact absurd (congrArg strip (main_skipped tried).1) changed
  | false =>
    by_cases selected : (config.select (config.prepare state cycle) cycle).1 = ""
    · rw [(main_unresolved tried selected).1, strip_strip] at changed
      exact absurd rfl changed
    · rw [(main_selected tried selected).1] at changed ⊢
      rcases choose_mem selected with expected | ⟨candidate, member, named⟩
      · rw [ResolverConfig.select, expected] at changed
        simp at changed
      · rcases List.mem_append.mp member with source | cached
        · refine ⟨candidate, source, ?_⟩
          rw [ResolverConfig.select, ← named, strip_strip]
        · split at cached
          · cases List.mem_singleton.mp cached
            rw [ResolverConfig.select, ← named] at changed
            simp at changed
          · cases cached

/-- No window is open: the mode is normal, or no cycle of the episode was ready so far. -/
def ResolverState.Closed (state : ResolverState) : Prop :=
  state.fastModeActive = false ∨ state.fastSearchWindowStartTs ≤ 0

theorem ResolverState.Closed.start (closed : state.Closed) :
    (if state.fastModeActive then state.fastSearchWindowStartTs else 0) ≤ 0 := by
  rcases closed with normal | unopened
  · simp [normal]
  · split
    · exact unopened
    · exact le_refl 0

/-- While the ingest is not ready, the window stays closed. -/
theorem closed_waits (closed : state.Closed) (waits : config.Waits state cycle) :
    (config.main state cycle).Closed := by
  obtain ⟨fast, unready⟩ := waits
  right
  rw [main_windowStartTs, prepare_windowStartTs, fast, unready]
  simpa using closed.start

/-- The first ready cycle opens the window. -/
theorem opens_ready (closed : state.Closed) (fast : config.Fast state cycle)
    (ready : (config.prepare state cycle).ingestReady = true) :
    (config.prepare state cycle).state.fastSearchWindowStartTs = cycle.nowTs := by
  have start := closed.start
  rw [prepare_windowStartTs, fast, ready]
  simp [start]

/-- An open window stays where it is as long as the mode is fast. -/
theorem stays_open (mode : state.fastModeActive = true)
    (opened : 0 < state.fastSearchWindowStartTs) (fast : config.Fast state cycle) :
    (config.prepare state cycle).state.fastSearchWindowStartTs = state.fastSearchWindowStartTs := by
  have start : ¬ state.fastSearchWindowStartTs ≤ 0 := not_le.mpr opened
  rw [prepare_windowStartTs, fast, mode]
  simp [start]

/-- The window opened at `since`, and the id has been kept. -/
structure ResolverState.Opened (state : ResolverState) (since : Int) (videoId : String) :
    Prop where
  mode : state.fastModeActive = true
  window : state.fastSearchWindowStartTs = since
  named : strip state.videoId = videoId

theorem opened_step {since : Int} {videoId : String} (opened : state.Opened since videoId)
    (positive : 0 < since) (some_ : videoId ≠ "") (fast : config.Fast state cycle)
    (inside : cycle.nowTs - since < config.URL_PRESERVATION_WINDOW_SEC) :
    (config.main state cycle).Opened since videoId := by
  have window := stays_open opened.mode (opened.window ▸ positive) fast
  rw [opened.window] at window
  constructor
  · rw [main_fastModeActive, fast]
  · rw [main_windowStartTs, window]
  · rw [main_preserves fast (window ▸ positive) (window ▸ inside) (opened.named ▸ some_),
      opened.named]

theorem opened_run {since : Int} {videoId : String} {cycles : List Cycle}
    (positive : 0 < since) (some_ : videoId ≠ "") (opened : state.Opened since videoId)
    (fast : Guarded config.cycleStep config.Fast state cycles)
    (inside : ∀ cycle ∈ cycles, cycle.nowTs - since < config.URL_PRESERVATION_WINDOW_SEC) :
    (final config.cycleStep state cycles).Opened since videoId := by
  induction cycles generalizing state with
  | nil => exact opened
  | cons cycle rest inductionHypothesis =>
    obtain ⟨now, later⟩ := guarded_cons.mp fast
    apply inductionHypothesis (opened_step opened positive some_ now (inside cycle (by simp))) later
    intro next member
    exact inside next (List.mem_cons_of_mem cycle member)

theorem opened_ready (closed : state.Closed) (fast : config.Fast state cycle)
    (ready : (config.prepare state cycle).ingestReady = true) (some_ : strip state.videoId ≠ "")
    (window : 0 < config.URL_PRESERVATION_WINDOW_SEC) :
    (config.main state cycle).Opened cycle.nowTs (strip state.videoId) := by
  have opens := opens_ready closed fast ready
  constructor
  · rw [main_fastModeActive, fast]
  · rw [main_windowStartTs, opens]
  · apply main_preserves fast (by rw [opens]; exact cycle.started) (by rw [opens]; omega) some_

theorem closed_run {cycles : List Cycle} (closed : state.Closed)
    (waits : Guarded config.cycleStep config.Waits state cycles) :
    (final config.cycleStep state cycles).Closed :=
  final_invariant ResolverState.Closed (fun _ _ before waiting => closed_waits before waiting)
    closed waits

/-- In a fast-mode episode, the cycles before the first one with a ready ingest change the saved id
only to an id that a source names, and from that cycle on every cycle that starts inside the window
saves the id that the cycle found. -/
theorem url_preserved (config : ResolverConfig) (state : ResolverState)
    (earlier waiting within : List Cycle) (first : Cycle)
    (normal : (final config.cycleStep state earlier).fastModeActive = false)
    (waits : Guarded config.cycleStep config.Waits (final config.cycleStep state earlier) waiting)
    (ready : (config.prepare (final config.cycleStep state (earlier ++ waiting)) first).ingestReady =
      true)
    (fast : Guarded config.cycleStep config.Fast (final config.cycleStep state (earlier ++ waiting))
      (first :: within))
    (advancing : Advancing (earlier ++ waiting ++ first :: within)) :
    (∀ taken ∈ trace config.cycleStep (final config.cycleStep state earlier) waiting,
      strip taken.after.videoId ≠ strip taken.before.videoId →
        ∃ candidate ∈ config.sourceCandidates (config.prepare taken.before taken.event) taken.event,
          strip candidate.1 = strip taken.after.videoId) ∧
    (strip (final config.cycleStep state (earlier ++ waiting)).videoId ≠ "" →
      config.Preserved (final config.cycleStep state (earlier ++ waiting)) first.nowTs
        (first :: within)) := by
  constructor
  · intro taken member changed
    rw [eq_take_of_mem taken member] at changed ⊢
    exact main_changes changed
  · have closed : (final config.cycleStep state (earlier ++ waiting)).Closed := by
      rw [final_append]
      exact closed_run (Or.inl normal) waits
    have ordered : Advancing (first :: within) := (List.pairwise_append.mp advancing).2.1
    generalize final config.cycleStep state (earlier ++ waiting) = found at closed fast ready ⊢
    intro some_ taken member inside
    obtain ⟨now, later⟩ := guarded_cons.mp fast
    obtain ⟨after_, sorted⟩ := List.pairwise_cons.mp ordered
    rcases List.mem_cons.mp member with rfl | member
    · have window : 0 < config.URL_PRESERVATION_WINDOW_SEC := by
        simpa [take] using inside
      exact (opened_ready closed now ready some_ window).named
    · obtain ⟨front, back, run⟩ := List.append_of_mem member
      obtain ⟨before, event, rest, rfl, rfl, rfl⟩ := trace_split run
      obtain ⟨kept, _⟩ := guarded_append.mp later
      have bounded : ∀ cycle ∈ before, cycle.nowTs ≤ event.nowTs := by
        intro cycle earlier
        exact (List.pairwise_append.mp sorted).2.2 cycle earlier event (by simp)
      have reached : first.nowTs ≤ event.nowTs := after_ event (by simp)
      have window : 0 < config.URL_PRESERVATION_WINDOW_SEC := by
        simp only [take] at inside
        omega
      have opened := opened_run first.started some_ (opened_ready closed now ready some_ window) kept
        (by
          intro cycle earlier
          have := bounded cycle earlier
          simp only [take] at inside
          omega)
      have still : config.Fast (final config.cycleStep (config.main found first) before) event :=
        (guarded_cons.mp (guarded_append.mp later).2).1
      exact (opened_step opened first.started some_ still inside).named

/-- The deployed settings, with the live page of the channel as a source. -/
def watching : ResolverConfig := { deployed with CHANNEL_LIVE_URL := "https://example/live" }

/-- A cycle to which the live page redirects to another broadcast. -/
def redirected (nowTs : Int) (started : 0 < nowTs) (connected : Bool) : Cycle :=
  { nowTs, started, connectedNow := some connected
    runtimeReason := if connected then "runtime tcp connected" else "runtime tcp disconnected"
    livePage := ("new", "resolved from channel live redirect") }

/-- A cycle that finds the encoder disconnected, and no source. -/
def disconnected (nowTs : Int) (started : 0 < nowTs) : Cycle :=
  { nowTs, started, connectedNow := some false, runtimeReason := "runtime tcp disconnected" }

theorem clock_runs : (0 : Int) < 1000 := by decide

def beforeEpisode : List Cycle := [probed 1000 clock_runs "old", disconnected 1045 (by decide)]

theorem url_preserved_reconnected :
    watching.Preserved
      (final watching.cycleStep {} (beforeEpisode ++ [disconnected 1090 (by decide)])) 1095
      [redirected 1095 (by decide) true, redirected 1100 (by decide) true] ∧
    strip (final watching.cycleStep {} (beforeEpisode ++
      [disconnected 1090 (by decide)])).videoId = "old" :=
  ⟨(url_preserved watching {} beforeEpisode [disconnected 1090 (by decide)]
      [redirected 1100 (by decide) true] (redirected 1095 (by decide) true) (by decide +kernel)
      (by decide +kernel) (by decide +kernel) (by decide +kernel) (by decide +kernel)).2
      (by decide +kernel),
    by decide +kernel⟩

/-- While the ingest is down, the first cycle of an episode already takes the id of the live page. -/
theorem switched_before_ready :
    ¬ ∀ (config : ResolverConfig) (state : ResolverState) (earlier during : List Cycle)
        (first : Cycle),
      (final config.cycleStep state earlier).fastModeActive = false →
      Guarded config.cycleStep config.Fast (final config.cycleStep state earlier)
        (first :: during) →
      Advancing (earlier ++ first :: during) →
      strip (final config.cycleStep state earlier).videoId ≠ "" →
        config.Preserved (final config.cycleStep state earlier) first.nowTs (first :: during) := by
  intro preserved
  have kept := preserved watching {} beforeEpisode [] (redirected 1090 (by decide) false)
    (by decide +kernel) (by decide +kernel) (by decide +kernel) (by decide +kernel)
  revert kept
  decide +kernel

end LiveStream.Resolver

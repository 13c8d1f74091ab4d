import LiveStream.Support.Run
import LiveStream.Watchers.ResolverMain

/-! When the freshness of the saved id rests on a report of a source: the sources' reports, the
restarts of the stream, and what the watchdog makes of the saved id. -/

namespace LiveStream.Resolver

open LiveStream.Support

/-- An id that a source named in a cycle, when the source saw it, and how old a reused result was
allowed to be. -/
structure Report where
  videoId : String
  source : String
  cycleTs : Int
  seenAt : Int
  reuseSec : Int := 0
  deriving DecidableEq

/-- The source saw the id no longer before the cycle than a result may be reused. -/
def Report.recent (report : Report) : Bool :=
  decide (report.cycleTs - report.seenAt ≤ report.reuseSec)

/-- A report of a cycle after the restart was seen after the restart too. -/
def Report.after (report : Report) (lastRestartTs : Int) : Bool :=
  decide (report.cycleTs ≤ lastRestartTs) || decide (lastRestartTs < report.seenAt)

/-- The resolver, the last restart that the watchdog knows, the clock, and every report so far. -/
structure Station where
  resolver : ResolverState := {}
  lastRestartTs : Int := 0
  clockTs : Int := 0
  reported : List Report := []

inductive Event where
  | cycle (cycle : Cycle)
  /-- The watchdog restarts the stream. -/
  | restart (nowTs : Int)

def Event.nowTs : Event → Int
  | .cycle met => met.nowTs
  | .restart nowTs => nowTs

variable (config : ResolverConfig)

/-- The report that a candidate of a source is. A reused OAuth result was seen when the watchdog
recorded its check. -/
def ResolverConfig.report (prepared : Prepared) (cycle : Cycle) (candidate : String × String) :
    Report :=
  if candidate.2 = "oauth" ∧ (config.reusedOauth prepared cycle).isSome then
    { videoId := strip candidate.1, source := candidate.2, cycleTs := cycle.nowTs
      seenAt := config.parseIsoTs cycle.stats.oauthCheckedTsUtc
      reuseSec := config.reuseOauthSec cycle.apiCostGuardActive }
  else
    { videoId := strip candidate.1, source := candidate.2, cycleTs := cycle.nowTs
      seenAt := cycle.nowTs }

/-- The reports of a cycle that tries. -/
def ResolverConfig.reports (prepared : Prepared) (cycle : Cycle) : List Report :=
  ((config.sourceCandidates prepared cycle).map (config.report prepared cycle)).filter
    fun report => report.videoId ≠ ""

def ResolverConfig.step (station : Station) : Event → Station × Unit
  | .cycle cycle =>
    let prepared := config.prepare station.resolver cycle
    ({ station with
        resolver := config.main station.resolver cycle
        clockTs := cycle.nowTs
        reported := station.reported ++
          if prepared.skip then [] else config.reports prepared cycle }, ())
  | .restart nowTs => ({ station with lastRestartTs := nowTs, clockTs := nowTs }, ())

/-- The clock does not go back. -/
def Ordered (station : Station) (event : Event) : Prop := station.clockTs ≤ event.nowTs

instance (station : Station) (event : Event) : Decidable (Ordered station event) :=
  inferInstanceAs (Decidable (_ ≤ _))

/-- A report backs the id: it says when the id was seen, and not before a restart that its cycle
comes after. -/
def backs (videoId : String) (lastRestartTs : Int) (report : Report) : Bool :=
  report.videoId = videoId && decide (0 < report.seenAt) && report.after lastRestartTs

/-- The id that a cycle has to stamp is reported in it: the preserved id while the window is open
and any id is at hand, the first reported id otherwise; without any report the saved id must not
be fresh any more. -/
def ResolverConfig.earned (station : Station) : Event → Bool
  | .restart _ => true
  | .cycle cycle =>
    let prepared := config.prepare station.resolver cycle
    let reports := config.reports prepared cycle
    let saved := strip station.resolver.videoId
    let stale : Bool := config.cachedFreshVideoId prepared.state cycle.nowTs = ""
    prepared.skip ||
      if config.preserves prepared cycle ∧ saved ≠ "" then
        (reports.isEmpty && stale) || reports.any (backs saved station.lastRestartTs)
      else
        match reports.head? with
        | none => stale
        | some first => reports.any (backs first.videoId station.lastRestartTs)

/-- `resolver_is_fresh`. -/
def ResolverConfig.resolverIsFresh (state : ResolverState) (nowTs : Int) : Bool :=
  decide (0 < state.resolvedTs) &&
    decide (nowTs - state.resolvedTs ≤ config.VIDEO_RESOLVER_MAX_AGE_SEC)

/-- `resolver_is_after_restart`. -/
def resolverIsAfterRestart (state : ResolverState) (lastRestartTs : Int) : Bool :=
  lastRestartTs < state.resolvedTs

/-- The saved id was reported in the cycle of its time, it is fresh only as long as that report
can be, and it counts as resolved after a restart only if it was reported after it. -/
def ResolverConfig.FreshnessEarned (station : Station) : Prop :=
  let saved := strip station.resolver.videoId
  saved ≠ "" →
    (∃ report ∈ station.reported, report.videoId = saved ∧
      report.cycleTs = station.resolver.resolvedTs ∧ report.recent = true) ∧
    (∀ nowTs, config.cachedFreshVideoId station.resolver nowTs ≠ "" ∨
        config.resolverIsFresh station.resolver nowTs = true →
      ∃ report ∈ station.reported, report.videoId = saved ∧
        nowTs - (config.VIDEO_RESOLVER_MAX_AGE_SEC + report.reuseSec) ≤ report.seenAt) ∧
    (resolverIsAfterRestart station.resolver station.lastRestartTs = true →
      ∃ report ∈ station.reported, report.videoId = saved ∧
        station.lastRestartTs < report.seenAt)

/-! ### The selection and the reports -/

variable {config} {prepared : Prepared} {cycle : Cycle} {station : Station}

@[simp] theorem report_videoId (candidate : String × String) :
    (config.report prepared cycle candidate).videoId = strip candidate.1 := by
  unfold ResolverConfig.report
  split <;> rfl

@[simp] theorem report_cycleTs (candidate : String × String) :
    (config.report prepared cycle candidate).cycleTs = cycle.nowTs := by
  unfold ResolverConfig.report
  split <;> rfl

theorem cycleTs_of_reported {report : Report} (member : report ∈ config.reports prepared cycle) :
    report.cycleTs = cycle.nowTs := by
  obtain ⟨made, _⟩ := List.mem_filter.mp member
  obtain ⟨candidate, _, rfl⟩ := List.mem_map.mp made
  exact report_cycleTs candidate

/-- The ids of the candidates are the reported ids, and the saved id while it is fresh. -/
theorem map_candidates :
    ((config.candidates prepared cycle).map fun candidate => strip candidate.1).filter (· ≠ "") =
      (config.reports prepared cycle).map Report.videoId ++
        if config.cachedFreshVideoId prepared.state cycle.nowTs = "" then []
        else [strip prepared.state.videoId] := by
  have reported : ((config.sourceCandidates prepared cycle).map
      fun candidate => strip candidate.1).filter (· ≠ "") =
        (config.reports prepared cycle).map Report.videoId := by
    simp only [ResolverConfig.reports, List.filter_map, List.map_map]
    congr 1
    · funext candidate
      simp
    · congr 1
      funext candidate
      simp
  rw [ResolverConfig.candidates, List.map_append, List.filter_append, reported]
  by_cases fresh : config.cachedFreshVideoId prepared.state cycle.nowTs = ""
  · rw [if_neg (not_not_intro fresh), if_pos fresh, List.map_nil, List.filter_nil]
  · have some_ := (ResolverConfig.fresh_of_cached fresh).1
    rw [if_pos fresh, if_neg fresh, List.map_singleton, strip_strip, List.filter_singleton]
    simp [some_]

/-- What a cycle selects, from its reports. -/
theorem select_eq :
    (config.select prepared cycle).1 =
      let saved := strip prepared.state.videoId
      let ids := (config.reports prepared cycle).map Report.videoId ++
        if config.cachedFreshVideoId prepared.state cycle.nowTs = "" then [] else [saved]
      if config.preserves prepared cycle = true ∧ saved ≠ "" then
        if ids = [] then "" else saved
      else ids.head?.getD "" := by
  simp only
  rw [← map_candidates]
  unfold ResolverConfig.select
  by_cases held : config.preserves prepared cycle = true ∧ strip prepared.state.videoId ≠ ""
  · rw [if_pos held]
    obtain ⟨active, some_⟩ := held
    rw [active, choose_preserved (by simpa using some_)]
    have empty : (cleanCandidates [] (config.candidates prepared cycle) = []) =
        (((config.candidates prepared cycle).map fun candidate => strip candidate.1).filter
          (fun videoId => videoId ≠ "") = []) := by
      apply propext
      rw [← List.map_eq_nil_iff (f := Prod.fst), List.eq_nil_iff_forall_not_mem,
        List.eq_nil_iff_forall_not_mem]
      apply forall_congr'
      intro videoId
      rw [mem_cleanCandidates]
      simp [and_comm]
    simp only [empty, strip_strip]
  · rw [choose_first (by simpa using held), if_neg held, List.head?_filter]

/-- A cycle that tries is earned exactly when what it selects is backed by one of its reports. -/
theorem earned_iff (tried : (config.prepare station.resolver cycle).skip = false) :
    config.earned station (.cycle cycle) = true ↔
      ((config.select (config.prepare station.resolver cycle) cycle).1 ≠ "" →
        ∃ report ∈ config.reports (config.prepare station.resolver cycle) cycle,
          backs (config.select (config.prepare station.resolver cycle) cycle).1
            station.lastRestartTs report = true) := by
  rw [select_eq]
  simp only [ResolverConfig.earned, tried, Bool.false_or, prepare_videoId]
  generalize reports_def : config.reports (config.prepare station.resolver cycle) cycle = reports
  have named : ∀ report ∈ reports, report.videoId ≠ "" := by
    rw [← reports_def]
    intro report member
    simpa using (List.mem_filter.mp member).2
  by_cases fresh : config.cachedFreshVideoId (config.prepare station.resolver cycle).state
      cycle.nowTs = ""
  · by_cases held : config.preserves (config.prepare station.resolver cycle) cycle = true ∧
        strip station.resolver.videoId ≠ ""
    · cases reports with
      | nil => simp [held, fresh]
      | cons first rest => simp [held, fresh]
    · cases reports with
      | nil => simp [held, fresh]
      | cons first rest => simp [held, fresh, named first]
  · have some_ : strip station.resolver.videoId ≠ "" := by
      simpa using (ResolverConfig.fresh_of_cached fresh).1
    by_cases held : config.preserves (config.prepare station.resolver cycle) cycle = true
    · cases reports with
      | nil => simp [held, fresh, some_]
      | cons first rest => simp [held, fresh, some_]
    · cases reports with
      | nil => simp [held, fresh, some_]
      | cons first rest => simp [held, fresh, named first]

/-- A reused result that says when it was checked is no older than the reuse window. -/
theorem recent_of_reported {report : Report} (member : report ∈ config.reports prepared cycle)
    (dated : 0 < report.seenAt) : report.recent = true := by
  obtain ⟨made, _⟩ := List.mem_filter.mp member
  obtain ⟨candidate, _, rfl⟩ := List.mem_map.mp made
  by_cases reused : candidate.2 = "oauth" ∧ (config.reusedOauth prepared cycle).isSome = true
  · rw [ResolverConfig.report, if_pos reused] at dated ⊢
    have kept := reused.2
    unfold ResolverConfig.reusedOauth at kept
    split at kept
    · unfold ResolverConfig.oauthFromWatchdogStatsCache at kept
      have current : ¬ config.parseIsoTs cycle.stats.oauthCheckedTsUtc ≤ 0 := by
        simpa using dated
      simp only [current, if_false] at kept
      split at kept
      · cases kept
      · rename_i usable
        simp only [Report.recent, decide_eq_true_eq]
        omega
    · cases kept
  · rw [ResolverConfig.report, if_neg reused]
    simp [Report.recent]

/-! ### Runs -/

/-- The id is saved with the time of a cycle that reported it. -/
structure Station.Attested (station : Station) : Prop where
  stamped : 0 < station.resolver.resolvedTs
  past : station.resolver.resolvedTs ≤ station.clockTs
  reported : ∃ report ∈ station.reported, report.videoId = strip station.resolver.videoId ∧
    report.cycleTs = station.resolver.resolvedTs ∧ report.recent = true ∧
    (station.lastRestartTs < station.resolver.resolvedTs → station.lastRestartTs < report.seenAt)

def Station.Kept (station : Station) : Prop :=
  strip station.resolver.videoId ≠ "" → station.Attested

/-- A cycle that stamps nothing leaves what was attested. -/
theorem Station.Kept.unstamped (kept : station.Kept) (ordered : Ordered station (.cycle cycle))
    (same : strip (config.main station.resolver cycle).videoId = strip station.resolver.videoId ∧
      (config.main station.resolver cycle).resolvedTs = station.resolver.resolvedTs) :
    (config.step station (.cycle cycle)).1.Kept := by
  intro some_
  obtain ⟨sameId, sameTs⟩ := same
  have attested := kept (by simpa only [ResolverConfig.step, sameId] using some_)
  obtain ⟨report, member, named, dated, recent, after_⟩ := attested.reported
  constructor
  · simpa only [ResolverConfig.step, sameTs] using attested.stamped
  · have later : station.resolver.resolvedTs ≤ cycle.nowTs := attested.past.trans ordered
    simpa only [ResolverConfig.step, sameTs] using later
  · refine ⟨report, List.mem_append_left _ member, ?_, ?_, recent, ?_⟩
    · simpa only [ResolverConfig.step, sameId] using named
    · simpa only [ResolverConfig.step, sameTs] using dated
    · simpa only [ResolverConfig.step, sameTs] using after_

theorem kept_cycle (kept : station.Kept) (ordered : Ordered station (.cycle cycle))
    (earned : config.earned station (.cycle cycle) = true) :
    (config.step station (.cycle cycle)).1.Kept := by
  cases tried : (config.prepare station.resolver cycle).skip with
  | true =>
    obtain ⟨sameId, sameTs⟩ := main_skipped tried
    exact kept.unstamped ordered ⟨congrArg strip sameId, sameTs⟩
  | false =>
    by_cases selected : (config.select (config.prepare station.resolver cycle) cycle).1 = ""
    · obtain ⟨sameId, sameTs⟩ := main_unresolved tried selected
      exact kept.unstamped ordered ⟨by rw [sameId, strip_strip], sameTs⟩
    · obtain ⟨savedId, savedTs⟩ := main_selected tried selected
      obtain ⟨report, member, backed⟩ := (earned_iff tried).mp earned selected
      simp only [backs, Bool.and_eq_true, decide_eq_true_eq] at backed
      obtain ⟨⟨named, dated⟩, after_⟩ := backed
      have cycleTs := cycleTs_of_reported member
      have stripped : strip report.videoId = report.videoId := by
        obtain ⟨made, _⟩ := List.mem_filter.mp member
        obtain ⟨candidate, _, rfl⟩ := List.mem_map.mp made
        rw [report_videoId, strip_strip]
      intro _
      constructor
      · simpa only [ResolverConfig.step, savedTs] using cycle.started
      · simp only [ResolverConfig.step, savedTs, le_refl]
      · refine ⟨report, ?_, ?_, ?_, recent_of_reported member dated, ?_⟩
        · simp only [ResolverConfig.step, tried]
          exact List.mem_append_right _ member
        · simp only [ResolverConfig.step, savedId, ← named, stripped]
        · simp only [ResolverConfig.step, savedTs, cycleTs]
        · simp only [ResolverConfig.step, savedTs]
          intro restarted
          simp only [Report.after, Bool.or_eq_true, decide_eq_true_eq, cycleTs] at after_
          omega

theorem kept_restart {nowTs : Int} (kept : station.Kept)
    (ordered : Ordered station (.restart nowTs)) :
    (config.step station (.restart nowTs)).1.Kept := by
  intro some_
  have attested := kept some_
  obtain ⟨report, member, named, dated, recent, _⟩ := attested.reported
  have later : station.resolver.resolvedTs ≤ nowTs := attested.past.trans ordered
  exact ⟨attested.stamped, later, report, member, named, dated, recent,
    fun restarted => absurd restarted (not_lt.mpr later)⟩

theorem kept_step {event : Event} (kept : station.Kept) (ordered : Ordered station event)
    (earned : config.earned station event = true) : (config.step station event).1.Kept := by
  cases event with
  | cycle cycle => exact kept_cycle kept ordered earned
  | restart nowTs => exact kept_restart kept ordered

/-- Under a clock that does not go back, where every stamped id is backed by a report of its cycle,
the freshness of the saved id is earned after every run. -/
theorem freshness_earned (config : ResolverConfig) (events : List Event)
    (ordered : Guarded config.step Ordered {} events)
    (earned : Guarded config.step (fun station event => config.earned station event = true) {}
      events) :
    config.FreshnessEarned (final config.step {} events) := by
  have both : Guarded config.step
      (fun station event => Ordered station event ∧ config.earned station event = true) {} events :=
    fun taken member => ⟨ordered taken member, earned taken member⟩
  have kept : (final config.step {} events).Kept :=
    final_invariant Station.Kept
      (fun station event holds met => kept_step holds met.1 met.2)
      (fun some_ => absurd rfl some_) both
  intro some_
  have attested := kept some_
  obtain ⟨report, member, named, dated, recent, after_⟩ := attested.reported
  refine ⟨⟨report, member, named, dated, recent⟩, ?_, ?_⟩
  · intro nowTs fresh
    have young : nowTs - (final config.step {} events).resolver.resolvedTs ≤
        config.VIDEO_RESOLVER_MAX_AGE_SEC := by
      rcases fresh with cached | watched
      · exact (ResolverConfig.fresh_of_cached cached).2.2
      · simp only [ResolverConfig.resolverIsFresh, Bool.and_eq_true, decide_eq_true_eq] at watched
        exact watched.2
    refine ⟨report, member, named, ?_⟩
    simp only [Report.recent, decide_eq_true_eq] at recent
    omega
  · intro restarted
    exact ⟨report, member, named, after_ (by simpa [resolverIsAfterRestart] using restarted)⟩

/-- The deployed settings, with OAuth as the only source. -/
def deployed : ResolverConfig where
  CHANNEL_ID := ""
  CHANNEL_LIVE_URL := ""
  API_KEY := ""
  VIDEO_ID := ""
  LIVE_URL := ""
  VIDEO_RESOLVER_MAX_AGE_SEC := 120
  VIDEO_RESOLVER_FAST_ENTER_STREAK := 2
  VIDEO_RESOLVER_FAST_EXIT_STREAK := 3
  VIDEO_RESOLVER_INGEST_READY_MEMORY_SEC := 30
  VIDEO_RESOLVER_REMOTE_ENDED_CONFIRM_SEC := 15
  VIDEO_RESOLVER_NORMAL_INTERVAL_SEC := 45
  VIDEO_RESOLVER_UNHEALTHY_INTERVAL_SEC := 5
  VIDEO_RESOLVER_FAST_REMOTE_PROBE := false
  VIDEO_RESOLVER_REQUIRE_INGEST_FOR_SEARCH := true
  VIDEO_RESOLVER_FAST_SEARCH_WINDOW_SEC := 180
  VIDEO_RESOLVER_FAST_SEARCH_MAX_CALLS := 36
  VIDEO_RESOLVER_SEARCH_MIN_INTERVAL_SEC := 5
  VIDEO_ID_CONFIGURED_FALLBACK_BOOT_SEC := 120
  URL_PRESERVATION_WINDOW_SEC := 180
  RESOLVER_REUSE_WATCHDOG_OAUTH_SEC := 180
  API_COST_BURN_RATE_OAUTH_MIN_INTERVAL_SEC := 300
  timestamp := fun _ => none

/-- A cycle whose probe names the id, and one whose probe fails. -/
def probed (nowTs : Int) (started : 0 < nowTs) (videoId : String) : Cycle :=
  { nowTs, started, connectedNow := some true, runtimeReason := "runtime tcp connected"
    probe := { probeOk := true, videoId } }

def unanswered (nowTs : Int) (started : 0 < nowTs) : Cycle :=
  { nowTs, started, connectedNow := some true, runtimeReason := "runtime tcp connected" }

theorem freshness_earned_probed :
    Guarded deployed.step Ordered {}
        [.cycle (probed 1000 (by decide) "live"), .restart 1010,
          .cycle (probed 1050 (by decide) "live")] ∧
      deployed.FreshnessEarned (final deployed.step {}
        [.cycle (probed 1000 (by decide) "live"), .restart 1010,
          .cycle (probed 1050 (by decide) "live")]) :=
  ⟨by decide +kernel, freshness_earned deployed _ (by decide +kernel) (by decide +kernel)⟩

/-- One report, a restart, and then cycles whose source answers nothing. -/
def quiet : List Event :=
  [.cycle (probed 1000 (by decide) "live"), .restart 1010] ++
    (List.range 8).map fun count => .cycle (unanswered (1045 + 45 * count) (by omega))

/-- Six minutes after its last report an id is still fresh. -/
theorem unreported_id_stays_fresh :
    ∃ config events, Guarded (ResolverConfig.step config) Ordered {} events ∧
      ¬ config.FreshnessEarned (final config.step {} events) := by
  refine ⟨deployed, quiet, by decide +kernel, ?_⟩
  intro earned
  obtain ⟨_, fresh, _⟩ := earned (by decide +kernel)
  have reported := fresh 1360 (Or.inr (by decide +kernel))
  have unreported : ¬ ∃ report ∈ (final deployed.step {} quiet).reported,
      report.videoId = strip (final deployed.step {} quiet).resolver.videoId ∧
        1360 - (deployed.VIDEO_RESOLVER_MAX_AGE_SEC + report.reuseSec) ≤ report.seenAt := by
    decide +kernel
  exact unreported reported

end LiveStream.Resolver

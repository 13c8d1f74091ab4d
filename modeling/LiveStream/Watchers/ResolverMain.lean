import LiveStream.Watchers.Resolver

/-! One cycle of the resolver: what it prepares, the sources that it asks, and the state that it
saves. -/

namespace LiveStream.Resolver

open LiveStream.Support

/-- What a cycle meets: the clock, the guards, the statistics of the watchdog, the connections of
the encoder, and what each source answers where it is asked. -/
structure Cycle where
  nowTs : Int
  started : 0 < nowTs
  apiCostGuardActive : Bool := false
  quotaGuardActive : Bool := false
  stats : WatchdogStats := {}
  connectedNow : Option Bool := none
  runtimeReason : String := ""
  probe : OAuthProbeResult := {}
  livePage : String × String := ("", "")
  search : String := ""

/-- What a cycle has computed before it decides whether to try. -/
structure Prepared where
  state : ResolverState
  allowCfgFallback : Bool
  remoteEndedConfirmed : Bool
  fastMode : Bool
  badStreak : Int
  goodStreak : Int
  ingestReady : Bool
  skip : Bool

variable (config : ResolverConfig) (state : ResolverState) (prepared : Prepared) (cycle : Cycle)

def ResolverConfig.prepare : Prepared :=
  let fallback := config.allowConfiguredFallback state cycle.nowTs config.configuredVideoId
  let ended := config.updateRemoteEndedState fallback.1 cycle.nowTs
    (config.hasRecentRemoteEnded cycle.stats cycle.nowTs)
  let raw := resolveFastMode cycle.stats cycle.connectedNow cycle.runtimeReason
  let fast := config.applyFastModeHysteresis ended.1 raw.1
  let ready := config.applyIngestReadyMemory ended.1 cycle.nowTs
    (ingestReadyForSearchFromFastSignal raw.1 raw.2)
  { state := updateFastSearchEpisode ready.1 cycle.nowTs fast.1 state.fastModeActive ready.2
    allowCfgFallback := fallback.2
    remoteEndedConfirmed := ended.2
    fastMode := fast.1, badStreak := fast.2.1, goodStreak := fast.2.2
    ingestReady := ready.2
    skip := config.skipCurrentAttempt fast.1 state.lastAttemptTs cycle.nowTs }

/-- The OAuth probe is not put off until the ingest is ready. -/
def ResolverConfig.asksOauth : Bool :=
  !prepared.fastMode || config.VIDEO_RESOLVER_FAST_REMOTE_PROBE || prepared.ingestReady ||
    prepared.remoteEndedConfirmed

/-- The result of the watchdog that takes the place of a probe. -/
def ResolverConfig.reusedOauth : Option OAuthProbeResult :=
  if !cycle.quotaGuardActive && config.asksOauth prepared && !prepared.fastMode then
    config.oauthFromWatchdogStatsCache cycle.stats cycle.nowTs
      (config.reuseOauthSec cycle.apiCostGuardActive)
  else none

def ResolverConfig.resolveOauthProbe : OAuthProbeResult :=
  if cycle.quotaGuardActive then {}
  else if config.asksOauth prepared then
    match config.reusedOauth prepared cycle with
    | some cached => cached
    | none => if cycle.apiCostGuardActive then {} else cycle.probe
  else {}

def ResolverConfig.effectiveChannelId : String :=
  if config.CHANNEL_ID ≠ "" then config.CHANNEL_ID
  else (config.resolveOauthProbe prepared cycle).channelId

def ResolverConfig.effectiveLiveUrl : String :=
  if config.CHANNEL_LIVE_URL ≠ "" then config.CHANNEL_LIVE_URL
  else if config.effectiveChannelId prepared cycle ≠ "" then
    s!"https://www.youtube.com/channel/{config.effectiveChannelId prepared cycle}/live"
  else ""

structure LivePageCandidate where
  videoId : String
  source : String
  strong : Bool

def ResolverConfig.resolveLivePageCandidate : LivePageCandidate :=
  if config.effectiveLiveUrl prepared cycle = "" then ⟨"", "channel_live_page", false⟩
  else
    let videoId := strip cycle.livePage.1
    let strong := videoId ≠ "" && livePageVideoIdIsStrong cycle.livePage.2
    ⟨videoId, if strong then "channel_live_page" else "channel_live_page_html", strong⟩

def ResolverConfig.shouldRunDataApiSearch : Bool :=
  let fresh := config.cachedFreshVideoId prepared.state cycle.nowTs
  let runtime := config.cachedRuntimeVideoId prepared.state cycle.nowTs
  let configured := if prepared.allowCfgFallback then config.configuredVideoId else ""
  if cycle.quotaGuardActive then false
  else if cycle.apiCostGuardActive then false
  else if config.effectiveChannelId prepared cycle = "" ∨ config.API_KEY = "" then false
  else if strip (config.resolveOauthProbe prepared cycle).videoId ≠ "" then false
  else if runtime ≠ "" ∧ prepared.fastMode then false
  else if config.VIDEO_RESOLVER_REQUIRE_INGEST_FOR_SEARCH ∧ !prepared.ingestReady ∧
      !prepared.remoteEndedConfirmed then false
  else if configured = "" ∧ fresh = "" then true
  else if prepared.remoteEndedConfirmed then true
  else prepared.fastMode && prepared.ingestReady

/-- `run_data_api_search`: the state that it leaves, and the id. -/
def ResolverConfig.runDataApiSearch : ResolverState × String :=
  let state := prepared.state
  let elapsedSec := if prepared.fastMode ∧ 0 < state.fastSearchWindowStartTs then
    cycle.nowTs - state.fastSearchWindowStartTs else 0
  let sinceLastSec := if 0 < state.lastDataApiSearchTs then
    cycle.nowTs - state.lastDataApiSearchTs else 9999999
  let page := config.resolveLivePageCandidate prepared cycle
  if cycle.quotaGuardActive then (state, "")
  else if page.videoId ≠ "" ∧ page.strong then (state, "")
  else if !config.shouldRunDataApiSearch prepared cycle then (state, "")
  else if prepared.fastMode ∧ config.VIDEO_RESOLVER_FAST_SEARCH_WINDOW_SEC ≤ elapsedSec then
    (state, "")
  else if prepared.fastMode ∧
      config.VIDEO_RESOLVER_FAST_SEARCH_MAX_CALLS ≤ state.fastSearchEpisodeCalls then (state, "")
  else if sinceLastSec < config.VIDEO_RESOLVER_SEARCH_MIN_INTERVAL_SEC then (state, "")
  else
    ({ state with
        lastDataApiSearchTs := cycle.nowTs
        fastSearchEpisodeCalls :=
          if prepared.fastMode then state.fastSearchEpisodeCalls + 1
          else state.fastSearchEpisodeCalls },
      strip cycle.search)

/-- The candidates that a source of this cycle names. -/
def ResolverConfig.sourceCandidates : List (String × String) :=
  let oauth := config.resolveOauthProbe prepared cycle
  let page := config.resolveLivePageCandidate prepared cycle
  let searched := (config.runDataApiSearch prepared cycle).2
  (if oauth.probeOk ∧ oauth.videoId ≠ "" then [(strip oauth.videoId, "oauth")] else []) ++
  (if page.videoId ≠ "" ∧ page.strong then [(page.videoId, page.source)] else []) ++
  (if searched ≠ "" then [(searched, "data_api_search")] else []) ++
  (if page.videoId ≠ "" ∧ !page.strong then [(page.videoId, page.source)] else []) ++
  (if config.configuredVideoId ≠ "" ∧ prepared.allowCfgFallback then
    [(config.configuredVideoId, "configured")] else [])

/-- The candidates of a cycle; the saved id is one while it is fresh. -/
def ResolverConfig.candidates : List (String × String) :=
  config.sourceCandidates prepared cycle ++
    if config.cachedFreshVideoId prepared.state cycle.nowTs ≠ "" then
      [(strip prepared.state.videoId, "resolver_cache")] else []

/-- `url_preservation.active`. -/
def ResolverConfig.preserves : Bool :=
  config.urlPreservationActive cycle.nowTs prepared.fastMode prepared.state.fastSearchWindowStartTs

def ResolverConfig.select : String × String × CandidateDetails :=
  chooseVideoCandidate (config.candidates prepared cycle) (strip prepared.state.videoId)
    (config.preserves prepared cycle)

def buildSkipState : ResolverState :=
  { prepared.state with
    fastModeActive := prepared.fastMode
    fastModeBadStreak := prepared.badStreak
    fastModeGoodStreak := prepared.goodStreak }

def buildResolvedState (searched : ResolverState) (nowTs : Int)
    (selected : String × String × CandidateDetails) : ResolverState :=
  { searched with
    lastAttemptTs := nowTs
    resolvedTs := if selected.1 ≠ "" then nowTs else searched.resolvedTs
    videoId := if selected.1 ≠ "" then selected.1 else strip searched.videoId
    source := selected.2.1
    fastModeActive := prepared.fastMode
    fastModeBadStreak := prepared.badStreak
    fastModeGoodStreak := prepared.goodStreak
    candidateDetails := selected.2.2
    configuredFallbackUses :=
      if selected.2.1 = "configured" then searched.configuredFallbackUses + 1
      else searched.configuredFallbackUses }

/-- `main`: the state that a cycle saves. -/
def ResolverConfig.main : ResolverState :=
  let prepared := config.prepare state cycle
  if prepared.skip then buildSkipState prepared
  else
    buildResolvedState prepared (config.runDataApiSearch prepared cycle).1 cycle.nowTs
      (config.select prepared cycle)

/-! ### What a cycle leaves -/

variable {config state prepared cycle}

/-- What the preparation reads before it opens or closes the window. -/
def carried (state : ResolverState) : String × Int × Int :=
  (state.videoId, state.resolvedTs, state.fastSearchWindowStartTs)

theorem carried_fallback (nowTs : Int) (configured : String) :
    carried (config.allowConfiguredFallback state nowTs configured).1 = carried state := rfl

theorem carried_ended (nowTs : Int) (raw : Bool) :
    carried (config.updateRemoteEndedState state nowTs raw).1 = carried state := rfl

theorem carried_ready (nowTs : Int) (ready : Bool) :
    carried (config.applyIngestReadyMemory state nowTs ready).1 = carried state := rfl

/-- The window opens in the first cycle of the episode whose ingest is ready. -/
theorem carried_episode (nowTs : Int) (fast previous ready : Bool) :
    carried (updateFastSearchEpisode state nowTs fast previous ready) =
      ((carried state).1, (carried state).2.1,
        if fast then
          (if ready && decide ((if previous then (carried state).2.2 else 0) ≤ 0) then nowTs
          else if previous then (carried state).2.2 else 0)
        else 0) := by
  cases fast <;> rfl

theorem carried_prepare :
    carried (config.prepare state cycle).state =
      (state.videoId, state.resolvedTs,
        if (config.prepare state cycle).fastMode then
          (if (config.prepare state cycle).ingestReady &&
              decide ((if state.fastModeActive then state.fastSearchWindowStartTs else 0) ≤ 0)
            then cycle.nowTs
          else if state.fastModeActive then state.fastSearchWindowStartTs else 0)
        else 0) := by
  rw [ResolverConfig.prepare, carried_episode, carried_ready, carried_ended, carried_fallback]
  rfl

@[simp] theorem prepare_videoId : (config.prepare state cycle).state.videoId = state.videoId :=
  congrArg Prod.fst carried_prepare

@[simp] theorem prepare_resolvedTs :
    (config.prepare state cycle).state.resolvedTs = state.resolvedTs :=
  congrArg (·.2.1) carried_prepare

theorem prepare_windowStartTs :
    (config.prepare state cycle).state.fastSearchWindowStartTs =
      if (config.prepare state cycle).fastMode then
        (if (config.prepare state cycle).ingestReady &&
            decide ((if state.fastModeActive then state.fastSearchWindowStartTs else 0) ≤ 0)
          then cycle.nowTs
        else if state.fastModeActive then state.fastSearchWindowStartTs else 0)
      else 0 :=
  congrArg (·.2.2) carried_prepare

variable (config prepared cycle) in
/-- A search changes nothing but its own bookkeeping. -/
theorem search_frame :
    (config.runDataApiSearch prepared cycle).1 = prepared.state ∨
      ∃ calls, (config.runDataApiSearch prepared cycle).1 =
        { prepared.state with lastDataApiSearchTs := cycle.nowTs, fastSearchEpisodeCalls := calls } := by
  unfold ResolverConfig.runDataApiSearch
  simp only
  split_ifs <;> first | exact Or.inl rfl | exact Or.inr ⟨_, rfl⟩

@[simp] theorem search_videoId :
    (config.runDataApiSearch prepared cycle).1.videoId = prepared.state.videoId := by
  rcases search_frame config prepared cycle with same | ⟨_, same⟩ <;>
    rw [same]

@[simp] theorem search_resolvedTs :
    (config.runDataApiSearch prepared cycle).1.resolvedTs = prepared.state.resolvedTs := by
  rcases search_frame config prepared cycle with same | ⟨_, same⟩ <;>
    rw [same]

@[simp] theorem search_windowStartTs :
    (config.runDataApiSearch prepared cycle).1.fastSearchWindowStartTs =
      prepared.state.fastSearchWindowStartTs := by
  rcases search_frame config prepared cycle with same | ⟨_, same⟩ <;>
    rw [same]

/-- A skipped cycle keeps the id and its time. -/
theorem main_skipped (skipped : (config.prepare state cycle).skip = true) :
    (config.main state cycle).videoId = state.videoId ∧
      (config.main state cycle).resolvedTs = state.resolvedTs := by
  simp [ResolverConfig.main, skipped, buildSkipState]

/-- A cycle that selects an id stamps it with its own time. -/
theorem main_selected (tried : (config.prepare state cycle).skip = false)
    (selected : (config.select (config.prepare state cycle) cycle).1 ≠ "") :
    (config.main state cycle).videoId = (config.select (config.prepare state cycle) cycle).1 ∧
      (config.main state cycle).resolvedTs = cycle.nowTs := by
  simp [ResolverConfig.main, tried, buildResolvedState, selected]

/-- A cycle that selects none keeps the id and its time. -/
theorem main_unresolved (tried : (config.prepare state cycle).skip = false)
    (none_ : (config.select (config.prepare state cycle) cycle).1 = "") :
    (config.main state cycle).videoId = strip state.videoId ∧
      (config.main state cycle).resolvedTs = state.resolvedTs := by
  simp [ResolverConfig.main, tried, buildResolvedState, none_]

/-- The saved fast mode is the result of the hysteresis, whether the cycle tries or not. -/
@[simp] theorem main_fastModeActive :
    (config.main state cycle).fastModeActive = (config.prepare state cycle).fastMode := by
  unfold ResolverConfig.main
  simp only
  split <;> rfl

@[simp] theorem main_windowStartTs :
    (config.main state cycle).fastSearchWindowStartTs =
      (config.prepare state cycle).state.fastSearchWindowStartTs := by
  unfold ResolverConfig.main
  simp only
  split
  · rfl
  · simp [buildResolvedState]

end LiveStream.Resolver

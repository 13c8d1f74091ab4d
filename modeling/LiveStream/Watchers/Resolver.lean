import LiveStream.Support.Value

/-! The policies of the resolver of the current video id: the fast mode and its hysteresis, the
memory of a ready ingest, the search episode, the choice among candidates, and the reuse of an
OAuth result that the watchdog keeps in its statistics. -/

namespace LiveStream.Resolver

open LiveStream.Support

/-- The settings of the resolver, and the whole seconds of a text that `datetime.fromisoformat`
reads. -/
structure ResolverConfig where
  CHANNEL_ID : String
  CHANNEL_LIVE_URL : String
  API_KEY : String
  VIDEO_ID : String
  LIVE_URL : String
  VIDEO_RESOLVER_MAX_AGE_SEC : Int
  VIDEO_RESOLVER_FAST_ENTER_STREAK : Int
  VIDEO_RESOLVER_FAST_EXIT_STREAK : Int
  VIDEO_RESOLVER_INGEST_READY_MEMORY_SEC : Int
  VIDEO_RESOLVER_REMOTE_ENDED_CONFIRM_SEC : Int
  VIDEO_RESOLVER_NORMAL_INTERVAL_SEC : Int
  VIDEO_RESOLVER_UNHEALTHY_INTERVAL_SEC : Int
  VIDEO_RESOLVER_FAST_REMOTE_PROBE : Bool
  VIDEO_RESOLVER_REQUIRE_INGEST_FOR_SEARCH : Bool
  VIDEO_RESOLVER_FAST_SEARCH_WINDOW_SEC : Int
  VIDEO_RESOLVER_FAST_SEARCH_MAX_CALLS : Int
  VIDEO_RESOLVER_SEARCH_MIN_INTERVAL_SEC : Int
  VIDEO_ID_CONFIGURED_FALLBACK_BOOT_SEC : Int
  URL_PRESERVATION_WINDOW_SEC : Int
  RESOLVER_REUSE_WATCHDOG_OAUTH_SEC : Int
  API_COST_BURN_RATE_OAUTH_MIN_INTERVAL_SEC : Int
  timestamp : String → Option Int

/-- `details` of a choice. -/
structure CandidateDetails where
  expectedVideoId : String := ""
  candidateNewUrlFound : Bool := false
  candidateNewVideoId : String := ""
  candidateNewVideoSource : String := ""
  candidateNewVideoReason : String := ""
  selectedCandidatePolicy : String := "first_available"
  deriving DecidableEq

/-- The state file of the resolver; the defaults are what an absent field reads as. -/
structure ResolverState where
  videoId : String := ""
  source : String := ""
  resolvedTs : Int := 0
  lastAttemptTs : Int := 0
  fastModeActive : Bool := false
  fastModeBadStreak : Int := 0
  fastModeGoodStreak : Int := 0
  fastSearchWindowStartTs : Int := 0
  fastSearchEpisodeCalls : Int := 0
  lastDataApiSearchTs : Int := 0
  ingestReadyLastTrueTs : Int := 0
  remoteEndedSinceTs : Int := 0
  startupAnchorTs : Int := 0
  configuredFallbackUses : Int := 0
  candidateDetails : CandidateDetails := {}
  deriving DecidableEq

/-- What the resolver reads of the statistics file of the watchdog. -/
structure WatchdogStats where
  tsUtc : String := ""
  ingestConnected : Option Bool := none
  videoId : String := ""
  apiLiveState : String := ""
  watchReason : String := ""
  oauthCheckedTsUtc : String := ""
  oauthProbeOk : Option Bool := none
  oauthVideoId : String := ""
  oauthChannelId : String := ""
  oauthLifeCycleStatus : String := ""

/-- What the resolver reads of an OAuth probe. -/
structure OAuthProbeResult where
  probeOk : Bool := false
  videoId : String := ""
  channelId : String := ""
  deriving DecidableEq

/-- The phrase occurs in the text. -/
def mentions (text phrase : String) : Bool := phrase.toList <:+: text.toList

/-- `text[:-1] + "+00:00"` where the text ends with `Z`. -/
def withOffset (text : String) : String :=
  match text.toList.getLast? with
  | some 'Z' => String.ofList (text.toList.dropLast ++ "+00:00".toList)
  | _ => text

/-- `configured_video_id`: the setting, or the id in the URL of the live page. -/
def ResolverConfig.configuredVideoId (config : ResolverConfig) : String :=
  if config.VIDEO_ID ≠ "" then strip config.VIDEO_ID
  else
    match config.LIVE_URL.toList.tails.find? ("watch?v=".toList <+: ·) with
    | some found => strip (String.ofList ((found.drop 8).takeWhile (· ≠ '&')))
    | none => ""

/-- `identity.parse_iso_ts`. -/
def ResolverConfig.parseIsoTs (config : ResolverConfig) (raw : String) : Int :=
  if strip raw = "" then 0 else (config.timestamp (withOffset (strip raw))).getD 0

/-- `resolve_fast_mode`, on what `detect_ingest_connected_now` says. -/
def resolveFastMode (stats : WatchdogStats) (connectedNow : Option Bool) (runtimeReason : String) :
    Bool × String :=
  match connectedNow with
  | some true => (false, runtimeReason)
  | some false => (true, runtimeReason)
  | none =>
    match stats.ingestConnected with
    | some true => (false, s!"stats fallback: ingest connected ({runtimeReason})")
    | some false => (true, s!"stats fallback: ingest disconnected ({runtimeReason})")
    | none => (false, s!"no ingest signal; normal mode ({runtimeReason})")

/-- The fast mode after a cycle, with the bad and the good streak. -/
def ResolverConfig.applyFastModeHysteresis (config : ResolverConfig) (state : ResolverState)
    (rawFastMode : Bool) : Bool × Int × Int :=
  if rawFastMode then
    let badStreak := state.fastModeBadStreak + 1
    (state.fastModeActive || decide (config.VIDEO_RESOLVER_FAST_ENTER_STREAK ≤ badStreak),
      badStreak, 0)
  else
    let goodStreak := state.fastModeGoodStreak + 1
    (state.fastModeActive && !decide (config.VIDEO_RESOLVER_FAST_EXIT_STREAK ≤ goodStreak),
      0, goodStreak)

def ingestReadyForSearchFromFastSignal (rawFastMode : Bool) (rawFastModeReason : String) : Bool :=
  let lowered := (strip rawFastModeReason).toLower
  !rawFastMode && (mentions lowered "runtime tcp connected" ||
    mentions lowered "stats fallback: ingest connected")

def livePageVideoIdIsStrong (reason : String) : Bool :=
  mentions (strip reason).toLower "channel live redirect"

/-- `has_recent_remote_ended`. -/
def ResolverConfig.hasRecentRemoteEnded (config : ResolverConfig) (stats : WatchdogStats)
    (nowTs : Int) : Bool :=
  let ts := config.parseIsoTs stats.tsUtc
  decide (0 < ts) && decide (nowTs - ts ≤ config.VIDEO_RESOLVER_MAX_AGE_SEC) &&
    (stats.ingestConnected == some true && (strip stats.apiLiveState).toLower = "ended" &&
      (strip stats.oauthLifeCycleStatus).toLower = "complete") &&
    (strip stats.videoId ≠ "" && strip stats.oauthVideoId ≠ "" &&
      strip stats.videoId = strip stats.oauthVideoId) &&
    !mentions (strip stats.watchReason).toLower "live marker detected"

/-- `update_remote_ended_state`: the moment since which the broadcast has ended, and whether that
is confirmed. -/
def ResolverConfig.updateRemoteEndedState (config : ResolverConfig) (state : ResolverState)
    (nowTs : Int) (raw : Bool) : ResolverState × Bool :=
  let sinceTs :=
    if raw then if state.remoteEndedSinceTs ≤ 0 then nowTs else state.remoteEndedSinceTs else 0
  let elapsedSec := if 0 < sinceTs then nowTs - sinceTs else 0
  ({ state with remoteEndedSinceTs := sinceTs },
    raw && decide (config.VIDEO_RESOLVER_REMOTE_ENDED_CONFIRM_SEC ≤ elapsedSec))

/-- `apply_ingest_ready_memory`: whether the ingest is ready, or was a moment ago. -/
def ResolverConfig.applyIngestReadyMemory (config : ResolverConfig) (state : ResolverState)
    (nowTs : Int) (ready : Bool) : ResolverState × Bool :=
  let lastTrueTs := if ready then nowTs else state.ingestReadyLastTrueTs
  ({ state with ingestReadyLastTrueTs := lastTrueTs },
    ready || (decide (0 < config.VIDEO_RESOLVER_INGEST_READY_MEMORY_SEC) && decide (0 < lastTrueTs) &&
      decide (nowTs - lastTrueTs ≤ config.VIDEO_RESOLVER_INGEST_READY_MEMORY_SEC)))

/-- `update_fast_search_episode`: the window opens in the first cycle of the episode whose ingest
is ready. -/
def updateFastSearchEpisode (state : ResolverState) (nowTs : Int)
    (fastMode prevFastMode ingestReady : Bool) : ResolverState :=
  if fastMode then
    let windowStartTs := if prevFastMode then state.fastSearchWindowStartTs else 0
    { state with
      fastSearchWindowStartTs :=
        if ingestReady && decide (windowStartTs ≤ 0) then nowTs else windowStartTs
      fastSearchEpisodeCalls := if prevFastMode then state.fastSearchEpisodeCalls else 0 }
  else { state with fastSearchWindowStartTs := 0, fastSearchEpisodeCalls := 0 }

/-- `url_preservation_state(...).active`. -/
def ResolverConfig.urlPreservationActive (config : ResolverConfig) (nowTs : Int) (fastMode : Bool)
    (windowStartTs : Int) : Bool :=
  fastMode && decide (0 < windowStartTs) &&
    decide (nowTs - windowStartTs < config.URL_PRESERVATION_WINDOW_SEC)

/-- `resolver_cadence(...).skip_current_attempt`. -/
def ResolverConfig.skipCurrentAttempt (config : ResolverConfig) (fastMode : Bool)
    (lastAttemptTs nowTs : Int) : Bool :=
  decide (0 < lastAttemptTs) && decide (nowTs - lastAttemptTs <
    if fastMode then config.VIDEO_RESOLVER_UNHEALTHY_INTERVAL_SEC
    else config.VIDEO_RESOLVER_NORMAL_INTERVAL_SEC)

/-- `allow_configured_fallback`, with the anchor of the boot window. -/
def ResolverConfig.allowConfiguredFallback (config : ResolverConfig) (state : ResolverState)
    (nowTs : Int) (cfgVideoId : String) : ResolverState × Bool :=
  let anchorTs := if state.startupAnchorTs ≤ 0 then nowTs else state.startupAnchorTs
  ({ state with startupAnchorTs := anchorTs },
    cfgVideoId ≠ "" && decide (0 < config.VIDEO_ID_CONFIGURED_FALLBACK_BOOT_SEC) &&
      decide (state.configuredFallbackUses ≤ 0) && decide (state.resolvedTs ≤ 0) &&
      decide (nowTs - anchorTs ≤ config.VIDEO_ID_CONFIGURED_FALLBACK_BOOT_SEC))

/-- `cached_video_context(...).cached_fresh_video_id`. -/
def ResolverConfig.cachedFreshVideoId (config : ResolverConfig) (state : ResolverState)
    (nowTs : Int) : String :=
  if strip state.videoId ≠ "" ∧ 0 < state.resolvedTs ∧
      nowTs - state.resolvedTs ≤ config.VIDEO_RESOLVER_MAX_AGE_SEC then strip state.videoId
  else ""

/-- A fresh id is the saved one, and not old. -/
theorem ResolverConfig.fresh_of_cached {config : ResolverConfig} {state : ResolverState}
    {nowTs : Int} (fresh : config.cachedFreshVideoId state nowTs ≠ "") :
    strip state.videoId ≠ "" ∧ 0 < state.resolvedTs ∧
      nowTs - state.resolvedTs ≤ config.VIDEO_RESOLVER_MAX_AGE_SEC := by
  by_contra stale
  exact fresh (if_neg stale)

/-- `cached_video_context(...).cached_runtime_video_id`. -/
def ResolverConfig.cachedRuntimeVideoId (config : ResolverConfig) (state : ResolverState)
    (nowTs : Int) : String :=
  if (strip state.source).toLower ≠ "configured" then config.cachedFreshVideoId state nowTs else ""

/-- `reuse_windows(...).oauth_sec`. -/
def ResolverConfig.reuseOauthSec (config : ResolverConfig) (apiCostGuardActive : Bool) : Int :=
  if apiCostGuardActive then
    max config.RESOLVER_REUSE_WATCHDOG_OAUTH_SEC config.API_COST_BURN_RATE_OAUTH_MIN_INTERVAL_SEC
  else config.RESOLVER_REUSE_WATCHDOG_OAUTH_SEC

/-- `oauth_from_watchdog_stats_cache`: a result without a check time is as old as the file. -/
def ResolverConfig.oauthFromWatchdogStatsCache (config : ResolverConfig) (stats : WatchdogStats)
    (nowTs maxAgeSec : Int) : Option OAuthProbeResult :=
  let checkedTs := config.parseIsoTs stats.oauthCheckedTsUtc
  let ts := if checkedTs ≤ 0 then config.parseIsoTs stats.tsUtc else checkedTs
  if maxAgeSec ≤ 0 ∨ ts ≤ 0 ∨ maxAgeSec < nowTs - ts then none
  else stats.oauthProbeOk.map fun probeOk =>
    { probeOk, videoId := strip stats.oauthVideoId, channelId := strip stats.oauthChannelId }

/-! ### The choice among candidates -/

/-- The candidates with an id, each id once. -/
def cleanCandidates (seen : List String) : List (String × String) → List (String × String)
  | [] => []
  | (videoId, source) :: rest =>
    if strip videoId = "" ∨ strip videoId ∈ seen then cleanCandidates seen rest
    else (strip videoId, if strip source = "" then "unknown" else strip source) ::
      cleanCandidates (strip videoId :: seen) rest

/-- The choice outside the window: the first candidate. -/
def firstAvailable (clean : List (String × String)) (expected : String) :
    String × String × CandidateDetails :=
  match clean with
  | [] => ("", "none", { expectedVideoId := expected })
  | (videoId, source) :: _ =>
    (videoId, source,
      if expected ≠ "" ∧ videoId ≠ expected then
        { expectedVideoId := expected, candidateNewUrlFound := true
          candidateNewVideoId := videoId, candidateNewVideoSource := source
          candidateNewVideoReason := "different video id selected after url preservation window"
          selectedCandidatePolicy := "new_url_allowed_after_window" }
      else { expectedVideoId := expected })

def chooseVideoCandidate (candidates : List (String × String)) (expectedVideoId : String)
    (urlPreservationActive : Bool) : String × String × CandidateDetails :=
  let clean := cleanCandidates [] candidates
  let expected := strip expectedVideoId
  if urlPreservationActive ∧ expected ≠ "" then
    match clean.find? fun candidate => candidate.1 = expected with
    | some (videoId, source) =>
      (videoId, source,
        { expectedVideoId := expected, selectedCandidatePolicy := "preserve_expected_url" })
    | none =>
      match clean.find? fun candidate => candidate.1 ≠ expected with
      | some (videoId, source) =>
        (expected, "expected_url_preserved",
          { expectedVideoId := expected, candidateNewUrlFound := true
            candidateNewVideoId := videoId, candidateNewVideoSource := source
            candidateNewVideoReason :=
              "different video id observed during url preservation window; kept expected URL"
            selectedCandidatePolicy := "preserve_expected_url_candidate_held" })
      | none => firstAvailable clean expected
  else firstAvailable clean expected

theorem mem_cleanCandidates {seen : List String} {candidates : List (String × String)}
    {videoId : String} :
    videoId ∈ (cleanCandidates seen candidates).map Prod.fst ↔
      videoId ≠ "" ∧ videoId ∉ seen ∧ ∃ candidate ∈ candidates, strip candidate.1 = videoId := by
  induction candidates generalizing seen with
  | nil => simp [cleanCandidates]
  | cons head rest inductionHypothesis =>
    obtain ⟨name, source⟩ := head
    by_cases dropped : strip name = "" ∨ strip name ∈ seen
    · rw [cleanCandidates, if_pos dropped, inductionHypothesis]
      constructor
      · rintro ⟨some_, unseen, candidate, member, same⟩
        exact ⟨some_, unseen, candidate, List.mem_cons_of_mem _ member, same⟩
      · rintro ⟨some_, unseen, candidate, member, same⟩
        rcases List.mem_cons.mp member with rfl | member
        · rcases dropped with empty | already
          · exact absurd (same.symm.trans empty) some_
          · exact absurd (same ▸ already) unseen
        · exact ⟨some_, unseen, candidate, member, same⟩
    · rw [cleanCandidates, if_neg dropped, List.map_cons, List.mem_cons, inductionHypothesis]
      obtain ⟨nonempty, fresh⟩ := not_or.mp dropped
      constructor
      · rintro (rfl | ⟨some_, unseen, candidate, member, same⟩)
        · exact ⟨nonempty, fresh, _, List.mem_cons_self, rfl⟩
        · exact ⟨some_, fun member => unseen (List.mem_cons_of_mem _ member), candidate,
            List.mem_cons_of_mem _ member, same⟩
      · rintro ⟨some_, unseen, candidate, member, same⟩
        by_cases head : videoId = strip name
        · exact Or.inl head
        · refine Or.inr ⟨some_, ?_, ?_⟩
          · simpa [head] using unseen
          · rcases List.mem_cons.mp member with rfl | member
            · exact absurd same.symm head
            · exact ⟨candidate, member, same⟩

/-- The first clean candidate is the first one with an id. -/
theorem head_cleanCandidates (candidates : List (String × String)) :
    ((cleanCandidates [] candidates).head?.map Prod.fst) =
      (candidates.map fun candidate => strip candidate.1).find? (· ≠ "") := by
  induction candidates with
  | nil => rfl
  | cons head rest inductionHypothesis =>
    obtain ⟨name, source⟩ := head
    by_cases empty : strip name = ""
    · simp [cleanCandidates, empty, inductionHypothesis]
    · simp [cleanCandidates, empty]

/-- While the URL is preserved and any id is found, the expected id is chosen. -/
theorem choose_preserved {candidates : List (String × String)} {expected : String}
    (some_ : strip expected ≠ "") :
    (chooseVideoCandidate candidates expected true).1 =
      if cleanCandidates [] candidates = [] then "" else strip expected := by
  unfold chooseVideoCandidate
  simp only [some_, ne_eq, not_false_eq_true, and_self, if_true]
  cases found : (cleanCandidates [] candidates).find? fun candidate =>
      decide (candidate.1 = strip expected) with
  | some candidate =>
    have same := List.find?_some found
    have nonempty : cleanCandidates [] candidates ≠ [] :=
      List.ne_nil_of_mem (List.mem_of_find?_eq_some found)
    simp only [nonempty, if_false]
    exact of_decide_eq_true same
  | none =>
    cases shape : cleanCandidates [] candidates with
    | nil => simp [firstAvailable]
    | cons head rest =>
      have other : ¬ head.1 = strip expected := by
        have all := List.find?_eq_none.mp found head (by rw [shape]; exact List.mem_cons_self)
        simpa using all
      simp [other]

/-- Outside the window the first candidate with an id is chosen. -/
theorem choose_first {candidates : List (String × String)} {expected : String} {active : Bool}
    (free : ¬ (active = true ∧ strip expected ≠ "")) :
    (chooseVideoCandidate candidates expected active).1 =
      ((candidates.map fun candidate => strip candidate.1).find? (· ≠ "")).getD "" := by
  rw [← head_cleanCandidates]
  unfold chooseVideoCandidate
  simp only [free, if_false]
  cases cleanCandidates [] candidates with
  | nil => rfl
  | cons head rest => rfl

/-- What is chosen is the expected id or the id of a candidate. -/
theorem choose_mem {candidates : List (String × String)} {expected : String} {active : Bool}
    (some_ : (chooseVideoCandidate candidates expected active).1 ≠ "") :
    (chooseVideoCandidate candidates expected active).1 = strip expected ∨
      ∃ candidate ∈ candidates,
        strip candidate.1 = (chooseVideoCandidate candidates expected active).1 := by
  by_cases held : active = true ∧ strip expected ≠ ""
  · obtain ⟨rfl, named⟩ := held
    rw [choose_preserved named] at some_ ⊢
    split at some_
    · exact absurd rfl some_
    · left
      rw [if_neg (by assumption)]
  · rw [choose_first held] at some_ ⊢
    right
    cases found : (candidates.map fun candidate => strip candidate.1).find? (· ≠ "") with
    | none =>
      rw [found] at some_
      exact absurd rfl some_
    | some videoId =>
      obtain ⟨candidate, member, same⟩ := List.mem_map.mp (List.mem_of_find?_eq_some found)
      exact ⟨candidate, member, same⟩

end LiveStream.Resolver

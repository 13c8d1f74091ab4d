import LiveStream.Observation.VerifiedClock
import LiveStream.Support.HeadRun
import LiveStream.Support.Run

/-! A confirmed stall of the viewer's clock really lasted: what the analyzer counts in its fields
are the readings of one run. Lists of calls are newest first here. -/

namespace LiveStream.Observation

open LiveStream.Support

def ClockCall.reading : ClockCall → Option (Fin 86400)
  | .unknown _ => none
  | .analyze capture => capture.reading

/-- A call that does not tell of another stream. -/
def ClockCall.keeps (identity : String) : ClockCall → Bool
  | .unknown _ => true
  | .analyze capture => capture.identity = identity

/-- A valid reading, with the calls between the valid reading before it and itself. -/
structure ClockReading where
  identity : String
  value : Fin 86400
  mono : ℚ
  since : List ClockCall
  deriving DecidableEq

/-- The calls since the last valid reading. -/
def unread (calls : List ClockCall) : List ClockCall :=
  calls.takeWhile fun call => call.reading.isNone

def Capture.asReading (capture : Capture) (value : Fin 86400) (earlier : List ClockCall) :
    ClockReading :=
  ⟨capture.identity, value, capture.capturedMonotonic, unread earlier⟩

/-- The valid readings. -/
def readings : List ClockCall → List ClockReading
  | [] => []
  | .unknown _ :: earlier => readings earlier
  | .analyze capture :: earlier =>
    match capture.reading with
    | none => readings earlier
    | some value => capture.asReading value earlier :: readings earlier

/-- Equal readings of one stream, the newer later than the older by no more than the largest gap. -/
def equalReadings (config : VerifiedClockConfig) (newer older : ClockReading) : Prop :=
  newer.identity = older.identity ∧ newer.value = older.value ∧
    0 < newer.mono - older.mono ∧ newer.mono - older.mono ≤ config.maximumGapSeconds

/-- Equal readings with no capture of another stream in between. -/
def continues (config : VerifiedClockConfig) (newer older : ClockReading) : Prop :=
  equalReadings config newer older ∧ newer.since.all (ClockCall.keeps newer.identity)

instance (config : VerifiedClockConfig) : DecidableRel (equalReadings config) :=
  fun _ _ => inferInstanceAs (Decidable (_ ∧ _ ∧ _ ∧ _))

instance (config : VerifiedClockConfig) : DecidableRel (continues config) :=
  fun _ _ => inferInstanceAs (Decidable (_ ∧ _))

/-- The gap between two readings when nothing else was observed in between. -/
def observedGap (newer older : ClockReading) : ℚ :=
  if newer.since = [] then newer.mono - older.mono else 0

/-- The time from the first to the last reading. -/
def lasted : List ClockReading → ℚ
  | [] => 0
  | newest :: older => newest.mono - ((newest :: older).getLast (List.cons_ne_nil _ _)).mono

theorem lasted_eq (run : List ClockReading) :
    lasted run = overLinks (fun newer older => newer.mono - older.mono) run := by
  cases run with
  | nil => rfl
  | cons newest older => exact (overLinks_sub ClockReading.mono newest older).symm

theorem observed_le_lasted {config : VerifiedClockConfig} {run : List ClockReading}
    (chained : run.IsChain (continues config)) : overLinks observedGap run ≤ lasted run := by
  rw [lasted_eq]
  apply overLinks_le chained
  intro newer older link
  unfold observedGap
  split_ifs
  · exact le_rfl
  · exact link.1.2.2.1.le

section History

@[simp] theorem unread_nil : unread [] = [] := rfl

theorem unread_idle {call : ClockCall} (idle : call.reading = none) (calls : List ClockCall) :
    unread (call :: calls) = call :: unread calls := by
  simp [unread, idle]

theorem unread_read {call : ClockCall} {value : Fin 86400} (valid : call.reading = some value)
    (calls : List ClockCall) : unread (call :: calls) = [] := by
  simp [unread, valid]

theorem readings_idle {call : ClockCall} (idle : call.reading = none) (calls : List ClockCall) :
    readings (call :: calls) = readings calls := by
  cases call with
  | unknown reason => rfl
  | analyze capture =>
    have blank : capture.reading = none := idle
    simp [readings, blank]

theorem readings_read {capture : Capture} {value : Fin 86400}
    (valid : capture.reading = some value) (calls : List ClockCall) :
    readings (.analyze capture :: calls) = capture.asReading value calls :: readings calls := by
  simp [readings, valid]

theorem unread_analyze {capture : Capture} {value : Fin 86400}
    (valid : capture.reading = some value) (calls : List ClockCall) :
    unread (.analyze capture :: calls) = [] := by
  have read : (ClockCall.analyze capture).reading = some value := valid
  exact unread_read read calls

/-- The stream of the last capture. -/
def latestIdentity : List ClockCall → Option String
  | [] => none
  | .unknown _ :: earlier => latestIdentity earlier
  | .analyze capture :: _ => some capture.identity

/-- Where no capture since a reading is of another stream, the last capture is of its stream. -/
theorem latestIdentity_of_keeps {calls : List ClockCall} {reading : ClockReading}
    {older : List ClockReading} (shape : readings calls = reading :: older)
    (kept : (unread calls).all (ClockCall.keeps reading.identity)) :
    latestIdentity calls = some reading.identity := by
  induction calls with
  | nil => simp [readings] at shape
  | cons call calls inductionHypothesis =>
    cases idle : call.reading with
    | none =>
      rw [readings_idle idle] at shape
      rw [unread_idle idle, List.all_cons, Bool.and_eq_true] at kept
      cases call with
      | unknown reason => exact inductionHypothesis shape kept.2
      | analyze capture => simpa [latestIdentity, ClockCall.keeps] using kept.1
    | some value =>
      cases call with
      | unknown reason => simp [ClockCall.reading] at idle
      | analyze capture =>
        rw [readings_read idle, List.cons.injEq] at shape
        rw [latestIdentity, ← shape.1]
        rfl

/-- The run of the last reading, which a capture of another stream ends. -/
def lastRun (config : VerifiedClockConfig) (calls : List ClockCall) : List ClockReading :=
  match readings calls with
  | [] => []
  | reading :: older =>
    if (unread calls).all (ClockCall.keeps reading.identity) then
      headRun (continues config) (reading :: older)
    else []

/-- What is left of the last run when a capture of a stream comes. -/
def enteredRun (config : VerifiedClockConfig) (calls : List ClockCall) (identity : String) :
    List ClockReading :=
  if latestIdentity calls = some identity then lastRun config calls else []

/-- The run with one more reading. -/
def extend (config : VerifiedClockConfig) (run : List ClockReading) (reading : ClockReading) :
    List ClockReading :=
  match run with
  | [] => [reading]
  | last :: older =>
    if reading.value = last.value ∧ comparable config reading.mono ⟨last.value, last.mono⟩ then
      reading :: last :: older
    else [reading]

theorem lastRun_unknown (config : VerifiedClockConfig) (reason : String) (calls : List ClockCall) :
    lastRun config (.unknown reason :: calls) = lastRun config calls := by
  unfold lastRun
  rw [readings_idle rfl, unread_idle rfl]
  simp [ClockCall.keeps]

theorem lastRun_idle (config : VerifiedClockConfig) {capture : Capture}
    (blank : capture.reading = none) (calls : List ClockCall) :
    lastRun config (.analyze capture :: calls) = enteredRun config calls capture.identity := by
  have idle : (ClockCall.analyze capture).reading = none := blank
  unfold enteredRun lastRun
  rw [readings_idle idle, unread_idle idle]
  cases shape : readings calls with
  | nil => simp
  | cons reading older =>
    by_cases kept : (unread calls).all (ClockCall.keeps reading.identity) = true
    · have latest := latestIdentity_of_keeps shape kept
      simp [kept, latest, ClockCall.keeps, eq_comm]
    · simp [kept]

/-- A reading continues the last one exactly when the analyzer would say so: the streams between
them are those of the capture that was analyzed last. -/
theorem continues_iff (config : VerifiedClockConfig) (capture : Capture) (value : Fin 86400)
    {calls : List ClockCall} {reading : ClockReading} {older : List ClockReading}
    (shape : readings calls = reading :: older) :
    continues config (capture.asReading value calls) reading ↔
      (unread calls).all (ClockCall.keeps reading.identity) ∧
        latestIdentity calls = some capture.identity ∧ value = reading.value ∧
        comparable config capture.capturedMonotonic ⟨reading.value, reading.mono⟩ := by
  constructor
  · rintro ⟨⟨identity, equal, later, near⟩, kept⟩
    change capture.identity = reading.identity at identity
    change (unread calls).all (ClockCall.keeps capture.identity) = true at kept
    rw [identity] at kept ⊢
    exact ⟨kept, latestIdentity_of_keeps shape kept, equal, later, near⟩
  · rintro ⟨kept, latest, equal, later, near⟩
    have identity : reading.identity = capture.identity :=
      Option.some.inj ((latestIdentity_of_keeps shape kept).symm.trans latest)
    rw [identity] at kept
    exact ⟨⟨identity.symm, equal, later, near⟩, kept⟩

theorem lastRun_read (config : VerifiedClockConfig) {capture : Capture} {value : Fin 86400}
    (valid : capture.reading = some value) (calls : List ClockCall) :
    lastRun config (.analyze capture :: calls) =
      extend config (enteredRun config calls capture.identity)
        (capture.asReading value calls) := by
  have whole : lastRun config (.analyze capture :: calls) =
      headRun (continues config) (capture.asReading value calls :: readings calls) := by
    unfold lastRun
    rw [readings_read valid, unread_analyze valid]
    simp
  rw [whole]
  unfold enteredRun lastRun
  cases shape : readings calls with
  | nil => simp [headRun, extend]
  | cons reading older =>
    have same := continues_iff config capture value shape
    obtain ⟨rest, first⟩ := headRun_cons (continues config) reading older
    by_cases link : continues config (capture.asReading value calls) reading
    · obtain ⟨kept, latest, equal, near⟩ := same.mp link
      rw [headRun_cons_of_linked link, if_pos latest]
      simp only [kept, if_true]
      rw [first, extend]
      exact (if_pos ⟨equal, near⟩).symm
    · rw [headRun_cons_of_not link]
      have apart := fun all => link (same.mpr all)
      by_cases latest : latestIdentity calls = some capture.identity
      · rw [if_pos latest]
        by_cases kept : (unread calls).all (ClockCall.keeps reading.identity) = true
        · simp only [kept, if_true]
          rw [first, extend, if_neg]
          rintro ⟨equal, near⟩
          exact apart ⟨kept, latest, equal, near⟩
        · simp [kept, extend]
      · rw [if_neg latest]
        rfl

end History

/-- The fields of the analyzer, of a run and the calls since its last reading. -/
structure Tracks (run : List ClockReading) (pending : List ClockCall) (state : Analyzer) :
    Prop where
  previous : state.previous = run.head?.map fun reading => ⟨reading.value, reading.mono⟩
  first : state.firstValueAt = run.getLast?.map ClockReading.mono
  stalls : state.stalls = run.length - 1
  span : state.frozenSpan = lasted run
  observed : state.frozenObserved = overLinks observedGap run
  gap : run ≠ [] → state.gapSinceValid = decide (pending ≠ [])

section Steps

variable {config : VerifiedClockConfig} {calls : List ClockCall} {state : Analyzer}

theorem tracks_enter (tracks : Tracks (lastRun config calls) (unread calls) state)
    (latest : state.identity = latestIdentity calls) (identity : String) :
    Tracks (enteredRun config calls identity) (unread calls) (state.enter identity) := by
  unfold enteredRun Analyzer.enter
  rw [latest]
  by_cases same : latestIdentity calls = some identity
  · rw [if_pos same, if_pos same]
    exact tracks
  · rw [if_neg same, if_neg same]
    exact ⟨rfl, rfl, rfl, rfl, rfl, fun nonempty => absurd rfl nonempty⟩

@[simp] theorem enter_identity (state : Analyzer) (identity : String) :
    (state.enter identity).identity = some identity := by
  unfold Analyzer.enter
  split_ifs with same
  · exact same
  · rfl

/-- A call that reads nothing leaves a gap and keeps the run. -/
theorem Tracks.blank {run : List ClockReading} {pending : List ClockCall}
    (tracks : Tracks run pending state) (call : ClockCall) (later : Analyzer)
    (gap : later.gapSinceValid = true)
    (kept : (later.previous, later.firstValueAt, later.stalls, later.frozenSpan,
      later.frozenObserved) = (state.previous, state.firstValueAt, state.stalls, state.frozenSpan,
      state.frozenObserved)) : Tracks run (call :: pending) later := by
  simp only [Prod.mk.injEq] at kept
  obtain ⟨previous, first, stalls, span, observed⟩ := kept
  constructor
  · exact previous.trans tracks.previous
  · exact first.trans tracks.first
  · exact stalls.trans tracks.stalls
  · exact span.trans tracks.span
  · exact observed.trans tracks.observed
  · exact fun _ => by simp [gap]

theorem forward_eq_zero {value previous : Fin 86400} : forward value previous = 0 ↔ value = previous := by
  have small := value.isLt
  have bound := previous.isLt
  simp only [forward, Fin.ext_iff]
  split_ifs <;> omega

variable (config) in
/-- A reading that moved, or that is not comparable, starts a run of its own. -/
theorem judge_moved {previous : LastReading} {value : Fin 86400}
    (moved : value ≠ previous.value) (mono : ℚ) :
    let judged := state.judge config mono previous value
    judged.1.firstValueAt = some mono ∧ judged.1.stalls = 0 ∧ judged.1.frozenSpan = 0 ∧
      judged.1.frozenObserved = 0 ∧ judged.2.1 ≠ .stalledConfirmed := by
  have ahead : forward value previous.value ≠ 0 := fun still => moved (forward_eq_zero.mp still)
  simp only [Analyzer.judge, if_neg ahead]
  split_ifs
  · exact ⟨rfl, rfl, rfl, rfl, by simp⟩
  · exact ⟨rfl, rfl, rfl, rfl, by simp⟩
  · exact ⟨rfl, rfl, rfl, rfl, by simp⟩
  · exact ⟨rfl, rfl, rfl, rfl, by simp⟩

theorem tracks_single {reading : ClockReading} {later : Analyzer}
    (previous : later.previous = some ⟨reading.value, reading.mono⟩)
    (first : later.firstValueAt = some reading.mono) (stalls : later.stalls = 0)
    (span : later.frozenSpan = 0) (observed : later.frozenObserved = 0)
    (gap : later.gapSinceValid = false) : Tracks [reading] [] later :=
  ⟨previous, first, stalls, span.trans (sub_self reading.mono).symm, observed, fun _ => by simp [gap]⟩

variable (config) in
/-- A valid reading extends the run, and is a confirmed stall exactly when the run lasted. -/
theorem tracks_read {run : List ClockReading} (reading : ClockReading) {capture : Capture}
    (tracks : Tracks run reading.since state) (mono : reading.mono = capture.capturedMonotonic) :
    Tracks (extend config run reading) [] (state.read config capture reading.value).1 ∧
      ((state.read config capture reading.value).2.clockState = .stalledConfirmed ↔
        3 ≤ (extend config run reading).length ∧
          config.stallSeconds ≤ overLinks observedGap (extend config run reading)) := by
  cases run with
  | nil =>
    have none : state.previous = none := tracks.previous
    simp only [Analyzer.read, none, extend, ← mono]
    refine ⟨tracks_single rfl rfl rfl rfl rfl rfl, ?_⟩
    simp [Analyzer.row]
  | cons last older =>
    have some : state.previous = some ⟨last.value, last.mono⟩ := tracks.previous
    simp only [Analyzer.read, some, extend, ← mono]
    by_cases near : comparable config reading.mono ⟨last.value, last.mono⟩
    · rw [if_pos near]
      by_cases equal : reading.value = last.value
      · have still : forward reading.value last.value = 0 := forward_eq_zero.mpr equal
        have first := tracks.first
        have stalls : state.stalls = older.length := tracks.stalls
        have observed := tracks.observed
        have gap := tracks.gap (List.cons_ne_nil last older)
        rw [if_pos ⟨equal, near⟩]
        have total : (if state.gapSinceValid then state.frozenObserved
            else state.frozenObserved + (reading.mono - last.mono)) =
            overLinks observedGap (reading :: last :: older) := by
          rw [gap, observed, overLinks, observedGap]
          by_cases clean : reading.since = []
          · simp [clean, add_comm]
          · simp [clean]
        simp only [Analyzer.judge, still, if_true]
        constructor
        · constructor
          · rfl
          · simpa using first
          · simp [stalls]
          · simp only [first, lasted]
            rw [List.getLast?_eq_getLast_of_ne_nil (List.cons_ne_nil last older)]
            simp
          · exact total
          · exact fun _ => by simp
        · simp only [Analyzer.row, total, stalls, List.length_cons]
          split_ifs with long
          · simp only [true_iff]
            exact ⟨by omega, long.2⟩
          · simp only [reduceCtorEq, false_iff]
            exact fun both => long ⟨by omega, both.2⟩
      · rw [if_neg fun both => equal both.1]
        generalize shape : Analyzer.judge config _ reading.mono ⟨last.value, last.mono⟩
          reading.value = judged
        obtain ⟨first, stalls, span, observed, verdict⟩ :=
          shape ▸ judge_moved config equal _
        refine ⟨tracks_single rfl first stalls span observed rfl, ?_⟩
        simpa [Analyzer.row] using verdict
    · rw [if_neg near, if_neg fun both => near both.2]
      refine ⟨tracks_single rfl rfl rfl rfl rfl rfl, ?_⟩
      simp [Analyzer.row]

variable (config) in
/-- Every result tells of the fields as the call leaves them. -/
theorem result_frozen (state : Analyzer) (call : ClockCall) :
    (state.call config call).2.clockFrozenSeconds =
        roundDigits 3 (state.call config call).1.frozenSpan ∧
      (state.call config call).2.clockFrozenObservedSeconds =
        roundDigits 3 (state.call config call).1.frozenObserved := by
  cases call with
  | unknown reason => exact ⟨rfl, rfl⟩
  | analyze capture =>
    simp only [Analyzer.call, Analyzer.analyze]
    split_ifs
    · exact ⟨rfl, rfl⟩
    · exact ⟨rfl, rfl⟩
    · cases capture.pair with
      | none => exact ⟨rfl, rfl⟩
      | some value => exact ⟨rfl, rfl⟩

end Steps

/-- What the calls made so far leave. -/
structure Follows (config : VerifiedClockConfig) (calls : List ClockCall) (state : Analyzer) :
    Prop where
  identity : state.identity = latestIdentity calls
  tracks : Tracks (lastRun config calls) (unread calls) state

section Runs

variable {config : VerifiedClockConfig} {calls : List ClockCall} {state : Analyzer}

theorem Follows.unknown (follows : Follows config calls state) (reason : String) :
    Follows config (.unknown reason :: calls) (state.call config (.unknown reason)).1 := by
  constructor
  · exact follows.identity
  · rw [lastRun_unknown, unread_idle rfl]
    exact follows.tracks.blank _ _ rfl rfl

theorem read_identity (state : Analyzer) (capture : Capture) (value : Fin 86400) :
    (state.read config capture value).1.identity = state.identity := by
  simp only [Analyzer.read]
  split
  · split_ifs
    · simp only [Analyzer.judge]
      split_ifs <;> rfl
    · rfl
  · rfl

variable (config) in
/-- A capture is blank, or it is read after the analyzer has entered its stream. -/
theorem analyze_cases (state : Analyzer) (capture : Capture) :
    (capture.reading = none ∧
      (state.analyze config capture).2.clockState ≠ .stalledConfirmed ∧
      (state.analyze config capture).1.gapSinceValid = true ∧
      let entered := state.enter capture.identity
      let later := (state.analyze config capture).1
      later.identity = entered.identity ∧
      (later.previous, later.firstValueAt, later.stalls, later.frozenSpan, later.frozenObserved) =
        (entered.previous, entered.firstValueAt, entered.stalls, entered.frozenSpan,
          entered.frozenObserved)) ∨
    ∃ (value : Fin 86400) (entered : Analyzer), capture.reading = some value ∧
      state.analyze config capture = entered.read config capture value ∧
      entered = { state.enter capture.identity with
        stats := entered.stats
        lastCaptureEpoch := some capture.capturedEpoch
        failures := 0 } := by
  simp only [Analyzer.analyze, Capture.reading]
  cases cropped : capture.cropped with
  | false => exact .inl ⟨by simp, by simp [Analyzer.unknown, Analyzer.row], rfl, rfl, rfl⟩
  | true =>
    cases black : capture.black with
    | true => exact .inl ⟨by simp, by simp [Analyzer.row], rfl, rfl, rfl⟩
    | false =>
      cases pair : capture.pair with
      | none => exact .inl ⟨by simp, by simp [Analyzer.row], rfl, rfl, rfl⟩
      | some value => exact .inr ⟨value, _, by simp, rfl, rfl⟩

theorem Follows.entered (follows : Follows config calls state) (capture : Capture)
    (entered : Analyzer)
    (shape : entered = { state.enter capture.identity with
      stats := entered.stats
      lastCaptureEpoch := some capture.capturedEpoch
      failures := 0 }) :
    Tracks (enteredRun config calls capture.identity) (unread calls) entered := by
  have tracks := tracks_enter follows.tracks follows.identity capture.identity
  rw [shape]
  exact ⟨tracks.previous, tracks.first, tracks.stalls, tracks.span, tracks.observed, tracks.gap⟩

theorem Follows.analyze (follows : Follows config calls state) (capture : Capture) :
    Follows config (.analyze capture :: calls) (state.call config (.analyze capture)).1 ∧
      ((state.call config (.analyze capture)).2.clockState = .stalledConfirmed ↔
        capture.reading.isSome ∧ 3 ≤ (lastRun config (.analyze capture :: calls)).length ∧
          config.stallSeconds ≤
            overLinks observedGap (lastRun config (.analyze capture :: calls))) := by
  rcases analyze_cases config state capture with
    ⟨blank, verdict, gap, identity, kept⟩ | ⟨value, entered, valid, run, shape⟩
  · refine ⟨⟨?_, ?_⟩, ?_⟩
    · exact identity.trans (enter_identity state capture.identity)
    · have idle : (ClockCall.analyze capture).reading = none := blank
      rw [lastRun_idle config blank, unread_idle idle]
      have tracks := tracks_enter follows.tracks follows.identity capture.identity
      exact tracks.blank (.analyze capture) _ gap kept
    · constructor
      · exact fun confirmed => absurd confirmed verdict
      · intro both
        rw [blank] at both
        exact absurd both.1 (by simp)
  · have tracks := follows.entered capture entered shape
    obtain ⟨later, verdict⟩ := tracks_read config (capture.asReading value calls)
      tracks rfl
    simp only [Analyzer.call]
    rw [run, lastRun_read config valid]
    refine ⟨⟨?_, ?_⟩, ?_⟩
    · rw [read_identity, shape]
      exact enter_identity state capture.identity
    · rw [lastRun_read config valid, unread_analyze valid]
      exact later
    · rw [valid]
      exact verdict.trans ⟨fun both => ⟨rfl, both⟩, fun all => all.2⟩

theorem Follows.call (follows : Follows config calls state) (call : ClockCall) :
    Follows config (call :: calls) (state.call config call).1 := by
  cases call with
  | unknown reason => exact follows.unknown reason
  | analyze capture => exact (follows.analyze capture).1

theorem follows_final (config : VerifiedClockConfig) (calls : List ClockCall) :
    Follows config calls.reverse (final (Analyzer.call config) {} calls) := by
  induction calls using List.reverseRecOn with
  | nil => exact ⟨rfl, rfl, rfl, rfl, rfl, rfl, fun nonempty => absurd rfl nonempty⟩
  | append_singleton calls call inductionHypothesis =>
    rw [final_append, List.reverse_append]
    exact inductionHypothesis.call call

theorem confirmed_iff (follows : Follows config calls state) (call : ClockCall) :
    (state.call config call).2.clockState = .stalledConfirmed ↔
      call.reading.isSome ∧ 3 ≤ (lastRun config (call :: calls)).length ∧
        config.stallSeconds ≤ overLinks observedGap (lastRun config (call :: calls)) := by
  cases call with
  | unknown reason => simp [Analyzer.call, Analyzer.unknown, Analyzer.row, ClockCall.reading]
  | analyze capture => exact (follows.analyze capture).2

theorem chained_lastRun (config : VerifiedClockConfig) (calls : List ClockCall) :
    (lastRun config calls).IsChain (continues config) := by
  unfold lastRun
  cases readings calls with
  | nil => exact .nil
  | cons reading older =>
    dsimp only
    split_ifs
    · exact (isHeadRun_headRun _ _).chained
    · exact .nil

/-- A run of readings with no capture of another stream since is the one that is kept. -/
theorem lastRun_eq {run : List ClockReading}
    (isRun : IsHeadRun (continues config) (readings calls) run)
    (kept : ∀ reading ∈ (readings calls).head?,
      (unread calls).all (ClockCall.keeps reading.identity)) : lastRun config calls = run := by
  rw [isRun.eq_headRun]
  unfold lastRun
  cases shape : readings calls with
  | nil => rfl
  | cons reading older =>
    rw [shape] at kept
    exact if_pos (kept reading rfl)

/-- After a valid reading nothing has been observed since. -/
theorem unread_of_reading {call : ClockCall} (valid : call.reading.isSome) (calls : List ClockCall) :
    unread (call :: calls) = [] := by
  obtain ⟨value, shape⟩ := Option.isSome_iff_exists.mp valid
  exact unread_read shape calls

end Runs

end LiveStream.Observation

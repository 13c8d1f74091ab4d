import LiveStream.Fallback.CopyHeartbeat
import LiveStream.Fallback.SourceAge
import LiveStream.Fallback.UtcIndependence

/-! How old a sample of the facts producer is, and the record of the copy process behind it. -/

namespace LiveStream.Fallback

open LiveStream.Support

section Fresh

variable (settings : Settings) (value : Value) (received boottime sourceAge : ℚ)

/-- A sample says that its copy is fresh. -/
def Sample.Fresh (sample : Sample) : Prop :=
  ∃ route, sample.route = some route ∧ route.copyObservationFresh = true

theorem stoppedRelay_stale (availability raw cp : Value) :
    (stoppedRelay availability raw cp received).Yields fun result => ¬ result.1.Fresh := by
  unfold stoppedRelay
  repeat refine yields_bind fun _ _ => ?_
  refine yields_pure ?_
  rintro ⟨route, found, _⟩
  cases found

theorem unavailableCopy_stale (destination : String) (availability raw cp : Value) :
    (unavailableCopy destination availability raw cp received).Yields
      fun result => ¬ result.1.Fresh := by
  unfold unavailableCopy
  repeat refine yields_bind fun _ _ => ?_
  refine yields_pure ?_
  rintro ⟨route, found, _⟩
  cases found

/-- Only a fresh observation gives the sample of a route. -/
theorem observedRoute_fresh (destination : String) (observation raw cp : Value) :
    (observedRoute destination observation raw cp received boottime sourceAge).Yields fun _ =>
      ∃ new, copyFreshness observation sourceAge = .ok (true, new) := by
  unfold observedRoute
  refine yields_bind fun _ _ => yields_bind fun freshness read => ?_
  obtain ⟨fresh, new⟩ := freshness
  refine yields_bind fun _ passed => ?_
  obtain rfl := require_singleton passed
  repeat refine yields_bind fun _ _ => ?_
  exact yields_pure ⟨new, read⟩

/-- What `copy_route_sample` admits. -/
structure Admitted (value : Value) (sourceAge : ℚ) (sample : Sample) : Prop where
  within : sourceAge ≤ MAX_FACT_AGE
  fresh : sample.Fresh → ∃ observation new, value.getD "copy_observation" .none = .ok observation ∧
    copyFreshness observation sourceAge = .ok (true, new)

theorem readCopyRoute_admitted :
    (readCopyRoute settings value received boottime sourceAge).Yields fun result =>
      Admitted value sourceAge result.1 := by
  unfold readCopyRoute
  refine yields_bind fun _ _ => yields_bind fun _ _ => yields_bind fun _ passed => ?_
  have within : sourceAge ≤ MAX_FACT_AGE := by
    have both := require_singleton passed
    rw [Bool.and_eq_true, decide_eq_true_eq, decide_eq_true_eq] at both
    exact both.2
  repeat refine yields_bind fun _ _ => ?_
  split_ifs
  · intro result yielded
    exact ⟨within, fun fresh => absurd fresh (stoppedRelay_stale _ _ _ _ result yielded)⟩
  · intro result yielded
    exact ⟨within, fun fresh => absurd fresh (unavailableCopy_stale _ _ _ _ _ result yielded)⟩
  · refine yields_bind fun observation found => ?_
    intro result yielded
    obtain ⟨new, read⟩ := observedRoute_fresh _ _ _ _ _ _ _ result yielded
    exact ⟨within, fun _ => ⟨observation, new, of_liftM found, read⟩⟩

theorem copyRouteSample_admitted {sample : Sample}
    (given : (copyRouteSample settings value received boottime sourceAge).1 = some sample) :
    Admitted value sourceAge sample := by
  unfold copyRouteSample at given
  split at given
  · rename_i read
    cases given
    exact readCopyRoute_admitted settings value received boottime sourceAge _ read
  all_goals cases given

end Fresh

/-- A fresh observation of the heartbeat is confirmed, and its age and the source's are within
the limit together. -/
theorem copyFreshness_toValue {observation : CopyObservation} {sourceAge : ℚ} {new : Bool}
    (read : copyFreshness observation.toValue sourceAge = .ok (true, new)) :
    observation.confirmed = true ∧ observation.ageSeconds + max 0 sourceAge ≤ MAX_FACT_AGE := by
  obtain ⟨age, aged, rest⟩ := bind_eq_ok.mp read
  obtain ⟨_, _, rest⟩ := bind_eq_ok.mp rest
  obtain ⟨number, required, rest⟩ := bind_eq_ok.mp rest
  obtain ⟨_, _, rest⟩ := bind_eq_ok.mp rest
  obtain ⟨confirmed, confirms, rest⟩ := bind_eq_ok.mp rest
  obtain ⟨renewed, renews, rest⟩ := bind_eq_ok.mp rest
  cases of_liftM aged
  cases of_liftM confirms
  cases (of_requireNumber required).1
  have fresh := congrArg Prod.fst (pure_eq_ok.mp rest)
  simpa [Value.isTrue] using fresh

/-- A sample that `observe` gives comes from an accepted exchange. -/
theorem observe_exchanged {settings : Settings} {fromisoformat : String → IsoReading}
    {exchange : FactsExchange} {value : Value} {sample : Sample} {started completed : Instant}
    (fetched : exchange.fetched = .ok value) (began : capture exchange.started = .ok started)
    (ended : capture exchange.completed = .ok completed)
    (given : (observe settings fromisoformat exchange).1 = some sample) :
    ∃ exchanged sourceMono sourceAge, value.index "clock" = .ok exchanged ∧
      value.path ["relay", "observed_boottime_seconds"] = .ok sourceMono ∧
      Exchanged exchanged started completed sourceMono MAX_FACT_AGE sourceAge ∧
      Admitted value sourceAge sample := by
  have sampled : (sampleOfFacts settings value exchange started completed).1 = some sample := by
    unfold observe at given
    rw [began, ended, fetched] at given
    dsimp only at given
    split at given
    · exact given
    · split at given
      · exact given
      · cases given
  unfold sampleOfFacts at sampled
  dsimp only at sampled
  split at sampled
  · rename_i age accepted
    obtain ⟨exchanged, clocked, rest⟩ := bind_eq_ok.mp accepted
    obtain ⟨bootId, _, rest⟩ := bind_eq_ok.mp rest
    obtain ⟨sourceMono, observed, aged⟩ := bind_eq_ok.mp rest
    refine ⟨exchanged, sourceMono, age, of_liftM clocked, of_liftM observed, ?_, ?_⟩
    · exact monotonicSourceAge_exchanged _ _ _ _ _ _ _ _ age aged
    · exact copyRouteSample_admitted _ _ _ _ _ sampled
  all_goals cases sampled

/-- The polls of the heartbeat, and a record that one of them found changed: the one before found
another record of the same copy process, and every later one the same. -/
structure FoundChange (polls : List CopyPoll) (change : CopyPoll) : Prop where
  found : ∃ front earlier later, polls = front ++ earlier :: change :: later ∧
    earlier.Changes change ∧ ∀ poll ∈ later, poll.record = change.record

/-- What the producer collects for an answer; it reads its boottime before it polls the record. -/
structure Collection where
  polls : List CopyPoll
  last : CopyPoll
  source : ℚ
  ordered : source ≤ last.now

/-- The observation of the heartbeat in the answer. -/
def Collection.observation (collection : Collection) : CopyObservation :=
  ((final CopyHeartbeat.observe .new collection.polls).observe collection.last).2

/-- The record behind a fresh observation was found changed recently. -/
theorem Collection.found_change {collection : Collection} {sourceAge : ℚ} {new : Bool}
    (read : copyFreshness collection.observation.toValue sourceAge = .ok (true, new))
    {epochs : Epochs} {received : Instant}
    (aged : epochs.elapsed collection.source received ≤ sourceAge) :
    ∃ change, FoundChange (collection.polls ++ [collection.last]) change ∧
      epochs.elapsed change.now received ≤ MAX_FACT_AGE := by
  obtain ⟨confirmed, within⟩ := copyFreshness_toValue read
  obtain ⟨front, earlier, change, later, split, changes, same, age⟩ :=
    observe_confirmed collection.polls collection.last confirmed
  refine ⟨change, ⟨⟨front, earlier, later, split, changes, same⟩⟩, ?_⟩
  have since : collection.last.now - change.now ≤ collection.observation.ageSeconds :=
    age ▸ le_max_right _ _
  have clamped := le_max_right 0 sourceAge
  have ordered := collection.ordered
  unfold Epochs.elapsed at aged ⊢
  linarith

/-- The age of facts is an upper bound: on that of an exchange, and so on that of a sample and of
the change that its copy observation reports. -/
theorem facts_age :
    (∀ value nonce sent received machine bootId sourceMono maxAge age answered source,
      monotonicSourceAge value nonce sent received machine bootId sourceMono maxAge = .ok age →
      Reads value ["sent", "mono"] answered → sourceMono.finite? = .ok (some source) →
      (∀ epochs : Epochs, epochs.Between sent received answered →
        epochs.elapsed source received ≤ age) ∧
      (source ≤ answered ∨ MAX_EXCHANGE ≤ maxAge → age ≤ maxAge)) ∧
    (∀ settings fromisoformat exchange value sample started completed answered source,
      exchange.fetched = .ok value → capture exchange.started = .ok started →
      capture exchange.completed = .ok completed →
      (observe settings fromisoformat exchange).1 = some sample →
      Reads value ["clock", "sent", "mono"] answered →
      Reads value ["relay", "observed_boottime_seconds"] source →
      ∀ epochs : Epochs, epochs.Between started completed answered →
        epochs.elapsed source completed ≤ MAX_FACT_AGE ∧
        ∀ collection : Collection, collection.source = source →
          value.getD "copy_observation" .none = .ok collection.observation.toValue →
          sample.Fresh → ∃ change, FoundChange (collection.polls ++ [collection.last]) change ∧
            epochs.elapsed change.now completed ≤ MAX_FACT_AGE) := by
  constructor
  · intro value nonce sent received machine bootId sourceMono maxAge age answered source accepted
      reads observed
    have exchanged := monotonicSourceAge_exchanged _ _ _ _ _ _ _ _ age accepted
    constructor
    · intro epochs between
      exact exchanged.elapsed_le reads observed between
    · exact exchanged.le_limit reads observed
  · intro settings fromisoformat exchange value sample started completed answered source fetched
      began ended given reads observes epochs between
    obtain ⟨exchanged, sourceMono, sourceAge, clocked, observed, accepted, admitted⟩ :=
      observe_exchanged fetched began ended given
    have answers : Reads exchanged ["sent", "mono"] answered := by
      obtain ⟨found, at_path, number⟩ := reads
      obtain ⟨clock, at_clock, rest⟩ := bind_eq_ok.mp at_path
      cases at_clock.symm.trans clocked
      exact ⟨found, rest, number⟩
    have started : sourceMono.finite? = .ok (some source) := by
      obtain ⟨found, at_path, number⟩ := observes
      cases at_path.symm.trans observed
      exact number
    have aged := accepted.elapsed_le answers started between
    refine ⟨aged.trans admitted.within, ?_⟩
    rintro collection rfl reported fresh
    obtain ⟨observation, new, found, read⟩ := admitted.fresh fresh
    cases reported.symm.trans found
    exact collection.found_change read aged

/-- A record of the copy process with a count of bytes. -/
def copyRecord (bytes : Int) : CopyRecord where
  schema := "stream_v3.youtube_forward.v1"
  pid := 8
  bootId := "boot"
  session := 1
  destinationFingerprint := String.ofList (List.replicate 64 'b')
  updatedAt := "2026-01-01T00:00:00Z"
  state := "FLOWING"
  outputBytes := bytes
  videoPackets := 1
  audioPackets := 1
  lastProgressAt := "2026-01-01T00:00:00Z"

/-- A record that is written once more, a second after the producer first reads it. -/
def writtenOnce (time : ℚ) : CopyRecord := if time < 1 then copyRecord 10 else copyRecord 20

/-- The producer reads it twice, nine minutes apart. -/
def rarelyCollected : Collection where
  polls := [⟨writtenOnce 0, "status.json", 0⟩]
  last := ⟨writtenOnce 540, "status.json", 540⟩
  source := 540
  ordered := le_refl 540

/-- The exchange for the second reading. -/
def rareExchange : FactsExchange :=
  { labelledExchange 0 "2026-01-01T00:00:00Z" 12 with
    fetched := .ok ((labelledFacts 0 "2026-01-01T00:00:00Z" 12).update "copy_observation"
      fun _ => rarelyCollected.observation.toValue) }

theorem rareExchange_fresh : ∃ sample,
    (observe steadySettings (fun _ => .invalid) rareExchange).1 = some sample ∧ sample.Fresh := by
  have fresh : ((observe steadySettings (fun _ => .invalid) rareExchange).1.any fun sample =>
      sample.route.any (·.copyObservationFresh)) = true := by
    decide +kernel
  obtain ⟨sample, given, found⟩ := (Option.any_eq_true _ _).mp fresh
  obtain ⟨route, bound, fresh⟩ := (Option.any_eq_true _ _).mp found
  exact ⟨sample, given, route, bound, fresh⟩

/-- The part of an answer that an exchange is checked with: the responder's boottime is 5 seconds
on when it answers. -/
def slowAnswer : Value :=
  .dict [("schema", .str SCHEMA), ("nonce", .str "0123456789abcdef0123456789abcdef"),
    ("machine_id_sha256", .str (String.ofList (List.replicate 64 'a'))), ("boot_id", .str "boot"),
    ("received", .dict [("wall", .int 0), ("mono", .int 100)]),
    ("sent", .dict [("wall", .int 5), ("mono", .int 105)])]

/-- An exchange of a bit over 10 seconds, for a source that was read at some boottime. -/
def slowAge (source maxAge : ℚ) : Facts ℚ :=
  monotonicSourceAge slowAnswer "0123456789abcdef0123456789abcdef" ⟨0, 0⟩ ⟨10, 10004 / 1000⟩
    (String.ofList (List.replicate 64 'a')) (.str "boot") (.float (.finite source)) maxAge

/-- Where one source is read 5 milliseconds after the answer, the exchange alone exceeds a limit of
10 seconds. And a record that last changed 9 minutes ago is fresh where nobody looked in between. -/
theorem facts_age_exceeded :
    ((slowAge (105005 / 1000) 10).toOption = some (10004 / 1000) ∧
        ¬ (10004 / 1000 : ℚ) ≤ 10) ∧
      (∃ sample, (observe steadySettings (fun _ => .invalid) rareExchange).1 = some sample ∧
        sample.Fresh) ∧
      (∀ poll ∈ rarelyCollected.polls ++ [rarelyCollected.last],
        poll.record = writtenOnce poll.now) ∧
      ∀ time, 1 ≤ time → writtenOnce time = writtenOnce rarelyCollected.last.now := by
  refine ⟨⟨by decide +kernel, by norm_num⟩, rareExchange_fresh, ?_, ?_⟩
  · simp [rarelyCollected]
  · intro time late
    rw [writtenOnce, if_neg (not_lt.mpr late)]
    decide +kernel

theorem reads_int {value : Value} {keys : List String} {number : Int}
    (at_path : value.path keys = .ok (.int number))
    (small : number.natAbs < Value.floatOverflow.natAbs) : Reads value keys number := by
  refine ⟨.int number, at_path, ?_⟩
  simp only [Value.finite?, small, if_true]

theorem facts_age_rare :
    (slowAge 105 45).toOption = some (10004 / 1000) ∧
      (∀ epochs : Epochs, epochs.Between ⟨0, 0⟩ ⟨10, 10004 / 1000⟩ 105 →
        epochs.elapsed 105 ⟨10, 10004 / 1000⟩ ≤ 10004 / 1000) ∧
      (10004 / 1000 : ℚ) ≤ 45 ∧
      ∃ change, FoundChange (rarelyCollected.polls ++ [rarelyCollected.last]) change ∧
        (Epochs.mk 0 0).elapsed change.now ⟨0, 540⟩ ≤ MAX_FACT_AGE := by
  have accepted : slowAge 105 45 = .ok (10004 / 1000) :=
    eq_ok_of_toOption (by decide +kernel)
  have bounds := facts_age.1 _ _ _ _ _ _ _ _ _ ((105 : Int) : ℚ) 105 accepted
    (reads_int rfl (by decide +kernel)) rfl
  refine ⟨by rw [accepted]; rfl, ?_, bounds.2 (Or.inl (by norm_num)), ?_⟩
  · intro epochs between
    exact bounds.1 epochs (by exact_mod_cast between)
  obtain ⟨sample, given, fresh⟩ := rareExchange_fresh
  have sampled := facts_age.2 steadySettings (fun _ => .invalid) rareExchange _ sample ⟨0, 540⟩
    ⟨0, 540⟩ ((540 : Int) : ℚ) ((540 : Int) : ℚ) rfl (by decide +kernel) (by decide +kernel) given
    (reads_int rfl (by decide +kernel)) (reads_int rfl (by decide +kernel)) ⟨0, 0⟩
    (by constructor <;> norm_num)
  exact sampled.2 rarelyCollected (by decide +kernel) rfl fresh

end LiveStream.Fallback

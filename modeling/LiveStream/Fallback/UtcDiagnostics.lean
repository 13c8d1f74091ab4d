import LiveStream.Fallback.UtcFacts

/-! The UTC diagnostics of `observe` decide nothing: whatever they raise on a mapping
is ignored, so that the sample is the one of the facts without them. -/

namespace LiveStream.Fallback

open LiveStream.Support

/-- The only errors raised satisfy the predicate. -/
def Facts.Raises {α : Type} (allowed : FactsError → Prop) (facts : Facts α) : Prop :=
  ∀ error, facts = .error error → allowed error

variable {α β : Type} {allowed : FactsError → Prop}

theorem raises_bind {first : Facts α} {next : α → Facts β} (begun : first.Raises allowed)
    (rest : ∀ value, (next value).Raises allowed) : Facts.Raises allowed (first >>= next) := by
  intro error raised
  cases first with
  | error other =>
    cases raised
    exact begun error rfl
  | ok value => exact rest value error raised

theorem raises_ok (value : α) : Facts.Raises allowed (.ok value : Facts α) := by
  intro error raised
  cases raised

theorem raises_error {error : FactsError} (holds : allowed error) :
    Facts.Raises allowed (.error error : Facts α) := by
  intro other raised
  cases raised
  exact holds

/-- What subscripts and number tests raise. -/
def OfLookup (error : PyError) : Prop :=
  error.kind = .key ∨ error.kind = .type ∨ error.kind = .overflow

/-- The read only raises what subscripts and number tests do. -/
def Lookup {α : Type} (read : Except PyError α) : Prop :=
  ∀ error, read = .error error → OfLookup error

theorem lookup_ok {α : Type} (value : α) : Lookup (.ok value : Except PyError α) := by
  intro error raised
  cases raised

theorem index_raises (value : Value) (key : String) (error : PyError)
    (raised : value.index key = .error error) : error.kind = .key ∨ error.kind = .type := by
  cases value with
  | dict fields =>
    cases found : Fields.get? fields key with
    | none =>
      rw [Value.index, found] at raised
      cases raised
      exact Or.inl rfl
    | some _ => rw [Value.index, found] at raised; cases raised
  | none | bool _ | int _ | float _ | str _ | list _ | foreign =>
    cases raised
    exact Or.inr rfl

theorem lookup_index (value : Value) (key : String) : Lookup (value.index key) := by
  intro error raised
  exact (index_raises value key error raised).imp_right Or.inl

theorem lookup_bind {α β : Type} {first : Except PyError α} {next : α → Except PyError β}
    (begun : Lookup first) (rest : ∀ value, Lookup (next value)) : Lookup (first >>= next) := by
  intro error raised
  cases first with
  | error other =>
    cases raised
    exact begun error rfl
  | ok value => exact rest value error raised

theorem lookup_map {α β : Type} {read : Except PyError α} (raises : Lookup read) (f : α → β) :
    Lookup (read.map f) := by
  intro error raised
  cases read with
  | error other =>
    cases raised
    exact raises error rfl
  | ok _ => cases raised

theorem lookup_finite (value : Value) : Lookup value.finite? := by
  intro error raised
  unfold Value.finite? at raised
  split at raised
  · split at raised
    · cases raised
    · cases raised
      exact Or.inr (Or.inr rfl)
  all_goals cases raised

theorem lookup_finiteAt (instant : Value) (key : String) : Lookup (finiteAt instant key) :=
  lookup_bind (lookup_index instant key) fun value =>
    lookup_bind (lookup_finite value) fun _ => lookup_ok _

theorem lookup_every {checks : List (Except PyError Bool)}
    (each : ∀ check ∈ checks, Lookup check) : Lookup (every checks) := by
  induction checks with
  | nil => exact lookup_ok true
  | cons check rest inductionHypothesis =>
    have later := inductionHypothesis fun other member => each other (List.mem_cons_of_mem _ member)
    cases found : check with
    | error error => exact fun other raised => each check (List.mem_cons_self ..) other (by
        cases raised; exact found)
    | ok passed =>
      cases passed with
      | true => exact later
      | false => exact lookup_ok false

/-- An error of a read, as the facts raise it. -/
theorem raises_lift {α : Type} {allowed : FactsError → Prop} {read : Except PyError α}
    (raises : Lookup read) (holds : ∀ error : PyError, OfLookup error → allowed (.python error)) :
    Facts.Raises allowed (liftM read) := by
  intro error raised
  cases read with
  | error other =>
    cases raised
    exact holds other (raises other rfl)
  | ok value => cases raised

/-- An error of a lookup, or a rejection by the clock contract. -/
def FactsError.OfClock : FactsError → Prop
  | .clock _ => True
  | .python error => OfLookup error
  | .observation _ => False

theorem raises_reject (condition : Prop) [Decidable condition] (reason : String) :
    Facts.Raises FactsError.OfClock (rejectIf condition (.clock reason)) := by
  intro error raised
  unfold rejectIf at raised
  split at raised
  · cases raised
    trivial
  · cases raised

theorem raises_requireAll {checks : List (Except PyError Bool)} {reason : String}
    (each : ∀ check ∈ checks, Lookup check) :
    (requireAll checks (.clock reason)).Raises FactsError.OfClock := by
  refine raises_bind (raises_lift (lookup_every each) fun _ found => found) fun passed => ?_
  exact raises_reject _ reason

theorem raises_requireNumber (value : Value) (accepts : ℚ → Bool) (reason : String) :
    (requireNumber value accepts (.clock reason)).Raises FactsError.OfClock := by
  refine raises_bind (raises_lift (lookup_finite value) fun _ found => found) fun found => ?_
  cases found with
  | none => exact raises_error trivial
  | some number =>
    refine raises_bind (raises_ok number) fun number => ?_
    exact raises_bind (raises_reject _ reason) fun _ => raises_ok number

theorem raises_asClockInvalid {α : Type} {facts : Facts α}
    (raises : facts.Raises FactsError.OfClock) :
    (asClockInvalid facts).Raises fun error => ∃ reason, error = .clock reason := by
  intro error raised
  cases facts with
  | ok value => cases raised
  | error other =>
    have found := raises other rfl
    cases other with
    | clock reason => cases raised; exact ⟨reason, rfl⟩
    | observation reason => exact found.elim
    | python kind =>
      have wrapped : kind.kind = .key ∨ kind.kind = .type ∨ kind.kind = .overflow := found
      rw [asClockInvalid, if_pos wrapped] at raised
      cases raised
      exact ⟨_, rfl⟩


theorem raises_of {α : Type} {allowed further : FactsError → Prop} {facts : Facts α}
    (raises : facts.Raises allowed) (weaker : ∀ error, allowed error → further error) :
    facts.Raises further :=
  fun error raised => weaker error (raises error raised)

/-- A rejection by the clock contract. -/
def FactsError.Clocked (error : FactsError) : Prop := ∃ reason, error = .clock reason

theorem raises_readInstant (instant : Value) :
    (readInstant instant).Raises FactsError.OfClock := by
  refine raises_bind (raises_lift (lookup_index instant "wall") fun _ found => found) fun wall => ?_
  refine raises_bind (raises_requireNumber wall _ _) fun _ => ?_
  refine raises_bind (raises_lift (lookup_index instant "mono") fun _ found => found) fun mono => ?_
  exact raises_bind (raises_requireNumber mono _ _) fun _ => raises_ok _

theorem raises_estimate (value : Value) (nonce : String) (sent received : Instant)
    (machine : String) (bootId : Option Value) (localBoot : String) :
    (estimate value nonce sent received machine bootId localBoot).Raises FactsError.Clocked := by
  have read : ∀ key, Lookup (value.index key) := lookup_index value
  have lifted : ∀ key, Facts.Raises FactsError.OfClock (liftM (value.index key)) :=
    fun key => raises_lift (read key) fun _ found => found
  unfold estimate
  refine raises_asClockInvalid ?_
  refine raises_bind (raises_requireAll ?_) fun _ => ?_
  · simp only [List.mem_cons, List.not_mem_nil, or_false]
    rintro check (rfl | rfl | rfl)
    · exact lookup_map (read _) _
    · exact lookup_ok _
    · exact lookup_map (read _) _
  refine raises_bind (raises_requireAll ?_) fun _ => ?_
  · simp only [List.mem_cons, List.not_mem_nil, or_false]
    rintro check (rfl | rfl | rfl | rfl)
    · exact lookup_ok _
    · exact lookup_map (read _) _
    · exact lookup_map (read _) _
    · exact lookup_map (read _) _
  refine raises_bind (lifted _) fun first => raises_bind (lifted _) fun last => ?_
  refine raises_bind (raises_requireAll ?_) fun _ => ?_
  · simp only [List.mem_cons, List.not_mem_nil, or_false]
    rintro check (rfl | rfl | rfl | rfl) <;> exact lookup_finiteAt _ _
  refine raises_bind (raises_readInstant first) fun _ => ?_
  refine raises_bind (raises_readInstant last) fun _ => ?_
  refine raises_bind (raises_reject _ _) fun _ => raises_bind (raises_reject _ _) fun _ => ?_
  exact raises_bind (raises_reject _ _) fun _ => raises_bind (lifted _) fun _ => raises_ok _

theorem raises_capture (reading : ClockReading) :
    (capture reading).Raises FactsError.Clocked := by
  unfold capture
  split
  · exact raises_error ⟨_, rfl⟩
  · exact raises_ok _

theorem Estimate.raises_bounds (model : Estimate) (now : Instant)
    (localIdentity : Option String) : (model.bounds now localIdentity).Raises FactsError.Clocked := by
  intro error raised
  simp only [Estimate.bounds] at raised
  split_ifs at raised
  all_goals
    cases raised
    try exact ⟨_, rfl⟩

/-- The error is one that the clauses after the diagnostics ignore. -/
def FactsError.Ignored (error : FactsError) : Prop := error.swallowed = true

theorem FactsError.Clocked.ignored (error : FactsError) (clocked : error.Clocked) :
    error.Ignored := by
  obtain ⟨reason, rfl⟩ := clocked
  rfl

theorem raises_require_ok (check : Bool) (reason : String) :
    (require [.ok check] reason).Raises FactsError.Ignored := by
  cases check with
  | true => exact raises_ok ()
  | false => exact raises_error rfl

theorem raises_lookup {α : Type} {read : Except PyError α}
    (raises : ∀ error, read = .error error → error.kind = .key ∨ error.kind = .type) :
    Facts.Raises FactsError.Ignored (liftM read) := by
  intro error raised
  cases read with
  | error other =>
    cases raised
    rcases raises other rfl with kind | kind <;>
      simp [FactsError.Ignored, FactsError.swallowed, kind]
  | ok value => cases raised

theorem raises_getD {value : Value} (mapping : value.isDict = true) (key : String)
    (default : Value) : Facts.Raises FactsError.Ignored (liftM (value.getD key default)) := by
  cases value with
  | dict fields => exact raises_ok _
  | none | bool _ | int _ | float _ | str _ | list _ | foreign => cases mapping

theorem path_raises (value : Value) (keys : List String) (error : PyError)
    (raised : value.path keys = .error error) : error.kind = .key ∨ error.kind = .type := by
  induction keys generalizing value with
  | nil => cases raised
  | cons key rest inductionHypothesis =>
    cases found : value.index key with
    | error other =>
      rw [Value.path, found] at raised
      cases raised
      exact index_raises value key error found
    | ok inner =>
      rw [Value.path, found] at raised
      exact inductionHypothesis inner raised

theorem raises_checkTimestamp (fromisoformat : String → IsoReading) (value : Value)
    (name : String) (model : Estimate) (reading : ClockReading) :
    (checkTimestamp fromisoformat value name model reading).Raises FactsError.Ignored := by
  unfold checkTimestamp
  refine raises_bind (raises_require_ok _ _) fun _ => ?_
  refine raises_bind ?_ fun text => ?_
  · cases value.text? with
    | none => exact raises_error rfl
    | some text => exact raises_ok text
  split
  · exact raises_error rfl
  · exact raises_error rfl
  · refine raises_bind (raises_of (raises_capture reading) FactsError.Clocked.ignored) fun now => ?_
    refine raises_bind (raises_of ?_ FactsError.Clocked.ignored) fun bounds => ?_
    · exact raises_bind (model.raises_bounds now none) fun _ => raises_ok _
    · exact raises_bind (raises_require_ok _ _) fun _ => raises_require_ok _ _

theorem raises_checkLabel (fromisoformat : String → IsoReading) {value : Value}
    (mapping : value.isDict = true) (part field name : String) (model : Estimate)
    (reading : ClockReading) :
    (checkLabel fromisoformat value part field name model reading).Raises FactsError.Ignored := by
  unfold checkLabel
  refine raises_bind (raises_getD mapping part .none) fun found => ?_
  split
  · exact raises_ok ()
  · refine raises_bind (raises_lookup (path_raises value [part, field])) fun label => ?_
    exact raises_checkTimestamp fromisoformat label name model reading

/-- On a mapping the diagnostics raise nothing that ends the observation. -/
theorem raises_utcDiagnostics (settings : Settings) (fromisoformat : String → IsoReading)
    {value : Value} (mapping : value.isDict = true) (exchange : FactsExchange)
    (started completed : Instant) :
    (utcDiagnostics settings fromisoformat value exchange started completed).Raises
      FactsError.Ignored := by
  have label := @raises_checkLabel fromisoformat value mapping
  unfold utcDiagnostics
  refine raises_bind (raises_getD mapping "clock" (.dict [])) fun exchanged => ?_
  refine raises_bind (raises_lookup (path_raises value _)) fun bootId => ?_
  refine raises_bind (raises_of (raises_estimate _ _ _ _ _ _ _) FactsError.Clocked.ignored) fun model => ?_
  refine raises_bind (raises_of (raises_capture _) FactsError.Clocked.ignored) fun now => ?_
  refine raises_bind (raises_of ?_ FactsError.Clocked.ignored) fun _ => ?_
  · exact raises_bind (model.raises_bounds now none) fun _ => raises_ok _
  exact raises_bind (label _ _ _ _ _) fun _ => raises_bind (label _ _ _ _ _) fun _ => label _ _ _ _ _

/-- The UTC diagnostics of an answer do not enter the observation. -/
theorem observe_eq (settings : Settings) (fromisoformat : String → IsoReading)
    {exchange : FactsExchange} {started completed : Instant} {value : Value}
    (begun : capture exchange.started = .ok started)
    (ended : capture exchange.completed = .ok completed) (fetched : exchange.fetched = .ok value) :
    observe settings fromisoformat exchange =
      if value.isDict then sampleOfFacts settings value exchange started completed
      else (none, "facts_invalid") := by
  simp only [observe, begun, ended, fetched]
  cases mapping : value.isDict with
  | true =>
    have ignored := raises_utcDiagnostics settings fromisoformat mapping exchange started completed
    cases raised : utcDiagnostics settings fromisoformat value exchange started completed with
    | ok _ => rfl
    | error error =>
      have swallowed : error.swallowed = true := ignored error raised
      simp [swallowed]
  | false =>
    have raised : value.getD "clock" (.dict []) =
        .error (attributeError "object has no attribute 'get'") := by
      cases value <;> first | rfl | cases mapping
    simp only [utcDiagnostics, raised]
    rfl

/-- A reading without its wall clock. -/
def ClockReading.withoutWall (reading : ClockReading) : ClockReading := { reading with wall := 0 }

/-- What one call of `observe` reads, without UTC. -/
def FactsExchange.withoutUtc (exchange : FactsExchange) : FactsExchange :=
  { exchange with
    started := exchange.started.withoutWall
    fetched := exchange.fetched.map Fallback.withoutUtc
    completed := exchange.completed.withoutWall
    modelReading := exchange.modelReading.withoutWall
    sourceReading := exchange.sourceReading.withoutWall
    copyReading := exchange.copyReading.withoutWall
    progressReading := exchange.progressReading.withoutWall }

/-- The labels of the answer, if there is one, are texts within their bounds. -/
def FactsExchange.WellTyped (exchange : FactsExchange) : Prop :=
  ∀ value, exchange.fetched = .ok value → Fallback.WellTyped value

theorem capture_withoutWall {left right : ClockReading}
    (same : left.withoutWall = right.withoutWall) :
    Facts.Related (fun first second => first.mono = second.mono) (capture left) (capture right) := by
  obtain ⟨before, wall, after⟩ := left
  obtain ⟨before', wall', after'⟩ := right
  simp only [ClockReading.withoutWall, ClockReading.mk.injEq, true_and] at same
  obtain ⟨rfl, rfl⟩ := same
  unfold capture
  by_cases delayed : EPSILON < after - before
  · simp only [delayed, if_true]
    exact rfl
  · simp only [delayed, if_false]
    exact rfl

/-- What the sample of the facts has in common, and the reason. -/
def SameObservation (left right : Option Sample × String) : Prop :=
  left.1.map Sample.unlabelled = right.1.map Sample.unlabelled

section Observations

variable {left right : FactsExchange} (same : left.withoutUtc = right.withoutUtc)
include same

theorem sampleOfFacts_related (settings : Settings) {value value' : Value}
    (masked : withoutUtc value = withoutUtc value') (typed : WellTyped value)
    (typed' : WellTyped value') {started started' completed completed' : Instant}
    (begun : started.mono = started'.mono) (ended : completed.mono = completed'.mono) :
    SameObservation (sampleOfFacts settings value left started completed)
      (sampleOfFacts settings value' right started' completed') := by
  have nonce : left.nonce = right.nonce := by
    simpa only [FactsExchange.withoutUtc] using congrArg FactsExchange.nonce same
  have received : left.received = right.received := by
    simpa only [FactsExchange.withoutUtc] using congrArg FactsExchange.received same
  have boottime : left.boottime = right.boottime := by
    simpa only [FactsExchange.withoutUtc] using congrArg FactsExchange.boottime same
  have ages : Facts.Related Eq
      (do
        let exchanged ← value.index "clock"
        let bootId ← value.path ["relay", "boot_id"]
        let sourceMono ← value.path ["relay", "observed_boottime_seconds"]
        monotonicSourceAge exchanged left.nonce started completed settings.expectedMachine bootId
          sourceMono MAX_FACT_AGE)
      (do
        let exchanged ← value'.index "clock"
        let bootId ← value'.path ["relay", "boot_id"]
        let sourceMono ← value'.path ["relay", "observed_boottime_seconds"]
        monotonicSourceAge exchanged right.nonce started' completed' settings.expectedMachine bootId
          sourceMono MAX_FACT_AGE) := by
    refine related_bind (exchangedClock_related masked) fun exchanged exchanged' _ _ clock => ?_
    rw [relayPath_of_withoutUtc masked (by decide), relayPath_of_withoutUtc masked (by decide)]
    refine related_same fun bootId => related_same fun sourceMono => ?_
    rw [nonce, monotonicSourceAge_related clock _ begun ended]
    exact related_refl
  have equal := eq_of_related ages
  unfold sampleOfFacts
  simp only [equal]
  split
  · rw [received, boottime]
    exact copyRouteSample_related masked typed typed' settings right.received right.boottime _
  · rfl
  · rfl
  · rfl

/-- Two observations that read the same but for UTC give the same sample but for a label. -/
theorem observe_related (settings : Settings) (fromisoformat fromisoformat' : String → IsoReading)
    (typed : left.WellTyped) (typed' : right.WellTyped) :
    SameObservation (observe settings fromisoformat left)
      (observe settings fromisoformat' right) := by
  have started : left.started.withoutWall = right.started.withoutWall := by
    simpa only [FactsExchange.withoutUtc] using congrArg FactsExchange.started same
  have completed : left.completed.withoutWall = right.completed.withoutWall := by
    simpa only [FactsExchange.withoutUtc] using congrArg FactsExchange.completed same
  have fetched : left.fetched.map withoutUtc = right.fetched.map withoutUtc := by
    simpa only [FactsExchange.withoutUtc] using congrArg FactsExchange.fetched same
  have begun := capture_withoutWall started
  have ended := capture_withoutWall completed
  cases first : capture left.started with
  | error error =>
    cases second : capture right.started with
    | error other => simp only [observe, first, second]; rfl
    | ok _ => rw [first, second] at begun; exact begun.elim
  | ok started =>
    cases second : capture right.started with
    | error other => rw [first, second] at begun; exact begun.elim
    | ok started' =>
      rw [first, second] at begun
      cases third : capture left.completed with
      | error error =>
        cases fourth : capture right.completed with
        | error other => simp only [observe, first, second, third, fourth]; rfl
        | ok _ => rw [third, fourth] at ended; exact ended.elim
      | ok completed =>
        cases fourth : capture right.completed with
        | error other => rw [third, fourth] at ended; exact ended.elim
        | ok completed' =>
          rw [third, fourth] at ended
          cases answer : left.fetched with
          | error failure =>
            cases other : right.fetched with
            | error failure' => simp only [observe, first, second, third, fourth, answer, other]; rfl
            | ok _ => rw [answer, other] at fetched; cases fetched
          | ok value =>
            cases other : right.fetched with
            | error failure => rw [answer, other] at fetched; cases fetched
            | ok value' =>
              rw [answer, other] at fetched
              rw [observe_eq settings fromisoformat first third answer,
                observe_eq settings fromisoformat' second fourth other,
                isDict_of_withoutUtc (Except.ok.inj fetched)]
              split
              · exact sampleOfFacts_related same settings (Except.ok.inj fetched)
                  (typed value answer) (typed' value' other) begun ended
              · rfl

end Observations

end LiveStream.Fallback

import LiveStream.Fallback.StopRule

/-! How old the facts are that a clock exchange admits, on the time line that both hosts share. -/

namespace LiveStream.Fallback

open LiveStream.Support

section Yields

variable {α : Type} {facts : Facts α} {property : α → Prop}

theorem yields_asClockInvalid (yields : facts.Yields property) :
    (asClockInvalid facts).Yields property := by
  intro value yielded
  cases facts with
  | ok other => exact yields value yielded
  | error error =>
    cases error with
    | observation reason => cases yielded
    | clock reason => cases yielded
    | python error =>
      unfold asClockInvalid at yielded
      dsimp only at yielded
      split at yielded <;> cases yielded

theorem of_liftM {lookup : Except PyError α} {value : α}
    (lifted : (liftM lookup : Facts α) = .ok value) : lookup = .ok value := by
  cases lookup with
  | ok other =>
    cases lifted
    rfl
  | error error => cases lifted

theorem of_requireNumber {value : Value} {accepts : ℚ → Bool} {error : FactsError} {number : ℚ}
    (required : requireNumber value accepts error = .ok number) :
    value.finite? = .ok (some number) ∧ accepts number = true := by
  obtain ⟨found, read, rest⟩ := bind_eq_ok.mp required
  obtain ⟨other, given, rest⟩ := bind_eq_ok.mp rest
  obtain ⟨_, accepted, same⟩ := bind_eq_ok.mp rest
  cases pure_eq_ok.mp same
  cases orReject_eq_ok.mp given
  refine ⟨of_liftM read, ?_⟩
  simpa using rejectIf_eq_ok.mp accepted

theorem eq_ok_of_toOption {value : α} (found : facts.toOption = some value) : facts = .ok value := by
  cases facts with
  | ok other => exact congrArg Except.ok (Option.some.inj found)
  | error error => cases found

end Yields

/-- The number at a path of an answer, as it is read from JSON. -/
def Reads (value : Value) (keys : List String) (number : ℚ) : Prop :=
  ∃ found, value.path keys = .ok found ∧ found.finite? = .ok (some number)

theorem Reads.unique {value : Value} {keys : List String} {first second : ℚ}
    (reads : Reads value keys first) (again : Reads value keys second) : first = second := by
  obtain ⟨found, at_path, number⟩ := reads
  obtain ⟨other, at_path_again, number_again⟩ := again
  cases at_path.symm.trans at_path_again
  cases number.symm.trans number_again
  rfl

/-- What an exchange establishes that `monotonic_source_age` accepts. -/
structure Exchanged (value : Value) (sent received : Instant) (sourceMono : Value) (maxAge age : ℚ) :
    Prop where
  readings : ∃ answered source, Reads value ["sent", "mono"] answered ∧
    sourceMono.finite? = .ok (some source) ∧
    age = max 0 (answered - source) + (received.mono - sent.mono) ∧
    answered - source + (received.mono - sent.mono) ≤ maxAge
  short : received.mono - sent.mono ≤ MAX_EXCHANGE

theorem monotonicSourceAge_exchanged (value : Value) (nonce : String) (sent received : Instant)
    (machine : String) (bootId sourceMono : Value) (maxAge : ℚ) :
    (monotonicSourceAge value nonce sent received machine bootId sourceMono maxAge).Yields
      (Exchanged value sent received sourceMono maxAge) := by
  unfold monotonicSourceAge
  refine yields_asClockInvalid ?_
  refine yields_bind fun _ _ => yields_bind fun _ _ => ?_
  refine yields_bind fun began _ => yields_bind fun answered answer => ?_
  refine yields_bind fun first _ => yields_bind fun second reads => ?_
  refine yields_bind fun _ _ => yields_bind fun source observed => ?_
  refine yields_bind fun _ timely => yields_bind fun _ fresh => ?_
  have bounded := (not_or.mp (rejectIf_eq_ok.mp timely)).1
  have recent := (not_or.mp (rejectIf_eq_ok.mp fresh)).2
  refine yields_pure ⟨⟨second, source, ⟨answered, of_liftM answer, (of_requireNumber reads).1⟩,
    (of_requireNumber observed).1, rfl, not_lt.mp recent⟩, ?_⟩
  exact (not_not.mp bounded).2

/-- The real times at which the boottime clocks of the two hosts stood at zero. Both run at the
rate of real time. -/
structure Epochs where
  client : ℚ
  responder : ℚ

/-- The answer was captured between the two captures of the client. -/
def Epochs.Between (epochs : Epochs) (sent received : Instant) (answered : ℚ) : Prop :=
  sent.mono + epochs.client ≤ answered + epochs.responder ∧
    answered + epochs.responder ≤ received.mono + epochs.client

/-- The time from a boottime of the responder to one of the client. -/
def Epochs.elapsed (epochs : Epochs) (source : ℚ) (received : Instant) : ℚ :=
  received.mono + epochs.client - (source + epochs.responder)

variable {value sourceMono : Value} {sent received : Instant} {maxAge age answered source : ℚ}

/-- The age is an upper bound, whatever the two directions of the exchange took. -/
theorem Exchanged.elapsed_le (exchanged : Exchanged value sent received sourceMono maxAge age)
    (reads : Reads value ["sent", "mono"] answered) (observed : sourceMono.finite? = .ok (some source))
    {epochs : Epochs} (between : epochs.Between sent received answered) :
    epochs.elapsed source received ≤ age := by
  obtain ⟨reading, start, read, started, rfl, _⟩ := exchanged.readings
  cases reads.unique read
  cases observed.symm.trans started
  have clamped := le_max_right 0 (answered - source)
  unfold Epochs.elapsed
  linarith [between.1]

/-- The age is within its limit, unless the source was read after the answer and the exchange
alone took longer than the limit. -/
theorem Exchanged.le_limit (exchanged : Exchanged value sent received sourceMono maxAge age)
    (reads : Reads value ["sent", "mono"] answered) (observed : sourceMono.finite? = .ok (some source))
    (long : source ≤ answered ∨ MAX_EXCHANGE ≤ maxAge) : age ≤ maxAge := by
  obtain ⟨reading, start, read, started, rfl, within⟩ := exchanged.readings
  cases reads.unique read
  cases observed.symm.trans started
  have short := exchanged.short
  rcases long with ordered | long
  · rw [max_eq_right (by linarith)]
    exact within
  · rcases max_cases 0 (answered - source) with ⟨clamped, _⟩ | ⟨clamped, _⟩
    · rw [clamped]
      linarith
    · rw [clamped]
      exact within

end LiveStream.Fallback

import LiveStream.Support.Keyed
import LiveStream.Twitch.Daily
import LiveStream.Twitch.SessionRuns

/-! What the transactions of the journal of the daily renewal keep: the rows of its outbox, and that it
is a run of the reducer. -/

namespace LiveStream.Twitch

open LiveStream.Support

/-! ### Rows of the outbox -/

/-- What every row keeps to. -/
structure Row.Fits (row : Row) : Prop where
  named : row.requestId = row.command.requestId
  attempts : row.phase = .pending ∧ row.attempts = 0 ∨ row.phase ≠ .pending ∧ row.attempts = 1
  outcome : ∀ outcome, row.outcome = some outcome → row.phase = .observed ∧ outcome.requestId = row.requestId

structure Journal.Fits (journal : Journal) : Prop where
  unique : (journal.outbox.map Row.requestId).Nodup
  rows : ∀ row ∈ journal.outbox, row.Fits

variable {approval : Approval} {policy : RenewalPolicy} {provider : Providers} {journal after : Journal}
  {command : Command} {outcome : Outcome} {old new : RenewalState}

theorem commit_ok {given : Option Command} (committed : journal.commit old new given = .ok after) :
    journal.state.revision = old.revision ∧ after.state = new ∧ after.writer = journal.writer ∧
      (∀ command ∈ given, ∀ row ∈ journal.outbox, row.requestId ≠ command.requestId) ∧
      after.outbox = journal.outbox ++
        given.toList.map fun command => ⟨command.requestId, command, .pending, 0, none⟩ := by
  unfold Journal.commit at committed
  simp only [bind_eq_ok, rejectIf_eq_ok, not_not] at committed
  obtain ⟨_, same, committed⟩ := committed
  cases given with
  | none =>
    obtain rfl := Except.ok.inj committed
    exact ⟨same, rfl, rfl, by rintro _ ⟨⟩, (List.append_nil _).symm⟩
  | some command =>
    simp only [bind_eq_ok, rejectIf_eq_ok] at committed
    obtain ⟨_, absent, committed⟩ := committed
    obtain rfl := Except.ok.inj committed
    refine ⟨same, rfl, rfl, ?_, rfl⟩
    rintro _ ⟨⟩ row member taken
    exact absent (List.any_eq_true.mpr ⟨row, member, decide_eq_true taken⟩)

/-- A filter of length one has a member. -/
theorem exists_of_filter_length {rows : List Row} {kind : Row → Bool}
    (one : (rows.filter kind).length = 1) : ∃ row ∈ rows, kind row = true := by
  obtain ⟨row, only⟩ := List.length_eq_one_iff.mp one
  have member : row ∈ rows.filter kind := by rw [only]; exact List.mem_singleton_self row
  exact ⟨row, (List.mem_filter.mp member).1, (List.mem_filter.mp member).2⟩

theorem dispatchOnce_ok (dispatched : journal.dispatchOnce command = .ok after) :
    (∃ row ∈ journal.outbox, Row.isUntried command.requestId row = true) ∧
      after.state = journal.state ∧
      after.outbox = updateWhere (Row.isUntried command.requestId) Row.dispatched journal.outbox := by
  unfold Journal.dispatchOnce at dispatched
  simp only [bind_eq_ok, rejectIf_eq_ok, not_not] at dispatched
  obtain ⟨_, one, made⟩ := dispatched
  obtain rfl := Except.ok.inj made
  exact ⟨exists_of_filter_length one, rfl, rfl⟩

theorem finish_ok {handlerId : Option String} (finished : journal.finish command outcome handlerId = .ok after) :
    (∃ row ∈ journal.outbox, Row.isTried command.requestId row = true) ∧ after.state = journal.state ∧
      after.outbox = updateWhere (Row.isTried command.requestId) (Row.finished outcome) journal.outbox := by
  unfold Journal.finish at finished
  simp only [bind_eq_ok, rejectIf_eq_ok, not_not] at finished
  obtain ⟨_, one, finished⟩ := finished
  refine ⟨exists_of_filter_length one, ?_⟩
  split at finished
  · simp only [bind_eq_ok, orReject_eq_ok] at finished
    obtain ⟨_, _, made⟩ := finished
    obtain rfl := Except.ok.inj made
    exact ⟨rfl, rfl⟩
  · obtain rfl := Except.ok.inj finished
    exact ⟨rfl, rfl⟩

/-- A transaction leaves the journal, or what it made; it returns only with what it made. -/
theorem transact_cases {result : Except String Journal} {save : Save} {returned : Except String Unit}
    (ended : transact journal result save = (after, returned)) :
    (after = journal ∧ (∃ known, returned = .error known) ∧ ¬ (result.isOk ∧ save ≠ .lost)) ∨
      result = .ok after ∧ result.isOk ∧ save ≠ .lost := by
  unfold transact at ended
  split at ended
  · obtain ⟨rfl, rfl⟩ := Prod.mk.inj ended
    exact Or.inl ⟨rfl, ⟨_, rfl⟩, by rintro ⟨⟨⟩, _⟩⟩
  · split at ended
    · obtain ⟨rfl, rfl⟩ := Prod.mk.inj ended
      exact Or.inr ⟨rfl, rfl, by rintro ⟨⟩⟩
    · obtain ⟨rfl, rfl⟩ := Prod.mk.inj ended
      exact Or.inl ⟨rfl, ⟨_, rfl⟩, fun both => both.2 rfl⟩
    · obtain ⟨rfl, rfl⟩ := Prod.mk.inj ended
      exact Or.inr ⟨rfl, rfl, by rintro ⟨⟩⟩

/-! ### The journal as a run of the reducer -/

/-- The outbox holds the commands of a run, and then others; what the run heard is in it. -/
structure Adopts (policy : RenewalPolicy) (outbox : List Row) (adopted : List Tick) (rest : List Command) :
    Prop where
  commands : outbox.map Row.command = commands (trace (renew policy) .initial adopted) ++ rest
  heard : ∀ turn ∈ trace (renew policy) .initial adopted, ∀ outcome, turn.event.outcome = some outcome →
    ∃ row ∈ outbox, row.outcome = some outcome

/-- The journal is a run of the reducer. -/
structure Clean (policy : RenewalPolicy) (journal : Journal) (adopted : List Tick) : Prop where
  state : journal.state = final (renew policy) .initial adopted
  adopts : Adopts policy journal.outbox adopted []

/-- The journal ended with a stop after a fault, which nobody has observed. -/
structure Stopped (policy : RenewalPolicy) (journal : Journal) (adopted : List Tick) : Prop where
  fault : ∃ row ∈ journal.outbox, (∃ relay handler, row.requestId = .faultStop relay handler) ∧
    row.phase ≠ .observed ∧ Adopts policy journal.outbox adopted [row.command]

/-! ### What a transaction keeps -/

/-- Rows stay, with their command and outcome, and none becomes pending again. -/
structure Grows (journal after : Journal) : Prop where
  rows : ∀ row ∈ journal.outbox, ∃ kept ∈ after.outbox, kept.command = row.command ∧
    (row.phase ≠ .pending → kept.phase ≠ .pending) ∧
    ∀ outcome, row.outcome = some outcome → kept.outcome = some outcome

theorem Grows.refl (journal : Journal) : Grows journal journal :=
  ⟨fun row member => ⟨row, member, rfl, fun tried => tried, fun _ found => found⟩⟩

theorem grows_append (rows : List Row) (same : after.outbox = journal.outbox ++ rows) : Grows journal after := by
  refine ⟨fun row member => ⟨row, ?_, rfl, fun tried => tried, fun _ found => found⟩⟩
  rw [same]
  exact List.mem_append_left _ member

theorem grows_update {matched : Row → Bool} {rewrite : Row → Row}
    (same : after.outbox = updateWhere matched rewrite journal.outbox)
    (keeps : ∀ row ∈ journal.outbox, matched row = true → (rewrite row).command = row.command ∧
      (rewrite row).phase ≠ .pending ∧ row.outcome = none) : Grows journal after := by
  refine ⟨fun row member => ⟨if matched row then rewrite row else row, ?_, ?_⟩⟩
  · rw [same]
    exact List.mem_map_of_mem member
  · by_cases hit : matched row = true
    · obtain ⟨named, tried, none⟩ := keeps row member hit
      rw [if_pos hit]
      exact ⟨named, fun _ => tried, fun outcome found => by cases none.symm.trans found⟩
    · rw [if_neg hit]
      exact ⟨rfl, fun tried => tried, fun _ found => found⟩

theorem Adopts.grow {adopted : List Tick} {rest : List Command}
    (adopts : Adopts policy journal.outbox adopted rest) (grows : Grows journal after)
    (same : after.outbox.map Row.command = journal.outbox.map Row.command) :
    Adopts policy after.outbox adopted rest := by
  refine ⟨same.trans adopts.commands, fun turn member outcome given => ?_⟩
  obtain ⟨row, listed, found⟩ := adopts.heard turn member outcome given
  obtain ⟨kept, still, _, _, outcomes⟩ := grows.rows row listed
  exact ⟨kept, still, outcomes outcome found⟩

/-- A decision that is committed is the next step of the run. -/
theorem Clean.commit {adopted : List Tick} {tick : Tick} (clean : Clean policy journal adopted)
    (heard : ∀ outcome, tick.outcome = some outcome → ∃ row ∈ journal.outbox, row.outcome = some outcome)
    (committed : journal.commit old (advance policy journal.state tick).state
      (advance policy journal.state tick).command = .ok after) :
    Clean policy after (adopted ++ [tick]) := by
  obtain ⟨_, state, _, _, outbox⟩ := commit_ok committed
  have grows : Grows journal after := grows_append _ outbox
  have current := clean.state
  constructor
  · rw [state, final_append, ← current]
    rfl
  · constructor
    · have next : trace (renew policy) journal.state [tick] = [take (renew policy) journal.state tick] := rfl
      rw [trace_append, ← current, next, commands_snoc, outbox, List.map_append, clean.adopts.commands,
        List.append_nil, List.append_nil, List.map_map]
      exact congrArg _ (List.map_id _)
    · rw [trace_append]
      intro turn member outcome given
      have present : ∃ row ∈ journal.outbox, row.outcome = some outcome := by
        rcases List.mem_append.mp member with former | own
        · exact clean.adopts.heard turn former outcome given
        · rw [← current] at own
          obtain rfl := List.mem_singleton.mp own
          exact heard outcome given
      obtain ⟨row, listed, found⟩ := present
      obtain ⟨kept, still, _, _, outcomes⟩ := grows.rows row listed
      exact ⟨kept, still, outcomes outcome found⟩

theorem fits_commit {given : Option Command} (fits : journal.Fits)
    (committed : journal.commit old new given = .ok after) : after.Fits := by
  obtain ⟨_, _, _, fresh, outbox⟩ := commit_ok committed
  cases given with
  | none =>
    have same : after.outbox = journal.outbox := outbox.trans (List.append_nil _)
    exact ⟨by rw [same]; exact fits.unique, by rw [same]; exact fits.rows⟩
  | some command =>
    constructor
    · rw [outbox]
      exact nodup_map_append fits.unique (fresh command rfl)
    · rw [outbox]
      intro row member
      rcases List.mem_append.mp member with former | own
      · exact fits.rows row former
      · obtain rfl := List.mem_singleton.mp own
        exact ⟨rfl, Or.inl ⟨rfl, rfl⟩, fun _ => by rintro ⟨⟩⟩

theorem fits_update {matched : Row → Bool} {rewrite : Row → Row} (fits : journal.Fits)
    (same : after.outbox = updateWhere matched rewrite journal.outbox)
    (keeps : ∀ row ∈ journal.outbox, matched row = true → (rewrite row).requestId = row.requestId ∧ (rewrite row).Fits) :
    after.Fits := by
  constructor
  · rw [same, map_key_updateWhere fun row member hit => (keeps row member hit).1]
    exact fits.unique
  · rw [same]
    intro row member
    obtain ⟨former, listed, rfl⟩ := List.mem_map.mp member
    split
    · rename_i hit
      exact (keeps former listed hit).2
    · exact fits.rows former listed

theorem isUntried_iff {requestId : RequestId} {row : Row} : Row.isUntried requestId row = true ↔
    row.requestId = requestId ∧ row.phase = .pending ∧ row.attempts = 0 := by
  unfold Row.isUntried
  exact decide_eq_true_iff

theorem isTried_iff {requestId : RequestId} {row : Row} : Row.isTried requestId row = true ↔
    row.requestId = requestId ∧ row.phase = .dispatching ∧ row.attempts = 1 := by
  unfold Row.isTried
  exact decide_eq_true_iff

/-- The row of a command stands in a phase, and no other row is open. -/
structure Only (journal : Journal) (command : Command) (phase : RowPhase) : Prop where
  row : ∃ row ∈ journal.outbox, row.command = command ∧ row.phase = phase
  others : ∀ row ∈ journal.outbox, row.phase ≠ .observed → row.requestId = command.requestId

/-- What a transaction that only moves rows keeps. -/
structure Moves (journal after : Journal) : Prop where
  fits : after.Fits
  grows : Grows journal after
  commands : after.outbox.map Row.command = journal.outbox.map Row.command
  state : after.state = journal.state

theorem dispatch_moves (fits : journal.Fits) (dispatched : journal.dispatchOnce command = .ok after) :
    Moves journal after := by
  obtain ⟨_, state, outbox⟩ := dispatchOnce_ok dispatched
  have none : ∀ row ∈ journal.outbox, Row.isUntried command.requestId row = true → row.outcome = none := by
    intro row member hit
    cases found : row.outcome with
    | none => rfl
    | some outcome =>
      have observed := ((fits.rows row member).outcome outcome found).1
      cases observed.symm.trans (isUntried_iff.mp hit).2.1
  refine ⟨fits_update fits outbox fun row member hit => ⟨rfl, ?_⟩,
    grows_update outbox fun row member hit => ⟨rfl, by rintro ⟨⟩, none row member hit⟩, ?_, state⟩
  · refine ⟨(fits.rows row member).named, Or.inr ⟨by rintro ⟨⟩, rfl⟩, fun outcome found => ?_⟩
    cases (none row member hit).symm.trans found
  · rw [outbox]
    exact map_key_updateWhere fun _ _ _ => rfl

theorem dispatch_only (fits : journal.Fits) (only : Only journal command .pending)
    (dispatched : journal.dispatchOnce command = .ok after) : Only after command .dispatching := by
  obtain ⟨_, _, outbox⟩ := dispatchOnce_ok dispatched
  obtain ⟨row, member, own, phase⟩ := only.row
  have whole := fits.rows row member
  have untried : Row.isUntried command.requestId row = true := by
    refine isUntried_iff.mpr ⟨whole.named.trans (by rw [own]), phase, ?_⟩
    rcases whole.attempts with ⟨_, none⟩ | ⟨other, _⟩
    · exact none
    · exact absurd phase other
  constructor
  · refine ⟨row.dispatched, ?_, own, rfl⟩
    rw [outbox]
    exact List.mem_map.mpr ⟨row, member, if_pos untried⟩
  · rw [outbox]
    intro moved listed unsettled
    obtain ⟨former, still, rfl⟩ := List.mem_map.mp listed
    by_cases hit : Row.isUntried command.requestId former = true
    · rw [if_pos hit]
      exact (isUntried_iff.mp hit).1
    · rw [if_neg hit] at unsettled ⊢
      exact only.others former still unsettled

/-- The row that a dispatch was made for. -/
theorem dispatch_row (dispatched : journal.dispatchOnce command = .ok after)
    (own : ∀ row ∈ journal.outbox, row.requestId = command.requestId → row.command = command) :
    ∃ row ∈ after.outbox, row.command = command ∧ row.phase = .dispatching := by
  obtain ⟨⟨row, member, untried⟩, _, outbox⟩ := dispatchOnce_ok dispatched
  refine ⟨row.dispatched, ?_, own row member (isUntried_iff.mp untried).1, rfl⟩
  rw [outbox]
  exact List.mem_map.mpr ⟨row, member, if_pos untried⟩

theorem finish_moves {handlerId : Option String} (fits : journal.Fits) (named : outcome.requestId = command.requestId)
    (finished : journal.finish command outcome handlerId = .ok after) : Moves journal after := by
  obtain ⟨_, state, outbox⟩ := finish_ok finished
  refine ⟨fits_update fits outbox fun row member hit => ⟨rfl, ?_⟩,
    grows_update outbox fun row member hit => ⟨rfl, by rintro ⟨⟩, ?_⟩, ?_, state⟩
  · obtain ⟨same, _, attempts⟩ := isTried_iff.mp hit
    refine ⟨(fits.rows row member).named, Or.inr ⟨by rintro ⟨⟩, attempts⟩, fun other found => ⟨rfl, ?_⟩⟩
    rw [← Option.some.inj found, named]
    exact same.symm
  · cases found : row.outcome with
    | none => rfl
    | some outcome =>
      have observed := ((fits.rows row member).outcome outcome found).1
      cases observed.symm.trans (isTried_iff.mp hit).2.1
  · rw [outbox]
    exact map_key_updateWhere fun _ _ _ => rfl

/-- Once the only open row is finished, all rows are observed, and the outcome is there. -/
theorem finish_settles {handlerId : Option String} (fits : journal.Fits) (only : Only journal command .dispatching)
    (finished : journal.finish command outcome handlerId = .ok after) :
    (∀ row ∈ after.outbox, row.phase = .observed) ∧ ∃ row ∈ after.outbox, row.outcome = some outcome := by
  obtain ⟨⟨row, member, tried⟩, _, outbox⟩ := finish_ok finished
  rw [outbox]
  constructor
  · intro moved listed
    obtain ⟨former, still, rfl⟩ := List.mem_map.mp listed
    split
    · rfl
    · rename_i miss
      by_contra unsettled
      have same : former.requestId = row.requestId :=
        (only.others former still unsettled).trans (isTried_iff.mp tried).1.symm
      rw [eq_of_key fits.unique still member same] at miss
      exact miss tried
  · exact ⟨row.finished outcome, List.mem_map.mpr ⟨row, member, if_pos tried⟩, rfl⟩

end LiveStream.Twitch

import LiveStream.Support.Stretches
import LiveStream.Upload.Sampler

/-! What a `sample_once` does: its step with the counter file, and what its writes leave of it. -/

namespace LiveStream.Upload

open LiveStream.Support

section Steps

variable {stamps : Epoch} {sampler : Sampler} {current : Snapshot} {now : ClockPoint} {token : ℕ}

/-- A snapshot that continues the cursor. -/
structure Continues (cursor : Cursor) (current : Snapshot) : Prop where
  seen : same current cursor.seen
  anchor : same current cursor.anchor
  sequence : cursor.seen.sequence < current.sequence
  observed : cursor.seen.observed < current.observed
  bytes : cursor.seen.bytesSent ≤ current.bytesSent

/-- What a step does with a snapshot: nothing, a new epoch, a snapshot seen, or a row. -/
theorem advance_cases (stamps : Epoch) (sampler : Sampler) (current : Snapshot) (now : ClockPoint)
    (token : ℕ) :
    (sampler.advance stamps current now token = (sampler, .ok none)) ∨
    (sampler.advance stamps current now token = (sampler.reset current token, .ok none)) ∨
    (∃ cursor outcome, sampler.state.cursor = some cursor ∧ Continues cursor current ∧
      (∀ row, outcome ≠ .ok (some row)) ∧
      sampler.advance stamps current now token =
        (sampler.move { cursor with seen := current }, outcome)) ∨
    ∃ cursor, sampler.state.cursor = some cursor ∧ Continues cursor current ∧
      60 ≤ current.observed - cursor.anchor.observed ∧
      current.observed - cursor.anchor.observed ≤ freshSeconds ∧
      sampler.advance stamps current now token =
        (sampler.move { cursor with anchor := current, seen := current },
          .ok (some (sampler.row cursor current now))) := by
  unfold Sampler.advance
  cases shape : sampler.state.cursor with
  | none => exact .inr (.inl rfl)
  | some cursor =>
    by_cases starts : broken cursor current now
    · exact .inr (.inl (if_pos starts))
    · dsimp only
      rw [if_neg starts]
      by_cases duplicate : current.sequence = cursor.seen.sequence
      · exact .inl (if_pos duplicate)
      · rw [if_neg duplicate]
        by_cases drifted : current.observed - cursor.seen.observed ≤ 0 ∨
            6 < |current.observed - cursor.seen.observed -
              (now.mono - cursor.seen.readClock.mono)|
        · exact .inr (.inl (if_pos drifted))
        · rw [if_neg drifted]
          simp only [broken, not_or, not_not, not_lt] at starts
          obtain ⟨seen, anchor, -, -, bytes, sequence⟩ := starts
          have continues : Continues cursor current :=
            ⟨seen, anchor, lt_of_le_of_ne sequence (Ne.symm duplicate),
              sub_pos.mp (not_le.mp (not_or.mp drifted).1), bytes⟩
          by_cases short : current.observed - cursor.anchor.observed < 60
          · rw [if_pos short]
            exact .inr (.inr (.inl ⟨cursor, _, rfl, continues, by simp, rfl⟩))
          · rw [if_neg short]
            by_cases long : freshSeconds < current.observed - cursor.anchor.observed
            · exact .inr (.inl (if_pos long))
            · rw [if_neg long]
              by_cases fallen : current.bytesSent - cursor.anchor.bytesSent < 0
              · exact .inr (.inl (if_pos fallen))
              · rw [if_neg fallen]
                cases validateSample stamps (sampler.row cursor current now)
                    sampler.state.identity.machineIdSha256 with
                | error reason =>
                  exact .inr (.inr (.inl ⟨cursor, _, rfl, continues, by simp, rfl⟩))
                | ok _ =>
                  exact .inr (.inr (.inr ⟨cursor, rfl, continues, not_lt.mp short,
                    not_lt.mp long, rfl⟩))

theorem epoch_ok {text : String} {value : ℚ} (read : epoch stamps text = .ok value) :
    stamps text = some value := by
  unfold epoch at read
  cases found : stamps text with
  | none => simp [found] at read
  | some other =>
    simp only [found] at read
    split_ifs at read
    exact congrArg some (Except.ok.inj read)

/-- A snapshot holds the second that its stamp names. -/
theorem counterSnapshot_stamped {value : CounterValue}
    (read : counterSnapshot stamps value now = .ok current) :
    stamps current.observedAt = some current.observed := by
  unfold counterSnapshot at read
  split at read
  · cases read
  · split at read
    · cases read
    · split at read
      · cases read
      · split at read
        · cases read
        · split at read
          · split at read
            · cases read
            · split at read
              · cases read
              · rename_i stamp found
                dsimp only at read
                split at read
                · cases read
                · split at read
                  · cases read
                    exact epoch_ok found
                  · cases read
                  · cases read
          · cases read

end Steps

/-- A snapshot taken up before another: of an older epoch, or of the same with smaller counters. -/
def Accepted.before (earlier later : Accepted) : Prop :=
  earlier.measurementEpoch ≤ later.measurementEpoch ∧
    (earlier.measurementEpoch = later.measurementEpoch →
      same later.snapshot earlier.snapshot ∧
        earlier.snapshot.sequence < later.snapshot.sequence ∧
        earlier.snapshot.observed < later.snapshot.observed ∧
        earlier.snapshot.bytesSent ≤ later.snapshot.bytesSent)

theorem Accepted.before_trans (first second third : Accepted) (former : first.before second)
    (latter : second.before third) : first.before third := by
  obtain ⟨epochs, grows⟩ := former
  obtain ⟨epochs', grows'⟩ := latter
  refine ⟨epochs.trans epochs', ?_⟩
  intro equal
  obtain ⟨⟨pid, producer, generation, connection⟩, sequence, observed, bytes⟩ := grows (by omega)
  obtain ⟨⟨pid', producer', generation', connection'⟩, sequence', observed', bytes'⟩ :=
    grows' (by omega)
  exact ⟨⟨pid'.trans pid, producer'.trans producer, generation'.trans generation,
    connection'.trans connection⟩, sequence.trans sequence', observed.trans observed',
    bytes.trans bytes'⟩

/-- A row tells of the stretch between two snapshots. -/
structure Spans (row : Sample) (start stop : Snapshot) : Prop where
  sequenceStart : row.sequenceStart = start.sequence
  sequenceEnd : row.sequenceEnd = stop.sequence
  startedAt : row.sampleStartObservedAt = start.observedAt
  endedAt : row.sampleEndObservedAt = stop.observedAt
  producer : row.producerInstanceId = stop.producer
  generation : row.ffmpegGeneration = stop.generation
  pid : row.ffmpegPid = stop.pid
  connection : row.connectionId = stop.connection
  bytes : row.bytesSent = stop.bytesSent
  delta : row.bytesSentDelta = stop.bytesSent - start.bytesSent
  interval : row.sampleIntervalSec = stop.observed - start.observed
  long : 60 ≤ stop.observed - start.observed
  fresh : stop.observed - start.observed ≤ freshSeconds

/-- What the sampler writes down is the snapshots it took up, in one order. -/
structure Known (stamps : Epoch) (drawn : ℕ) (journal : List Sample) (cursor : Option Cursor)
    (trail : List Accepted) : Prop where
  ordered : trail.Pairwise Accepted.before
  stamped : ∀ entry ∈ trail, stamps entry.snapshot.observedAt = some entry.snapshot.observed
  drawn : ∀ entry ∈ trail, entry.measurementEpoch < drawn
  ends : ∀ current, cursor = some current →
    trail.getLast? = some ⟨current.measurementEpoch, current.seen⟩
  anchored : ∀ current, cursor = some current → ⟨current.measurementEpoch, current.anchor⟩ ∈ trail
  spanned : ∀ row ∈ journal, ∃ start stop, ⟨row.measurementEpoch, start⟩ ∈ trail ∧
    ⟨row.measurementEpoch, stop⟩ ∈ trail ∧ Spans row start stop

section Moves

/-- The world after a step, before its writes, with the sampler and the outcome. -/
inductive Moved (stamps : Epoch) (world : World) (sampler : Sampler) :
    World → Sampler → Except String (Option Sample) → Prop
  | idle (drawn : ℕ) (more : List Sighting) (outcome : Except String (Option Sample))
      (later : world.drawn ≤ drawn) (blank : ∀ row, outcome ≠ .ok (some row)) :
      Moved stamps world sampler
        { world with drawn := drawn, readings := world.readings ++ more } sampler outcome
  | restarts (current : Snapshot)
      (stamped : stamps current.observedAt = some current.observed) :
      Moved stamps world sampler
        { world with
          drawn := world.drawn + 1
          trail := world.trail ++ [⟨world.drawn, current⟩]
          readings := world.readings ++ [⟨sampler.state.identity.bootId, current⟩] }
        (sampler.reset current world.drawn) (.ok none)
  | sees (cursor : Cursor) (current : Snapshot) (outcome : Except String (Option Sample))
      (stamped : stamps current.observedAt = some current.observed)
      (held : sampler.state.cursor = some cursor) (continues : Continues cursor current)
      (blank : ∀ row, outcome ≠ .ok (some row)) :
      Moved stamps world sampler
        { world with
          drawn := world.drawn + 1
          trail := world.trail ++ [⟨cursor.measurementEpoch, current⟩]
          readings := world.readings ++ [⟨sampler.state.identity.bootId, current⟩] }
        (sampler.move { cursor with seen := current }) outcome
  | measures (cursor : Cursor) (current : Snapshot) (now : ClockPoint)
      (stamped : stamps current.observedAt = some current.observed)
      (held : sampler.state.cursor = some cursor) (continues : Continues cursor current)
      (long : 60 ≤ current.observed - cursor.anchor.observed)
      (fresh : current.observed - cursor.anchor.observed ≤ freshSeconds) :
      Moved stamps world sampler
        { world with
          drawn := world.drawn + 1
          trail := world.trail ++ [⟨cursor.measurementEpoch, current⟩]
          readings := world.readings ++ [⟨sampler.state.identity.bootId, current⟩] }
        (sampler.move { cursor with anchor := current, seen := current })
        (.ok (some (sampler.row cursor current now)))

variable {stamps : Epoch} {world later : World} {sampler after : Sampler}
  {outcome : Except String (Option Sample)}

theorem extendTrail_moved {trail : List Accepted} {before : Option Cursor} {cursor : Cursor}
    (moved : before ≠ some cursor) : extendTrail trail before (some cursor) =
      trail ++ [⟨cursor.measurementEpoch, cursor.seen⟩] :=
  if_neg moved

theorem extendTrail_self (trail : List Accepted) (cursor : Option Cursor) :
    extendTrail trail cursor cursor = trail := by
  cases cursor with
  | none => rfl
  | some cursor => exact if_pos rfl

/-- A `sample_once` is a step and the writes of what it left. -/
theorem sampleOnce_cases
    (drawn : ∀ cursor, sampler.state.cursor = some cursor → cursor.measurementEpoch < world.drawn)
    (value : Option CounterValue) (now : ClockPoint) (faults : Faults) :
    ∃ later after outcome, Moved stamps world sampler later after outcome ∧
      world.sampleOnce stamps sampler value now faults = later.commit after outcome faults := by
  cases value with
  | none =>
    refine ⟨_, _, _, .idle world.drawn [] (.error "") le_rfl (by simp), ?_⟩
    simp [World.sampleOnce, World.commit]
  | some value =>
    simp only [World.sampleOnce, Sampler.step]
    cases read : counterSnapshot stamps value now with
    | error reason =>
      refine ⟨_, _, _, .idle (world.drawn + 1) [] (.error reason) (Nat.le_succ _) (by simp), ?_⟩
      simp [extendTrail_self, Except.toOption]
    | ok current =>
      have stamped := counterSnapshot_stamped read
      simp only [Except.toOption, Option.map_some, Option.toList_some]
      rcases advance_cases stamps sampler current now world.drawn with
        same | resets | ⟨cursor, outcome, held, continues, blank, sees⟩ |
          ⟨cursor, held, continues, long, fresh, measures⟩
      · rw [same]
        refine ⟨_, _, _, .idle (world.drawn + 1) [⟨sampler.state.identity.bootId, current⟩] (.ok none)
          (Nat.le_succ _) (by simp), ?_⟩
        rw [extendTrail_self]
      · rw [resets]
        refine ⟨_, _, _, .restarts current stamped, ?_⟩
        have moved : sampler.state.cursor ≠ some ⟨current, current, world.drawn⟩ :=
          fun equal => absurd (drawn _ equal) (lt_irrefl _)
        simp only [Sampler.reset, Sampler.move]
        rw [extendTrail_moved moved]
      · rw [sees]
        refine ⟨_, _, _, .sees cursor current outcome stamped held continues blank, ?_⟩
        have moved : sampler.state.cursor ≠ some { cursor with seen := current } := by
          intro equal
          have seen := congrArg (Option.map fun held : Cursor => held.seen.sequence)
            (held.symm.trans equal)
          exact absurd (Option.some.inj seen) continues.sequence.ne
        simp only [Sampler.move]
        rw [extendTrail_moved moved]
      · rw [measures]
        refine ⟨_, _, _, .measures cursor current now stamped held continues long fresh, ?_⟩
        have moved : sampler.state.cursor ≠
            some { cursor with anchor := current, seen := current } := by
          intro equal
          have seen := congrArg (Option.map fun held : Cursor => held.seen.sequence)
            (held.symm.trans equal)
          exact absurd (Option.some.inj seen) continues.sequence.ne
        simp only [Sampler.move]
        rw [extendTrail_moved moved]

/-- What the writes of a `sample_once` leave: the process lives with the sampler or is dead; a row
is appended only when the file holds the state that has passed it. -/
structure Committed (world : World) (sampler : Sampler) (outcome : Except String (Option Sample))
    (committed : World) : Prop where
  process : ∀ living, committed.process = some living → living = sampler
  trail : committed.trail = world.trail
  drawn : committed.drawn = world.drawn
  readings : committed.readings = world.readings
  files : (committed.journal = world.journal ∧ committed.disk = world.disk ∧
      committed.diskTrail = world.diskTrail) ∨
    (committed.disk = some sampler.state ∧ committed.diskTrail = world.trail ∧
      (committed.journal = world.journal ∨
        ∃ row, outcome = .ok (some row) ∧ committed.journal = world.journal ++ [row]))

theorem persist_committed (world : World) (sampler : Sampler) (write : Write)
    (outcome : Except String (Option Sample)) :
    Committed world sampler outcome (world.persist sampler write) := by
  have lives : ∀ living, some sampler = some living → living = sampler :=
    fun _ same => (Option.some.inj same).symm
  cases write with
  | succeeds => exact ⟨lives, rfl, rfl, rfl, .inr ⟨rfl, rfl, .inl rfl⟩⟩
  | raises done =>
    cases done with
    | true => exact ⟨lives, rfl, rfl, rfl, .inr ⟨rfl, rfl, .inl rfl⟩⟩
    | false => exact ⟨lives, rfl, rfl, rfl, .inl ⟨rfl, rfl, rfl⟩⟩
  | dies done =>
    cases done with
    | true => exact ⟨by simp [World.persist], rfl, rfl, rfl, .inr ⟨rfl, rfl, .inl rfl⟩⟩
    | false => exact ⟨by simp [World.persist], rfl, rfl, rfl, .inl ⟨rfl, rfl, rfl⟩⟩

/-- One more write of the state changes nothing about what the writes before it left. -/
theorem Committed.persist {world committed : World} {sampler : Sampler}
    {outcome : Except String (Option Sample)} (before : Committed world sampler outcome committed)
    (write : Write) : Committed world sampler outcome (committed.persist sampler write) := by
  obtain ⟨-, trail, drawn, readings, files⟩ := persist_committed committed sampler write outcome
  refine ⟨(persist_committed committed sampler write outcome).process, trail.trans before.trail,
    drawn.trans before.drawn, readings.trans before.readings, ?_⟩
  have journal : (committed.persist sampler write).journal = committed.journal := by
    unfold World.persist
    cases write with
    | succeeds => rfl
    | raises done => cases done <;> rfl
    | dies done => cases done <;> rfl
  rw [journal]
  rcases files with ⟨-, disk, diskTrail⟩ | ⟨disk, diskTrail, -⟩
  · rw [disk, diskTrail]
    exact before.files
  · rw [disk, diskTrail, before.trail]
    rcases before.files with ⟨same, -, -⟩ | ⟨-, -, rows⟩
    · exact .inr ⟨rfl, rfl, .inl same⟩
    · exact .inr ⟨rfl, rfl, rows⟩

theorem commit_committed (world : World) (sampler : Sampler)
    (outcome : Except String (Option Sample)) (faults : Faults) :
    Committed world sampler outcome (world.commit sampler outcome faults) := by
  cases outcome with
  | error reason => exact persist_committed world sampler faults.last _
  | ok row =>
    have first := persist_committed world sampler faults.first (.ok row)
    simp only [World.commit]
    cases starts : faults.first with
    | dies done =>
      rw [starts] at first
      exact first
    | raises done =>
      rw [starts] at first
      exact first.persist faults.last
    | succeeds =>
      rw [starts] at first
      cases row with
      | none => exact first.persist faults.last
      | some row =>
        have appended : ∀ write, Committed world sampler (.ok (some row))
            ((world.persist sampler .succeeds).append row write) := by
          intro write
          cases write with
          | succeeds =>
            exact ⟨by simp [World.append, World.persist, Write.done], rfl, rfl, rfl,
              .inr ⟨rfl, rfl, .inr ⟨row, rfl, rfl⟩⟩⟩
          | raises done =>
            cases done with
            | true =>
              exact ⟨by simp [World.append, World.persist, Write.done], rfl, rfl, rfl,
                .inr ⟨rfl, rfl, .inr ⟨row, rfl, rfl⟩⟩⟩
            | false =>
              exact ⟨by simp [World.append, World.persist, Write.done], rfl, rfl, rfl,
                .inr ⟨rfl, rfl, .inl rfl⟩⟩
          | dies done =>
            cases done with
            | true =>
              exact ⟨by simp [World.append], rfl, rfl, rfl,
                .inr ⟨rfl, rfl, .inr ⟨row, rfl, rfl⟩⟩⟩
            | false =>
              exact ⟨by simp [World.append], rfl, rfl, rfl, .inr ⟨rfl, rfl, .inl rfl⟩⟩
        dsimp only
        cases ends : faults.append with
        | dies done => exact appended _
        | raises done => exact (appended _).persist faults.last
        | succeeds => exact (appended _).persist faults.last

end Moves

section Trails

variable {stamps : Epoch} {world later committed : World} {sampler after : Sampler}
  {outcome : Except String (Option Sample)}

theorem Known.lasts {drawn drawn' : ℕ} {journal : List Sample} {cursor : Option Cursor}
    {trail : List Accepted} (known : Known stamps drawn journal cursor trail)
    (bound : drawn ≤ drawn') : Known stamps drawn' journal cursor trail :=
  { known with drawn := fun entry member => (known.drawn entry member).trans_le bound }

theorem Known.forget {drawn : ℕ} {journal : List Sample} {cursor : Option Cursor}
    {trail : List Accepted} (known : Known stamps drawn journal cursor trail) :
    Known stamps drawn journal none trail :=
  { known with
    ends := fun _ held => absurd held (by simp)
    anchored := fun _ held => absurd held (by simp) }

/-- A snapshot that continues the cursor is taken up behind all that were taken up before. -/
theorem Known.continued {drawn : ℕ} {journal : List Sample} {cursor : Cursor}
    {trail : List Accepted} (known : Known stamps drawn journal (some cursor) trail)
    {current : Snapshot} (continues : Continues cursor current)
    (stamped : stamps current.observedAt = some current.observed) (anchor : Snapshot)
    (anchored : anchor = current ∨ anchor = cursor.anchor) :
    Known stamps (drawn + 1) journal (some ⟨anchor, current, cursor.measurementEpoch⟩)
      (trail ++ [⟨cursor.measurementEpoch, current⟩]) := by
  have ends := known.ends cursor rfl
  have last := List.mem_of_getLast? ends
  constructor
  · apply pairwise_snoc_of_last Accepted.before_trans known.ordered ends
    exact ⟨le_rfl, fun _ => ⟨continues.seen, continues.sequence, continues.observed, continues.bytes⟩⟩
  · intro entry member
    rcases List.mem_append.mp member with old | new
    · exact known.stamped entry old
    · rw [List.mem_singleton.mp new]
      exact stamped
  · intro entry member
    rcases List.mem_append.mp member with old | new
    · exact (known.drawn entry old).trans (Nat.lt_succ_self _)
    · rw [List.mem_singleton.mp new]
      exact (known.drawn _ last).trans (Nat.lt_succ_self _)
  · intro held same
    rw [← Option.some.inj same, List.getLast?_concat]
  · intro held same
    rw [← Option.some.inj same]
    rcases anchored with rfl | rfl
    · exact List.mem_append_right _ (List.mem_singleton_self _)
    · exact List.mem_append_left _ (known.anchored cursor rfl)
  · intro row member
    obtain ⟨start, stop, first, second, spans⟩ := known.spanned row member
    exact ⟨start, stop, List.mem_append_left _ first, List.mem_append_left _ second, spans⟩

theorem row_spans (sampler : Sampler) (cursor : Cursor) (current : Snapshot) (now : ClockPoint)
    (long : 60 ≤ current.observed - cursor.anchor.observed)
    (fresh : current.observed - cursor.anchor.observed ≤ freshSeconds) :
    Spans (sampler.row cursor current now) cursor.anchor current :=
  ⟨rfl, rfl, rfl, rfl, rfl, rfl, rfl, rfl, rfl, rfl, rfl, long, fresh⟩

theorem known_moved
    (known : Known stamps world.drawn world.journal sampler.state.cursor world.trail)
    (moved : Moved stamps world sampler later after outcome) :
    Known stamps later.drawn world.journal after.state.cursor later.trail ∧
      later.journal = world.journal ∧ later.disk = world.disk ∧
      later.diskTrail = world.diskTrail ∧ world.drawn ≤ later.drawn ∧
      ∀ row, outcome = .ok (some row) → ∃ start stop,
        ⟨row.measurementEpoch, start⟩ ∈ later.trail ∧
        ⟨row.measurementEpoch, stop⟩ ∈ later.trail ∧ Spans row start stop := by
  cases moved with
  | idle drawn more outcome bound blank =>
    exact ⟨known.lasts bound, rfl, rfl, rfl, bound, fun row made => absurd made (blank row)⟩
  | restarts current stamped =>
    refine ⟨?_, rfl, rfl, rfl, Nat.le_succ _, fun row made => absurd made (by simp)⟩
    constructor
    · apply List.pairwise_append.mpr
      refine ⟨known.ordered, List.pairwise_singleton _ _, ?_⟩
      intro entry member fresh single
      rw [List.mem_singleton.mp single]
      have older := known.drawn entry member
      exact ⟨older.le, fun same => absurd same older.ne⟩
    · intro entry member
      rcases List.mem_append.mp member with old | new
      · exact known.stamped entry old
      · rw [List.mem_singleton.mp new]
        exact stamped
    · intro entry member
      rcases List.mem_append.mp member with old | new
      · exact (known.drawn entry old).trans (Nat.lt_succ_self _)
      · rw [List.mem_singleton.mp new]
        exact Nat.lt_succ_self _
    · intro held same
      rw [← Option.some.inj same, List.getLast?_concat]
    · intro held same
      rw [← Option.some.inj same]
      exact List.mem_append_right _ (List.mem_singleton_self _)
    · intro row member
      obtain ⟨start, stop, first, second, spans⟩ := known.spanned row member
      exact ⟨start, stop, List.mem_append_left _ first, List.mem_append_left _ second, spans⟩
  | sees cursor current outcome stamped held continues blank =>
    rw [held] at known
    refine ⟨known.continued continues stamped cursor.anchor (.inr rfl), rfl, rfl, rfl,
      Nat.le_succ _, fun row made => absurd made (blank row)⟩
  | measures cursor current now stamped held continues long fresh =>
    rw [held] at known
    refine ⟨known.continued continues stamped current (.inl rfl), rfl, rfl, rfl, Nat.le_succ _, ?_⟩
    intro row made
    obtain rfl := Option.some.inj (Except.ok.inj made)
    exact ⟨cursor.anchor, current, List.mem_append_left _ (known.anchored cursor rfl),
      List.mem_append_right _ (List.mem_singleton_self _),
      row_spans sampler cursor current now long fresh⟩

/-- The process and the file know the journal, each by its own trail. -/
structure Trailed (stamps : Epoch) (world : World) : Prop where
  process : ∀ sampler, world.process = some sampler →
    Known stamps world.drawn world.journal sampler.state.cursor world.trail
  disk : Known stamps world.drawn world.journal (world.disk.bind SamplerState.cursor)
    world.diskTrail

theorem trailed_sampleOnce (trailed : Trailed stamps world) (living : world.process = some sampler)
    (value : Option CounterValue) (now : ClockPoint) (faults : Faults) :
    Trailed stamps (world.sampleOnce stamps sampler value now faults) := by
  have known := trailed.process sampler living
  have drawn : ∀ cursor, sampler.state.cursor = some cursor →
      cursor.measurementEpoch < world.drawn :=
    fun cursor held => known.drawn _ (List.mem_of_getLast? (known.ends cursor held))
  obtain ⟨later, after, outcome, moved, shape⟩ := sampleOnce_cases drawn value now faults
  obtain ⟨next, journal, disk, diskTrail, bound, rows⟩ := known_moved known moved
  rw [shape]
  have wrote := commit_committed later after outcome faults
  have file : Known stamps later.drawn world.journal (world.disk.bind SamplerState.cursor)
      world.diskTrail := trailed.disk.lasts bound
  -- a journal with the new row is known by the trail of the state that has passed it
  have recorded : ∀ written, (written = world.journal ∨
      ∃ row, outcome = .ok (some row) ∧ written = world.journal ++ [row]) →
      Known stamps later.drawn written after.state.cursor later.trail := by
    intro written cases
    rcases cases with rfl | ⟨row, made, rfl⟩
    · exact next
    · refine { next with spanned := ?_ }
      intro other member
      rcases List.mem_append.mp member with old | new
      · exact next.spanned other old
      · rw [List.mem_singleton.mp new]
        exact rows row made
  have files := wrote.files
  rw [journal, disk, diskTrail] at files
  have process : Known stamps later.drawn (later.commit after outcome faults).journal
      after.state.cursor later.trail := by
    rcases files with ⟨same, -, -⟩ | ⟨-, -, rows⟩
    · exact recorded _ (.inl same)
    · exact recorded _ rows
  constructor
  · intro living' alive
    rw [wrote.process living' alive, wrote.drawn, wrote.trail]
    exact process
  · rw [wrote.drawn]
    rcases files with ⟨same, kept, keptTrail⟩ | ⟨saved, savedTrail, -⟩
    · rw [same, kept, keptTrail]
      exact file
    · rw [saved, savedTrail]
      exact process

theorem trailed_step (trailed : Trailed stamps world) (event : SamplerEvent) :
    Trailed stamps (world.step stamps event).1 := by
  cases living : world.process with
  | none =>
    cases event with
    | start identity host =>
      simp only [World.step, living]
      refine ⟨?_, trailed.disk⟩
      intro sampler started
      obtain rfl := Option.some.inj started
      have disk := trailed.disk
      unfold Sampler.load
      cases saved : world.disk with
      | none => exact disk.forget
      | some state =>
        rw [saved] at disk
        dsimp only
        split_ifs
        · exact disk
        · exact disk.forget
    | sample value now faults => simpa only [World.step, living] using trailed
    | stop => simpa only [World.step, living] using trailed
  | some sampler =>
    cases event with
    | start identity host => simpa only [World.step, living] using trailed
    | sample value now faults =>
      simp only [World.step, living]
      exact trailed_sampleOnce trailed living value now faults
    | stop =>
      simp only [World.step, living]
      exact ⟨fun _ alive => absurd alive (by simp), trailed.disk⟩

end Trails

end LiveStream.Upload

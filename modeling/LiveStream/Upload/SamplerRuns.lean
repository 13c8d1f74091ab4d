import LiveStream.Support.Run
import LiveStream.Upload.SamplerSteps

/-! The rows of the sampler never overlap: what its cursors have passed is behind them, in the
process and in the file, however writes fail and wherever the process dies. -/

namespace LiveStream.Upload

open LiveStream.Support

/-- A measure of snapshots on which the rows of one kind are stretches. -/
structure Scale (κ : Type) where
  kind : Sample → κ
  held : HostIdentity → Cursor → κ
  lower : Sample → ℤ
  upper : Sample → ℤ
  place : Snapshot → ℤ
  kind_row : ∀ sampler cursor current now, same current cursor.anchor →
    kind (Sampler.row sampler cursor current now) = held sampler.state.identity cursor
  held_move : ∀ identity cursor anchor seen, same anchor cursor.anchor →
    held identity ⟨anchor, seen, cursor.measurementEpoch⟩ = held identity cursor
  lower_row : ∀ sampler cursor current now,
    lower (Sampler.row sampler cursor current now) = place cursor.anchor
  upper_row : ∀ sampler cursor current now,
    upper (Sampler.row sampler cursor current now) = place current
  rises : ∀ cursor current, Continues cursor current → place cursor.seen ≤ place current

/-- The rows are behind the anchor of a state. -/
structure Scale.Behind {κ : Type} (scale : Scale κ) (journal : List Sample) (state : SamplerState) :
    Prop where
  ordered : ∀ cursor, state.cursor = some cursor →
    scale.place cursor.anchor ≤ scale.place cursor.seen
  rows : ∀ cursor, state.cursor = some cursor → ∀ row ∈ journal,
    scale.kind row = scale.held state.identity cursor →
      scale.upper row ≤ scale.place cursor.anchor

/-- Rows of one kind follow each other, and are behind the process and the file. -/
structure Scale.Ranked {κ : Type} (scale : Scale κ) (world : World) : Prop where
  process : ∀ sampler, world.process = some sampler → scale.Behind world.journal sampler.state
  disk : ∀ state, world.disk = some state → scale.Behind world.journal state
  apart : world.journal.Pairwise fun earlier later =>
    scale.kind earlier = scale.kind later → scale.upper earlier ≤ scale.lower later

theorem same_refl (snapshot : Snapshot) : same snapshot snapshot := ⟨rfl, rfl, rfl, rfl⟩

section Ranks

variable {κ : Type} {scale : Scale κ} {stamps : Epoch} {world later : World}
  {sampler after : Sampler} {outcome : Except String (Option Sample)}

theorem Scale.Behind.unset (scale : Scale κ) (journal : List Sample) (identity : HostIdentity) :
    scale.Behind journal { identity } :=
  ⟨fun _ held => absurd held (by simp), fun _ held => absurd held (by simp)⟩

/-- A step leaves the rows behind the anchor, and its row starts where they end. -/
theorem behind_moved (behind : scale.Behind world.journal sampler.state)
    (moved : Moved stamps world sampler later after outcome)
    (fresh : ∀ current,
      later.readings = world.readings ++ [⟨sampler.state.identity.bootId, current⟩] →
      ∀ row ∈ world.journal,
        scale.kind row = scale.held sampler.state.identity ⟨current, current, world.drawn⟩ →
        scale.upper row ≤ scale.place current) :
    scale.Behind world.journal after.state ∧ ∀ row, outcome = .ok (some row) →
      scale.Behind (world.journal ++ [row]) after.state ∧
        ∀ earlier ∈ world.journal, scale.kind earlier = scale.kind row →
          scale.upper earlier ≤ scale.lower row := by
  cases moved with
  | idle drawn more outcome bound blank =>
    exact ⟨behind, fun row made => absurd made (blank row)⟩
  | restarts current stamped =>
    refine ⟨⟨?_, ?_⟩, fun row made => absurd made (by simp)⟩
    · intro cursor held
      rw [← Option.some.inj held]
    · intro cursor held row member kind
      rw [← Option.some.inj held] at kind ⊢
      exact fresh current rfl row member kind
  | sees cursor current outcome stamped held continues blank =>
    refine ⟨⟨?_, ?_⟩, fun row made => absurd made (blank row)⟩
    · intro other moved
      rw [← Option.some.inj moved]
      exact (behind.ordered cursor held).trans (scale.rises cursor current continues)
    · intro other moved row member kind
      rw [← Option.some.inj moved] at kind ⊢
      have unmoved := scale.held_move sampler.state.identity cursor cursor.anchor current
        (same_refl _)
      exact behind.rows cursor held row member (kind.trans unmoved)
  | measures cursor current now stamped held continues long short =>
    have unmoved := scale.held_move sampler.state.identity cursor current current continues.anchor
    have above : scale.place cursor.anchor ≤ scale.place current :=
      (behind.ordered cursor held).trans (scale.rises cursor current continues)
    have old : ∀ row ∈ world.journal,
        scale.kind row = scale.held sampler.state.identity ⟨current, current, cursor.measurementEpoch⟩ →
        scale.upper row ≤ scale.place cursor.anchor :=
      fun row member kind => behind.rows cursor held row member (kind.trans unmoved)
    refine ⟨⟨?_, ?_⟩, ?_⟩
    · intro other moved
      rw [← Option.some.inj moved]
    · intro other moved row member kind
      rw [← Option.some.inj moved] at kind ⊢
      exact (old row member kind).trans above
    · intro row made
      obtain rfl := Option.some.inj (Except.ok.inj made)
      refine ⟨⟨?_, ?_⟩, ?_⟩
      · intro other moved
        rw [← Option.some.inj moved]
      · intro other moved row member kind
        rw [← Option.some.inj moved] at kind ⊢
        rcases List.mem_append.mp member with earlier | new
        · exact (old row earlier kind).trans above
        · rw [List.mem_singleton.mp new, scale.upper_row]
      · intro earlier member kind
        rw [scale.lower_row]
        rw [scale.kind_row sampler cursor current now continues.anchor] at kind
        exact behind.rows cursor held earlier member kind

theorem ranked_sampleOnce (ranked : scale.Ranked world) (trailed : Trailed stamps world)
    (living : world.process = some sampler) (value : Option CounterValue) (now : ClockPoint)
    (faults : Faults)
    (fresh : ∀ current, (world.sampleOnce stamps sampler value now faults).readings =
        world.readings ++ [⟨sampler.state.identity.bootId, current⟩] →
      ∀ row ∈ world.journal,
        scale.kind row = scale.held sampler.state.identity ⟨current, current, world.drawn⟩ →
        scale.upper row ≤ scale.place current) :
    scale.Ranked (world.sampleOnce stamps sampler value now faults) := by
  have known := trailed.process sampler living
  have drawn : ∀ cursor, sampler.state.cursor = some cursor →
      cursor.measurementEpoch < world.drawn :=
    fun cursor held => known.drawn _ (List.mem_of_getLast? (known.ends cursor held))
  obtain ⟨later, after, outcome, moved, shape⟩ := sampleOnce_cases drawn value now faults
  obtain ⟨-, journal, disk, -, -, -⟩ := known_moved known moved
  have wrote := commit_committed later after outcome faults
  rw [shape, wrote.readings] at fresh
  obtain ⟨behind, rows⟩ := behind_moved (ranked.process sampler living) moved fresh
  rw [shape]
  have files := wrote.files
  rw [journal, disk] at files
  rcases files with ⟨same, kept, -⟩ | ⟨saved, -, same | ⟨row, made, appended⟩⟩
  · constructor
    · intro other alive
      rw [wrote.process other alive, same]
      exact behind
    · intro state held
      rw [same]
      exact ranked.disk state (kept ▸ held)
    · rw [same]
      exact ranked.apart
  · constructor
    · intro other alive
      rw [wrote.process other alive, same]
      exact behind
    · intro state held
      rw [same, ← Option.some.inj (saved.symm.trans held)]
      exact behind
    · rw [same]
      exact ranked.apart
  · obtain ⟨ahead, apart⟩ := rows row made
    constructor
    · intro other alive
      rw [wrote.process other alive, appended]
      exact ahead
    · intro state held
      rw [appended, ← Option.some.inj (saved.symm.trans held)]
      exact ahead
    · rw [appended, List.pairwise_append]
      refine ⟨ranked.apart, List.pairwise_singleton _ _, ?_⟩
      intro earlier member single here
      rw [List.mem_singleton.mp here]
      exact apart earlier member

theorem ranked_step (ranked : scale.Ranked world) (trailed : Trailed stamps world)
    (event : SamplerEvent)
    (fresh : ∀ sampler current, world.process = some sampler →
      (world.step stamps event).1.readings =
        world.readings ++ [⟨sampler.state.identity.bootId, current⟩] →
      ∀ row ∈ world.journal,
        scale.kind row = scale.held sampler.state.identity ⟨current, current, world.drawn⟩ →
        scale.upper row ≤ scale.place current) :
    scale.Ranked (world.step stamps event).1 := by
  cases living : world.process with
  | none =>
    cases event with
    | start identity host =>
      simp only [World.step, living]
      refine ⟨?_, ranked.disk, ranked.apart⟩
      intro sampler started
      obtain rfl := Option.some.inj started
      unfold Sampler.load
      cases saved : world.disk with
      | none => exact .unset scale _ identity
      | some state =>
        dsimp only
        split_ifs
        · exact ranked.disk state saved
        · exact .unset scale _ identity
    | sample value now faults => simpa only [World.step, living] using ranked
    | stop => simpa only [World.step, living] using ranked
  | some sampler =>
    cases event with
    | start identity host => simpa only [World.step, living] using ranked
    | sample value now faults =>
      simp only [World.step, living] at fresh ⊢
      exact ranked_sampleOnce ranked trailed living value now faults
        fun current read => fresh sampler current rfl read
    | stop =>
      simp only [World.step, living]
      exact ⟨fun _ alive => absurd alive (by simp), ranked.disk, ranked.apart⟩

end Ranks

def sequenceScale : Scale ℕ where
  kind := Sample.measurementEpoch
  held _ cursor := cursor.measurementEpoch
  lower := Sample.sequenceStart
  upper := Sample.sequenceEnd
  place := Snapshot.sequence
  kind_row _ _ _ _ _ := rfl
  held_move _ _ _ _ _ := rfl
  lower_row _ _ _ _ := rfl
  upper_row _ _ _ _ := rfl
  rises _ _ continues := continues.sequence.le

def bytesScale : Scale ℕ where
  kind := Sample.measurementEpoch
  held _ cursor := cursor.measurementEpoch
  lower row := row.bytesSent - row.bytesSentDelta
  upper := Sample.bytesSent
  place := Snapshot.bytesSent
  kind_row _ _ _ _ _ := rfl
  held_move _ _ _ _ _ := rfl
  lower_row _ _ _ _ := sub_sub_cancel _ _
  upper_row _ _ _ _ := rfl
  rises _ _ continues := continues.bytes

/-- A connection of a producer, under one boot. -/
structure Source where
  boot : String
  producer : String
  generation : String
  pid : ℤ
  connection : String
  deriving DecidableEq

def Sample.source (row : Sample) : Source :=
  ⟨row.sourceBoot, row.producerInstanceId, row.ffmpegGeneration, row.ffmpegPid, row.connectionId⟩

def Snapshot.source (snapshot : Snapshot) (boot : String) : Source :=
  ⟨boot, snapshot.producer, snapshot.generation, snapshot.pid, snapshot.connection⟩

def Sighting.source (sighting : Sighting) : Source := sighting.snapshot.source sighting.boot

theorem Snapshot.source_of_same {left right : Snapshot} (equal : same left right) (boot : String) :
    left.source boot = right.source boot := by
  obtain ⟨pid, producer, generation, connection⟩ := equal
  simp [Snapshot.source, pid, producer, generation, connection]

def sourceScale : Scale Source where
  kind := Sample.source
  held identity cursor := cursor.anchor.source identity.bootId
  lower := Sample.sequenceStart
  upper := Sample.sequenceEnd
  place := Snapshot.sequence
  kind_row _ _ _ _ equal := Snapshot.source_of_same equal _
  held_move _ _ _ _ equal := Snapshot.source_of_same equal _
  lower_row _ _ _ _ := rfl
  upper_row _ _ _ _ := rfl
  rises _ _ continues := continues.sequence.le

/-- No counter file of a connection shows a sequence below one that was read before. -/
def neverFalls (readings : List Sighting) : Prop :=
  readings.Pairwise fun earlier later => earlier.source = later.source →
    earlier.snapshot.sequence ≤ later.snapshot.sequence

/-- Every row ends at a snapshot that was read. -/
def Traced (world : World) : Prop :=
  ∀ row ∈ world.journal, ∃ sighting ∈ world.readings,
    sighting.source = row.source ∧ sighting.snapshot.sequence = row.sequenceEnd

section Traces

variable {stamps : Epoch} {world later : World} {sampler after : Sampler}
  {outcome : Except String (Option Sample)}

theorem Moved.readings (moved : Moved stamps world sampler later after outcome) :
    ∃ more, later.readings = world.readings ++ more := by
  cases moved with
  | idle drawn more outcome bound blank => exact ⟨_, rfl⟩
  | restarts current stamped => exact ⟨_, rfl⟩
  | sees cursor current outcome stamped held continues blank => exact ⟨_, rfl⟩
  | measures cursor current now stamped held continues long fresh => exact ⟨_, rfl⟩

theorem Moved.row_read (moved : Moved stamps world sampler later after outcome) {row : Sample}
    (made : outcome = .ok (some row)) : ∃ sighting ∈ later.readings,
      sighting.source = row.source ∧ sighting.snapshot.sequence = row.sequenceEnd := by
  cases moved with
  | idle drawn more outcome bound blank => exact absurd made (blank row)
  | restarts current stamped => cases made
  | sees cursor current outcome stamped held continues blank => exact absurd made (blank row)
  | measures cursor current now stamped held continues long fresh =>
    obtain rfl := Option.some.inj (Except.ok.inj made)
    exact ⟨_, List.mem_append_right _ (List.mem_singleton_self _), rfl, rfl⟩

theorem traced_step (traced : Traced world) (trailed : Trailed stamps world) (event : SamplerEvent) :
    Traced (world.step stamps event).1 ∧
      ∃ more, (world.step stamps event).1.readings = world.readings ++ more := by
  have unchanged : Traced world ∧ ∃ more, world.readings = world.readings ++ more :=
    ⟨traced, [], (List.append_nil _).symm⟩
  cases living : world.process with
  | none =>
    cases event with
    | start identity host =>
      simp only [World.step, living]
      exact unchanged
    | sample value now faults => simpa only [World.step, living] using unchanged
    | stop => simpa only [World.step, living] using unchanged
  | some sampler =>
    cases event with
    | start identity host => simpa only [World.step, living] using unchanged
    | stop =>
      simp only [World.step, living]
      exact unchanged
    | sample value now faults =>
      simp only [World.step, living]
      have known := trailed.process sampler living
      have drawn : ∀ cursor, sampler.state.cursor = some cursor →
          cursor.measurementEpoch < world.drawn :=
        fun cursor held => known.drawn _ (List.mem_of_getLast? (known.ends cursor held))
      obtain ⟨later, after, outcome, moved, shape⟩ := sampleOnce_cases drawn value now faults
      obtain ⟨-, journal, -, -, -, -⟩ := known_moved known moved
      obtain ⟨more, readings⟩ := moved.readings
      have wrote := commit_committed later after outcome faults
      rw [shape]
      refine ⟨?_, more, wrote.readings.trans readings⟩
      have old : ∀ row ∈ world.journal, ∃ sighting ∈ later.readings,
          sighting.source = row.source ∧ sighting.snapshot.sequence = row.sequenceEnd := by
        intro row member
        obtain ⟨sighting, read, source, sequence⟩ := traced row member
        exact ⟨sighting, readings ▸ List.mem_append_left _ read, source, sequence⟩
      intro row member
      rw [wrote.readings]
      have files := wrote.files
      rw [journal] at files
      rcases files with ⟨same, -, -⟩ | ⟨-, -, same | ⟨new, made, appended⟩⟩
      · exact old row (same ▸ member)
      · exact old row (same ▸ member)
      · rw [appended] at member
        rcases List.mem_append.mp member with earlier | last
        · exact old row earlier
        · rw [List.mem_singleton.mp last]
          exact moved.row_read made

end Traces

/-- What holds of the sampler's world after any events. -/
structure Sampled (stamps : Epoch) (world : World) : Prop where
  trailed : Trailed stamps world
  traced : Traced world
  sequences : sequenceScale.Ranked world
  bytes : bytesScale.Ranked world
  sources : neverFalls world.readings → sourceScale.Ranked world

section Sampled

variable {stamps : Epoch} {world : World}

/-- No row is of an epoch that is not drawn yet. -/
theorem Trailed.undrawn (trailed : Trailed stamps world) {sampler : Sampler}
    (living : world.process = some sampler) :
    ∀ row ∈ world.journal, row.measurementEpoch ≠ world.drawn := by
  intro row member same
  have known := trailed.process sampler living
  obtain ⟨start, -, first, -, -⟩ := known.spanned row member
  exact absurd same (known.drawn _ first).ne

theorem sampled_step (sampled : Sampled stamps world) (event : SamplerEvent) :
    Sampled stamps (world.step stamps event).1 := by
  obtain ⟨traced, more, grown⟩ := traced_step sampled.traced sampled.trailed event
  constructor
  · exact trailed_step sampled.trailed event
  · exact traced
  · apply ranked_step sampled.sequences sampled.trailed
    intro sampler current living read row member kind
    exact absurd kind (sampled.trailed.undrawn living row member)
  · apply ranked_step sampled.bytes sampled.trailed
    intro sampler current living read row member kind
    exact absurd kind (sampled.trailed.undrawn living row member)
  · intro rising
    have before : neverFalls world.readings := by
      rw [grown] at rising
      exact (List.pairwise_append.mp rising).1
    apply ranked_step (sampled.sources before) sampled.trailed
    intro sampler current living read row member kind
    rw [read] at rising
    obtain ⟨sighting, seen, source, sequence⟩ := sampled.traced row member
    have below := (List.pairwise_append.mp rising).2.2 sighting seen _ (List.mem_singleton_self _)
      (source.trans kind)
    exact sequence.symm.le.trans below

theorem sampled_final (stamps : Epoch) (events : List SamplerEvent) :
    Sampled stamps (final (World.step stamps) {} events) := by
  apply final_kept (Sampled stamps)
  · exact fun world event sampled => sampled_step sampled event
  · have ranked : ∀ {κ : Type} (scale : Scale κ), scale.Ranked {} := by
      intro κ scale
      exact ⟨fun _ alive => absurd alive (by simp), fun _ held => absurd held (by simp), .nil⟩
    refine ⟨⟨fun _ alive => absurd alive (by simp), ?_⟩,
      fun _ member => absurd member List.not_mem_nil, ranked _, ranked _, fun _ => ranked _⟩
    constructor
    · exact .nil
    · exact fun _ member => absurd member List.not_mem_nil
    · exact fun _ member => absurd member List.not_mem_nil
    · exact fun _ held => absurd held (by simp)
    · exact fun _ held => absurd held (by simp)
    · exact fun _ member => absurd member List.not_mem_nil

end Sampled

/-- The snapshots that the sampler took up and has not forgotten in a crash. -/
def World.accepted (world : World) : List Accepted :=
  match world.process with
  | some _ => world.trail
  | none => world.diskTrail

/-- The growth of the counter over the snapshots of an epoch. -/
def counterGrowth (trail : List Accepted) (measurementEpoch : ℕ) : ℤ :=
  let taken := trail.filter fun entry => entry.measurementEpoch = measurementEpoch
  match taken.head?, taken.getLast? with
  | some first, some last => last.snapshot.bytesSent - first.snapshot.bytesSent
  | _, _ => 0

section Results

variable {stamps : Epoch} {world : World}

theorem Trailed.accepted (trailed : Trailed stamps world) :
    ∃ cursor, Known stamps world.drawn world.journal cursor world.accepted := by
  unfold World.accepted
  cases living : world.process with
  | none => exact ⟨_, trailed.disk⟩
  | some sampler => exact ⟨_, trailed.process sampler living⟩

/-- A row starts at a snapshot that was taken up before the one it ends at. -/
theorem Spans.ordered {trail : List Accepted} {row : Sample} {start stop : Snapshot}
    (spans : Spans row start stop) (ordered : trail.Pairwise Accepted.before)
    (first : ⟨row.measurementEpoch, start⟩ ∈ trail)
    (second : ⟨row.measurementEpoch, stop⟩ ∈ trail) :
    start.sequence < stop.sequence ∧ start.bytesSent ≤ stop.bytesSent := by
  have long := spans.long
  rcases rel_trichotomy ordered first second with same | before | after
  · have equal : start = stop := congrArg Accepted.snapshot same
    rw [equal] at long
    exact absurd long (by norm_num)
  · obtain ⟨-, sequence, -, bytes⟩ := before.2 rfl
    exact ⟨sequence, bytes⟩
  · obtain ⟨-, -, observed, -⟩ := after.2 rfl
    dsimp only at observed
    linarith

theorem sum_deltas_le {drawn : ℕ} {cursor : Option Cursor} {journal rows : List Sample}
    {trail : List Accepted} (known : Known stamps drawn journal cursor trail)
    (apart : journal.Pairwise fun earlier later =>
      bytesScale.kind earlier = bytesScale.kind later →
        bytesScale.upper earlier ≤ bytesScale.lower later)
    (measurementEpoch : ℕ)
    (sub : rows.Sublist (journal.filter fun row => row.measurementEpoch = measurementEpoch)) :
    (rows.map Sample.bytesSentDelta).sum ≤ counterGrowth trail measurementEpoch := by
  have member : ∀ row ∈ rows, row ∈ journal ∧ row.measurementEpoch = measurementEpoch := by
    intro row inside
    simpa using List.mem_filter.mp (sub.subset inside)
  have taken : (trail.filter fun entry => entry.measurementEpoch = measurementEpoch).Pairwise
      Accepted.before := known.ordered.filter _
  have same : ∀ entry ∈ trail.filter fun entry => entry.measurementEpoch = measurementEpoch,
      entry.measurementEpoch = measurementEpoch := by
    intro entry inside
    simpa using (List.mem_filter.mp inside).2
  have deltas : rows.map Sample.bytesSentDelta =
      rows.map fun row => bytesScale.upper row - bytesScale.lower row := by
    apply List.map_congr_left
    intro row _
    exact (sub_sub_cancel _ _).symm
  have order : rows.Pairwise fun earlier later =>
      bytesScale.upper earlier ≤ bytesScale.lower later := by
    apply ((apart.filter _).sublist sub).imp_of_mem
    intro earlier later first second follows
    exact follows ((member earlier first).2.trans (member later second).2.symm)
  rw [deltas]
  unfold counterGrowth
  cases starts : (trail.filter fun entry => entry.measurementEpoch = measurementEpoch).head? with
  | none =>
    -- without a snapshot there is no row
    have none : rows = [] := by
      apply List.eq_nil_iff_forall_not_mem.mpr
      intro row inside
      obtain ⟨present, epoch⟩ := member row inside
      obtain ⟨start, -, first, -, -⟩ := known.spanned row present
      have found : (⟨row.measurementEpoch, start⟩ : Accepted) ∈
          trail.filter fun entry => entry.measurementEpoch = measurementEpoch :=
        List.mem_filter.mpr ⟨first, by simpa using epoch⟩
      rw [List.head?_eq_none_iff.mp starts] at found
      exact absurd found List.not_mem_nil
    simp [none, starts]
  | some first =>
    obtain ⟨last, ends⟩ : ∃ last, (trail.filter fun entry =>
        entry.measurementEpoch = measurementEpoch).getLast? = some last := by
      have inside := List.mem_of_head? starts
      exact ⟨_, List.getLast?_eq_some_getLast (List.ne_nil_of_mem inside)⟩
    simp only [starts, ends]
    have above : ∀ entry ∈ trail.filter fun entry => entry.measurementEpoch = measurementEpoch,
        first.snapshot.bytesSent ≤ entry.snapshot.bytesSent := by
      intro entry inside
      rcases head_rel taken starts inside with rfl | before
      · exact le_rfl
      · exact (before.2 ((same _ (List.mem_of_head? starts)).trans (same _ inside).symm)).2.2.2
    have below : ∀ entry ∈ trail.filter fun entry => entry.measurementEpoch = measurementEpoch,
        entry.snapshot.bytesSent ≤ last.snapshot.bytesSent := by
      intro entry inside
      rcases rel_getLast taken ends inside with rfl | before
      · exact le_rfl
      · exact (before.2 ((same _ inside).trans (same _ (List.mem_of_getLast? ends)).symm)).2.2.2
    apply sum_stretches_le (above last (List.mem_of_getLast? ends)) order
    intro row inside
    obtain ⟨present, epoch⟩ := member row inside
    obtain ⟨start, stop, former, latter, spans⟩ := known.spanned row present
    have ordered := spans.ordered known.ordered former latter
    have found : ∀ snapshot, (⟨row.measurementEpoch, snapshot⟩ : Accepted) ∈ trail →
        (⟨row.measurementEpoch, snapshot⟩ : Accepted) ∈
          trail.filter fun entry => entry.measurementEpoch = measurementEpoch :=
      fun snapshot here => List.mem_filter.mpr ⟨here, by simpa using epoch⟩
    have lower : bytesScale.lower row = start.bytesSent := by
      change row.bytesSent - row.bytesSentDelta = start.bytesSent
      rw [spans.delta, spans.bytes, sub_sub_cancel]
    have upper : bytesScale.upper row = stop.bytesSent := spans.bytes
    rw [lower, upper]
    exact ⟨above _ (found start former), ordered.2, below _ (found stop latter)⟩

end Results

/-- The stretch of a row. -/
def Sample.stretch (row : Sample) : Set ℤ := Set.Ioc row.sequenceStart row.sequenceEnd

theorem disjoint_stretches {earlier later : Sample} (follows : earlier.sequenceEnd ≤ later.sequenceStart) :
    Disjoint earlier.stretch later.stretch :=
  Set.Ioc_disjoint_Ioc_of_le follows

/-- After any events, rows of one measurement epoch are disjoint, and so are rows of one connection
whose counter files never fall back; every row lies between two of the snapshots taken up, whose
counters never fall within an epoch; and the deltas of rows of an epoch are within its growth. -/
theorem upload_samples_disjoint (stamps : Epoch) (events : List SamplerEvent) :
    let world := final (World.step stamps) {} events
    (world.journal.Pairwise fun earlier later =>
      earlier.measurementEpoch = later.measurementEpoch ∨
        neverFalls world.readings ∧ earlier.source = later.source →
      Disjoint earlier.stretch later.stretch) ∧
    world.accepted.Pairwise Accepted.before ∧
    (∀ row ∈ world.journal, ∃ start stop, ⟨row.measurementEpoch, start⟩ ∈ world.accepted ∧
      ⟨row.measurementEpoch, stop⟩ ∈ world.accepted ∧ Spans row start stop ∧
      stamps row.sampleStartObservedAt = some start.observed ∧
      stamps row.sampleEndObservedAt = some stop.observed) ∧
    ∀ (measurementEpoch : ℕ) (rows : List Sample),
      rows.Sublist (world.journal.filter fun row => row.measurementEpoch = measurementEpoch) →
      (rows.map Sample.bytesSentDelta).sum ≤ counterGrowth world.accepted measurementEpoch := by
  intro world
  have sampled := sampled_final stamps events
  obtain ⟨cursor, known⟩ := sampled.trailed.accepted
  refine ⟨?_, known.ordered, ?_, ?_⟩
  · by_cases rising : neverFalls world.readings
    · apply (sampled.sequences.apart.and (sampled.sources rising).apart).imp
      rintro earlier later ⟨epochs, sources⟩ (same | ⟨-, same⟩)
      · exact disjoint_stretches (epochs same)
      · exact disjoint_stretches (sources same)
    · apply sampled.sequences.apart.imp
      rintro earlier later epochs (same | ⟨falls, -⟩)
      · exact disjoint_stretches (epochs same)
      · exact absurd falls rising
  · intro row member
    obtain ⟨start, stop, first, second, spans⟩ := known.spanned row member
    refine ⟨start, stop, first, second, spans, ?_, ?_⟩
    · rw [spans.startedAt]
      exact known.stamped _ first
    · rw [spans.endedAt]
      exact known.stamped _ second
  · intro measurementEpoch rows sub
    exact sum_deltas_le known sampled.bytes.apart measurementEpoch sub

section Overlaps

/-- Some stamps as `fromisoformat` reads them. -/
def minuteStamps : Epoch := fun text =>
  [("2026-01-01T00:00:00+00:00", 1767225600), ("2026-01-01T00:00:30+00:00", 1767225630),
    ("2026-01-01T00:01:00+00:00", 1767225660), ("2026-01-01T00:02:00+00:00", 1767225720),
    ("2026-01-01T00:03:00+00:00", 1767225780)].lookup text

def counterFile (sequence bytes : ℤ) (observedAt : String) : CounterValue where
  schemaVersion := some "runtime.ffmpeg_observation.v1"
  tcpMetrics := some ⟨some bytes, some 0, some "c"⟩
  ffmpegRunning := true
  managedChildCardinality := "1"
  localFfmpegPid := some 730
  sequence := some sequence
  producerInstanceId := some "producer-1"
  ffmpegGeneration := some "generation-1"
  observedAt := some observedAt

def sampleAt (sequence bytes : ℤ) (observedAt : String) (second : ℚ) (faults : Faults) :
    SamplerEvent :=
  .sample (some (counterFile sequence bytes observedAt)) ⟨1767225600 + second, second⟩ faults

def encoderHost : HostIdentity :=
  ⟨"bbbbbbbbbbbbbbbbbbbbbbbbbbbbbbbbbbbbbbbbbbbbbbbbbbbbbbbbbbbbbbbb", "boot-1"⟩

/-- A counter that falls back starts a new epoch, whose rows overlap the older ones. -/
def fallsBack : List SamplerEvent :=
  [.start encoderHost "encoder-host",
    sampleAt 10 0 "2026-01-01T00:00:00+00:00" 0 {},
    sampleAt 20 100 "2026-01-01T00:01:00+00:00" 60 {},
    sampleAt 5 200 "2026-01-01T00:02:00+00:00" 120 {},
    sampleAt 15 300 "2026-01-01T00:03:00+00:00" 180 {}]

/-- A snapshot that is forgotten in a crash may show more bytes than the next one. -/
def forgets : List SamplerEvent :=
  [.start encoderHost "encoder-host",
    sampleAt 10 0 "2026-01-01T00:00:00+00:00" 0 {},
    sampleAt 11 100 "2026-01-01T00:00:30+00:00" 30 { first := .dies false },
    .start encoderHost "encoder-host",
    sampleAt 12 50 "2026-01-01T00:01:00+00:00" 60 {}]

theorem upload_samples_overlap :
    (¬ ∀ (stamps : Epoch) (events : List SamplerEvent),
      (final (World.step stamps) {} events).journal.Pairwise fun earlier later =>
        earlier.source = later.source → Disjoint earlier.stretch later.stretch) ∧
    ¬ ∀ (stamps : Epoch) (events : List SamplerEvent),
      ∀ row ∈ (final (World.step stamps) {} events).journal,
      ∀ sighting ∈ (final (World.step stamps) {} events).readings,
        sighting.source = row.source → sighting.snapshot.sequence ∈ row.stretch →
          sighting.snapshot.bytesSent ≤ row.bytesSent := by
  constructor
  · intro claimed
    have apart : (final (World.step minuteStamps) {} fallsBack).journal.Pairwise
        fun earlier later => earlier.source = later.source →
          ¬ ((earlier.sequenceStart < 11 ∧ 11 ≤ earlier.sequenceEnd) ∧
            later.sequenceStart < 11 ∧ 11 ≤ later.sequenceEnd) := by
      apply (claimed minuteStamps fallsBack).imp
      intro earlier later follows equal both
      have first : 11 ∈ earlier.stretch := both.1
      have second : 11 ∈ later.stretch := both.2
      exact Set.disjoint_left.mp (follows equal) first second
    exact absurd apart (by decide +kernel)
  · intro claimed
    have rows := claimed minuteStamps forgets
    have shape : ∃ row ∈ (final (World.step minuteStamps) {} forgets).journal,
        ∃ sighting ∈ (final (World.step minuteStamps) {} forgets).readings,
          sighting.source = row.source ∧ (row.sequenceStart < sighting.snapshot.sequence ∧
            sighting.snapshot.sequence ≤ row.sequenceEnd) ∧
          ¬ sighting.snapshot.bytesSent ≤ row.bytesSent := by decide +kernel
    obtain ⟨row, member, sighting, read, source, inside, more⟩ := shape
    exact more (rows row member sighting read source inside)

end Overlaps

end LiveStream.Upload

import LiveStream.Projection.Reading
import LiveStream.Support.Identical
import LiveStream.Support.Run

/-! Publications, restored files and reads in any order: which sequences are published, and what one
reader with a high water accepts. -/

namespace LiveStream.Projection

open LiveStream.Support

/-- Where a publication is cut: in the write of the sequence or of the envelope, before or after the
file is replaced. -/
inductive Cut where
  | reserving (replaced : Bool)
  | publishing (replaced : Bool)
  deriving DecidableEq

/-- An accepted read. -/
structure Acceptance where
  request : Request
  envelope : Fields
  record : HighWater

/-- The files of the projectors and of the reader, with every envelope that was published and every
read that was accepted, the latest first. -/
structure World where
  lastReservedSequence : Int := 0
  projection : Content := .missing
  highWater : Option HighWater := none
  published : List Fields := []
  accepted : List Acceptance := []

inductive Event where
  | publish (projector : Projector) (source : Content) (current : Int) (projectionId : String)
      (cut : Option Cut)
  | put (content : Content)
  | read (request : Request)

inductive Answer where
  | published (result : Except PyError Fields)
  | killed
  | put
  | read (result : Except PyError Decision)

variable (platform : Platform) (reader : Reader)

/-- `publish` after the sequence is reserved. -/
def World.emit (world : World) (envelope : Except PyError Fields) (cut : Option Cut) :
    World × Answer :=
  match envelope with
  | .error error => (world, .published (.error error))
  | .ok envelope =>
    if platform.encodesFields envelope = false then
      (world, .published (.error Platform.encodeError))
    else if cut = some (.publishing false) then (world, .killed)
    else
      let world := { world with
        projection := .object envelope, published := envelope :: world.published }
      (world, if cut = some (.publishing true) then .killed else .published (.ok envelope))

/-- `publish`. -/
def World.publish (world : World) (projector : Projector) (source : Content) (current : Int)
    (projectionId : String) (cut : Option Cut) : World × Answer :=
  match projector.admitted platform current source with
  | .error error => (world, .published (.error error))
  | .ok (snapshot, freshUntil) =>
    if projector.reserves platform = false then (world, .published (.error Platform.encodeError))
    else if cut = some (.reserving false) then (world, .killed)
    else
      let sequence := world.lastReservedSequence + 1
      let world := { world with lastReservedSequence := sequence }
      if cut = some (.reserving true) then (world, .killed)
      else
        world.emit platform
          (projector.envelope platform current projectionId sequence snapshot freshUntil) cut

/-- The read of an envelope that was accepted. -/
def World.accept (world : World) (request : Request) (record : HighWater) : World :=
  match world.projection with
  | .object envelope =>
    { world with highWater := some record, accepted := ⟨request, envelope, record⟩ :: world.accepted }
  | .missing | .tooDeep => world

def World.step (world : World) : Event → World × Answer
  | .publish projector source current projectionId cut =>
    world.publish platform projector source current projectionId cut
  | .put content => ({ world with projection := content }, .put)
  | .read request =>
    match reader.read platform request world.highWater world.projection with
    | .error error => (world, .read (.error error))
    | .ok (decision, none) => (world, .read (.ok decision))
    | .ok (decision, some record) => (world.accept request record, .read (.ok decision))

/-! ### The law -/

/-- The published sequences fall, from the latest back. -/
def World.NeverReused (world : World) : Prop :=
  ∃ sequences : List Int, sequences.Pairwise (fun newer older => older < newer) ∧
    world.published.map (field · "projection_sequence") = sequences.map Value.int

/-- What was accepted has an intact digest, was not expired, and has the record of its envelope. -/
structure Acceptance.Genuine (acceptance : Acceptance) : Prop where
  sequence : sequenceOf acceptance.envelope = .ok acceptance.record.projectionSequence
  producerInstance : instanceOf platform acceptance.envelope = acceptance.record.producerInstanceId
  current : Current platform acceptance.request acceptance.envelope
  payload : ∃ payload, Sealed platform reader acceptance.envelope payload ∧
    Fresh platform acceptance.request payload ∧
    Generated acceptance.request acceptance.envelope payload acceptance.record.maintenanceGeneration

/-- No accepted generation is older than one that was accepted before. -/
def World.GenerationsGrow (world : World) : Prop :=
  world.accepted.Pairwise fun newer older =>
    older.record.maintenanceGeneration ≤ newer.record.maintenanceGeneration

/-- No accepted sequence is smaller than one of its instance that was accepted before. -/
def World.NeverReplayed (world : World) : Prop :=
  world.accepted.Pairwise fun newer older =>
    newer.record.producerInstanceId = older.record.producerInstanceId →
      older.record.projectionSequence ≤ newer.record.projectionSequence

/-- The read finds an envelope in order, of an instance that is not the one of the high water, with
a smaller sequence than one that was accepted of its instance. -/
def World.Replays (world : World) (request : Request) : Prop :=
  ∃ envelope sequence payload generation, world.projection = .object envelope ∧
    sequenceOf envelope = .ok sequence ∧
    InOrder platform reader request envelope sequence payload generation ∧
    previousGeneration world.highWater ≤ generation ∧
    (reader.record platform envelope sequence generation).writes platform = true ∧
    previousInstance world.highWater ≠ instanceOf platform envelope ∧
    ∃ earlier ∈ world.accepted, earlier.record.producerInstanceId = instanceOf platform envelope ∧
      sequence < earlier.record.projectionSequence

/-- Everything the read coerces is what it is coerced to. -/
def World.Readable (world : World) (request : Request) : Prop :=
  match world.projection with
  | .missing => True
  | .tooDeep => False
  | .object envelope => ∃ sequence, sequenceOf envelope = .ok sequence ∧
    Coerces platform reader request envelope world.highWater sequence

/-- No read meets an envelope of an instance that has been overtaken by another one. -/
def Unreplayed (world : World) : Event → Prop
  | .read request => ¬ world.Replays platform reader request
  | .publish _ _ _ _ _ | .put _ => True

def ReadableEvent (world : World) : Event → Prop
  | .read request => world.Readable platform reader request
  | .publish _ _ _ _ _ | .put _ => True

/-- Every read returns a decision. -/
def Answered (world : World) (events : List Event) : Prop :=
  ∀ taken ∈ trace (World.step platform reader) world events, ∀ result,
    taken.output = .read result → ∃ decision, result = .ok decision

/-! ### One publication -/

section Publications

variable {platform reader} {world : World}

theorem sequence_of_envelope {projector : Projector} {current : Int} {projectionId : String}
    {sequence : Int} {snapshot envelope : Fields} {freshUntil : Int}
    (built : projector.envelope platform current projectionId sequence snapshot freshUntil =
      .ok envelope) : field envelope "projection_sequence" = .int sequence := by
  simp only [Projector.envelope, bind_eq_ok, pure_eq_ok] at built
  obtain ⟨_, _, _, _, rfl⟩ := built
  rfl

variable (platform) in
/-- What a publication may do to the world: nothing, a reservation, or a reservation and an envelope
that states it. -/
theorem publish_cases (projector : Projector) (source : Content) (current : Int)
    (projectionId : String) (cut : Option Cut) :
    let reservation := { world with lastReservedSequence := world.lastReservedSequence + 1 }
    let after := (world.publish platform projector source current projectionId cut).1
    after = world ∨ after = reservation ∨
      ∃ envelope, field envelope "projection_sequence" = .int (world.lastReservedSequence + 1) ∧
        after = { reservation with
          projection := .object envelope, published := envelope :: world.published } := by
  intro reservation after
  simp only [after, World.publish]
  cases projector.admitted platform current source with
  | error error => exact Or.inl rfl
  | ok checked =>
    simp only
    split
    · exact Or.inl rfl
    · split
      · exact Or.inl rfl
      · split
        · exact Or.inr (Or.inl rfl)
        · simp only [World.emit]
          split
          · exact Or.inr (Or.inl rfl)
          · rename_i envelope built
            split
            · exact Or.inr (Or.inl rfl)
            · split
              · exact Or.inr (Or.inl rfl)
              · exact Or.inr (Or.inr ⟨envelope, sequence_of_envelope built, rfl⟩)

theorem emit_answer (envelope : Except PyError Fields) (cut : Option Cut)
    {result : Except PyError Decision} : (world.emit platform envelope cut).2 ≠ .read result := by
  unfold World.emit
  cases envelope with
  | error error => simp
  | ok envelope =>
    simp only
    split_ifs <;> simp

theorem publish_answer (projector : Projector) (source : Content) (current : Int)
    (projectionId : String) (cut : Option Cut) {result : Except PyError Decision} :
    (world.publish platform projector source current projectionId cut).2 ≠ .read result := by
  unfold World.publish
  cases projector.admitted platform current source with
  | error error => simp
  | ok checked =>
    simp only
    split
    · simp
    · split
      · simp
      · split
        · simp
        · exact emit_answer _ cut

end Publications

/-! ### One read -/

/-- The read accepts the envelope and writes the record. -/
def World.Accepts (world : World) (request : Request) (envelope : Fields) (record : HighWater) :
    Prop :=
  world.projection = .object envelope ∧ ∃ sequence payload generation,
    sequenceOf envelope = .ok sequence ∧
    InOrder platform reader request envelope sequence payload generation ∧
    ¬ Regresses platform envelope world.highWater sequence generation ∧
    record = reader.record platform envelope sequence generation ∧ record.writes platform = true

section Reads

variable {platform reader} {world : World} {request : Request}

theorem read_accepts {record : HighWater} :
    (∃ decision, reader.read platform request world.highWater world.projection =
        .ok (decision, some record)) ↔
      ∃ envelope, world.Accepts platform reader request envelope record := by
  unfold World.Accepts
  cases world.projection with
  | missing => simp [Reader.read, Content.read]
  | tooDeep => simp [Reader.read, Content.read]
  | object envelope =>
    simp only [Reader.read, Content.read, ok_bind, Content.object.injEq]
    cases read : sequenceOf envelope with
    | error error => simp [read]
    | ok sequence =>
      simp only [ok_bind]
      cases admits : reader.admits platform request envelope world.highWater sequence with
      | error exit =>
        constructor
        · rintro ⟨decision, impossible⟩
          cases exit <;> cases impossible
        · rintro ⟨_, rfl, _, payload, generation, same, inOrder, kept, rfl, writes⟩
          cases read.symm.trans same
          have passes := admits_ok.mpr ⟨generation, inOrder, kept, rfl, writes⟩
          cases admits.symm.trans passes
      | ok pair =>
        obtain ⟨payload, written⟩ := pair
        obtain ⟨generation, inOrder, kept, shape, writes⟩ := admits_ok.mp admits
        simp only [pure_eq_ok, Prod.mk.injEq, Option.some.injEq]
        constructor
        · rintro ⟨_, _, rfl⟩
          exact ⟨envelope, rfl, sequence, payload, generation, read, inOrder, kept, shape, writes⟩
        · rintro ⟨_, rfl, _, payload', generation', same, inOrder', kept', rfl, writes'⟩
          cases read.symm.trans same
          have passes := admits_ok.mpr ⟨generation', inOrder', kept', rfl, writes'⟩
          cases admits.symm.trans passes
          exact ⟨_, rfl, rfl⟩

/-- A read returns exactly when everything it coerces is what it is coerced to. -/
theorem read_returns :
    Returns (reader.read platform request world.highWater world.projection) ↔
      world.Readable platform reader request := by
  unfold World.Readable
  cases world.projection with
  | missing => simp [Reader.read, Content.read, Returns]
  | tooDeep => simp [Reader.read, Content.read, Returns]
  | object envelope =>
    simp only [Reader.read, Content.read, ok_bind]
    cases read : sequenceOf envelope with
    | error error => simp [Returns]
    | ok sequence =>
      simp only [ok_bind, Except.ok.injEq, exists_eq_left', ← settles_admits]
      cases admits : reader.admits platform request envelope world.highWater sequence with
      | error exit => cases exit <;> simp [Returns, Settles]
      | ok pair => simp [Returns, Settles]

variable (platform reader) in
/-- A read accepts what is in the projection file, or it leaves the world as it is. -/
theorem read_cases (request : Request) :
    let after := (world.step platform reader (.read request)).1
    (∃ envelope record, world.Accepts platform reader request envelope record ∧
      after = { world with
        highWater := some record, accepted := ⟨request, envelope, record⟩ :: world.accepted }) ∨
      (∀ envelope record, ¬ world.Accepts platform reader request envelope record) ∧ after = world := by
  intro after
  have refused (none_ : ∀ record decision,
      reader.read platform request world.highWater world.projection ≠ .ok (decision, some record)) :
      ∀ envelope record, ¬ world.Accepts platform reader request envelope record := by
    intro envelope record accepts
    obtain ⟨decision, read⟩ := read_accepts.mpr ⟨envelope, accepts⟩
    exact none_ record decision read
  simp only [after, World.step]
  cases read : reader.read platform request world.highWater world.projection with
  | error error => exact Or.inr ⟨refused (by simp [read]), rfl⟩
  | ok pair =>
    obtain ⟨decision, written⟩ := pair
    cases written with
    | none => exact Or.inr ⟨refused (by simp [read]), rfl⟩
    | some record =>
      obtain ⟨envelope, accepts⟩ := read_accepts.mp ⟨decision, read⟩
      refine Or.inl ⟨envelope, record, accepts, ?_⟩
      simp only [World.accept, accepts.1]

end Reads

/-! ### Runs -/

/-- The published sequences fall from the last reservation, and the high water is the record of the
latest accepted read. -/
structure World.Faithful (world : World) : Prop where
  sequences : ∃ sequences : List Int, sequences.Pairwise (fun newer older => older < newer) ∧
    world.published.map (field · "projection_sequence") = sequences.map Value.int ∧
    ∀ sequence ∈ sequences, sequence ≤ world.lastReservedSequence
  highWater : world.highWater = world.accepted.head?.map Acceptance.record
  genuine : ∀ acceptance ∈ world.accepted, acceptance.Genuine platform reader
  generations : world.GenerationsGrow

section Runs

variable {platform reader} {world : World} {request : Request}

theorem faithful_initially : World.Faithful platform reader {} where
  sequences := ⟨[], .nil, rfl, by simp⟩
  highWater := rfl
  genuine := by simp
  generations := .nil

theorem Accepts.genuine {envelope : Fields} {record : HighWater}
    (accepts : world.Accepts platform reader request envelope record) :
    Acceptance.Genuine platform reader ⟨request, envelope, record⟩ := by
  obtain ⟨_, sequence, payload, generation, read, inOrder, _, rfl, _⟩ := accepts
  exact ⟨read, rfl, inOrder.current, payload, inOrder.genuine, inOrder.fresh, inOrder.generated⟩

/-- The generation of an accepted read is no older than any before. -/
theorem World.Faithful.generation_le (faithful : world.Faithful platform reader) {envelope : Fields}
    {record : HighWater} (accepts : world.Accepts platform reader request envelope record) :
    ∀ older ∈ world.accepted, older.record.maintenanceGeneration ≤ record.maintenanceGeneration := by
  obtain ⟨_, sequence, payload, generation, _, _, kept, rfl, _⟩ := accepts
  simp only [Regresses, not_or, not_lt, faithful.highWater] at kept
  have grown := faithful.generations
  unfold World.GenerationsGrow at grown
  cases shape : world.accepted with
  | nil => simp
  | cons latest rest =>
    rw [shape] at kept grown
    have above : latest.record.maintenanceGeneration ≤ generation := kept.2
    intro older member
    rcases List.mem_cons.mp member with rfl | earlier
    · exact above
    · exact ((List.pairwise_cons.mp grown).1 older earlier).trans above

theorem faithful_step (faithful : world.Faithful platform reader) (event : Event) :
    (world.step platform reader event).1.Faithful platform reader := by
  obtain ⟨⟨sequences, falling, stated, bounded⟩, highWater, genuine, generations⟩ := id faithful
  have reserved : ∀ sequence ∈ sequences, sequence ≤ world.lastReservedSequence + 1 :=
    fun sequence member => (bounded sequence member).trans (by omega)
  cases event with
  | put content => exact ⟨⟨sequences, falling, stated, bounded⟩, highWater, genuine, generations⟩
  | publish projector source current projectionId cut =>
    rcases publish_cases platform projector source current projectionId cut with
      same | reservation | ⟨envelope, numbered, emitted⟩
    · rw [World.step, same]
      exact faithful
    · rw [World.step, reservation]
      exact ⟨⟨sequences, falling, stated, reserved⟩, highWater, genuine, generations⟩
    · rw [World.step, emitted]
      refine ⟨⟨(world.lastReservedSequence + 1) :: sequences, ?_, ?_, ?_⟩, highWater, genuine,
        generations⟩
      · apply List.pairwise_cons.mpr ⟨fun sequence member => ?_, falling⟩
        have below := bounded sequence member
        omega
      · simp only [List.map_cons, numbered, stated]
      · intro sequence member
        rcases List.mem_cons.mp member with rfl | earlier
        · exact le_rfl
        · exact reserved sequence earlier
  | read request =>
    rcases read_cases platform reader request with
      ⟨envelope, record, accepts, after⟩ | ⟨_, after⟩
    · rw [after]
      refine ⟨⟨sequences, falling, stated, bounded⟩, rfl, ?_, ?_⟩
      · intro acceptance member
        rcases List.mem_cons.mp member with rfl | earlier
        · exact Accepts.genuine accepts
        · exact genuine acceptance earlier
      · exact List.pairwise_cons.mpr ⟨faithful.generation_le accepts, generations⟩
    · rw [after]
      exact faithful

/-- An accepted envelope that is no replay has no smaller sequence than the ones of its instance. -/
theorem World.Faithful.sequence_le (faithful : world.Faithful platform reader)
    (never : world.NeverReplayed) (fair : ¬ world.Replays platform reader request)
    {envelope : Fields} {record : HighWater}
    (accepts : world.Accepts platform reader request envelope record) :
    ∀ older ∈ world.accepted, record.producerInstanceId = older.record.producerInstanceId →
      older.record.projectionSequence ≤ record.projectionSequence := by
  obtain ⟨found, sequence, payload, generation, read, inOrder, kept, rfl, writes⟩ := accepts
  simp only [Regresses, not_or, not_lt] at kept
  intro older member same
  by_cases latest : previousInstance world.highWater = instanceOf platform envelope
  · -- the instance of the high water: its own sequence bounds those before it
    have above : previousSequence world.highWater ≤ sequence := by
      by_contra below
      exact kept.1 ⟨latest, not_le.mp below⟩
    unfold World.NeverReplayed at never
    rw [faithful.highWater] at above latest
    cases shape : world.accepted with
    | nil =>
      rw [shape] at member
      cases member
    | cons head rest =>
      rw [shape] at above latest never member
      have bound : head.record.projectionSequence ≤ sequence := above
      rcases List.mem_cons.mp member with rfl | earlier
      · exact bound
      · have named : head.record.producerInstanceId = instanceOf platform envelope := latest
        exact ((List.pairwise_cons.mp never).1 older earlier (named.trans same)).trans bound
  · by_contra larger
    exact fair ⟨envelope, sequence, payload, generation, found, read, inOrder, kept.2, writes, latest,
      older, member, same.symm, not_le.mp larger⟩

/-- One step keeps every instance in order exactly if it is no replay. -/
theorem neverReplayed_step (faithful : world.Faithful platform reader) (event : Event) :
    (world.step platform reader event).1.NeverReplayed ↔
      world.NeverReplayed ∧ Unreplayed platform reader world event := by
  cases event with
  | put content => simp [Unreplayed, World.step, World.NeverReplayed]
  | publish projector source current projectionId cut =>
    have same : (world.step platform reader
        (.publish projector source current projectionId cut)).1.accepted = world.accepted := by
      rcases publish_cases platform projector source current projectionId cut with
        after | after | ⟨envelope, _, after⟩ <;> rw [World.step, after]
    simp [Unreplayed, World.NeverReplayed, same]
  | read request =>
    rcases read_cases platform reader request with
      ⟨envelope, record, accepts, after⟩ | ⟨refused, after⟩
    · rw [after, World.NeverReplayed, List.pairwise_cons]
      constructor
      · rintro ⟨newest, never⟩
        refine ⟨never, ?_⟩
        rintro ⟨envelope', sequence', _, _, found', read', _, _, _, _, older, member, named, larger⟩
        obtain ⟨found, sequence, _, _, read, _, _, rfl, _⟩ := accepts
        cases found.symm.trans found'
        cases read.symm.trans read'
        exact absurd (newest older member named.symm) (not_le.mpr larger)
      · rintro ⟨never, fair⟩
        exact ⟨faithful.sequence_le never fair accepts, never⟩
    · rw [after]
      refine ⟨fun never => ⟨never, ?_⟩, fun both => both.1⟩
      rintro ⟨envelope, sequence, payload, generation, found, read, inOrder, recent, writes, other, _⟩
      apply refused envelope (reader.record platform envelope sequence generation)
      refine ⟨found, sequence, payload, generation, read, inOrder, ?_, rfl, writes⟩
      rintro (⟨same, _⟩ | older)
      · exact other same
      · exact absurd recent (not_le.mpr older)

/-- A run keeps every instance in order exactly if no read of it is a replay. -/
theorem neverReplayed_final (events : List Event) (faithful : world.Faithful platform reader) :
    (final (World.step platform reader) world events).NeverReplayed ↔
      world.NeverReplayed ∧
        Guarded (World.step platform reader) (Unreplayed platform reader) world events := by
  induction events generalizing world with
  | nil => simp [Guarded, trace]
  | cons event rest inductionHypothesis =>
    rw [final_cons, guarded_cons, inductionHypothesis (faithful_step faithful event),
      neverReplayed_step faithful event, and_assoc]

variable (platform reader) in
/-- A run answers every read exactly if every read coerces what it can. -/
theorem answered_iff (world : World) (events : List Event) :
    Answered platform reader world events ↔
      Guarded (World.step platform reader) (ReadableEvent platform reader) world events := by
  have answers (world : World) (event : Event) :
      (∀ result, (world.step platform reader event).2 = .read result →
        ∃ decision, result = .ok decision) ↔ ReadableEvent platform reader world event := by
    cases event with
    | put content => simp [World.step, ReadableEvent]
    | publish projector source current projectionId cut =>
      simp only [ReadableEvent, iff_true]
      exact fun result same => absurd same (publish_answer projector source current projectionId cut)
    | read request =>
      rw [ReadableEvent, ← read_returns]
      simp only [World.step]
      cases read : reader.read platform request world.highWater world.projection with
      | error error => simp [Returns]
      | ok pair =>
        obtain ⟨decision, written⟩ := pair
        cases written <;> simp [Returns]
  unfold Answered Guarded
  constructor
  · intro answered taken member
    rw [← answers]
    have stepped := eq_take_of_mem taken member
    intro result same
    apply answered taken member result
    rw [stepped]
    exact same
  · intro guarded taken member result output
    have stepped := eq_take_of_mem taken member
    apply (answers taken.before taken.event).mpr (guarded taken member) result
    rw [stepped] at output
    exact output

theorem faithful_final (platform : Platform) (reader : Reader) (events : List Event) :
    (final (World.step platform reader) {} events).Faithful platform reader := by
  apply final_kept (World.Faithful platform reader)
  · exact fun world event faithful => faithful_step faithful event
  · exact faithful_initially

end Runs

/-- What a run of publications, restores and reads should come to. -/
structure Law (platform : Platform) (reader : Reader) (events : List Event) : Prop where
  neverReused : (final (World.step platform reader) {} events).NeverReused
  genuine : ∀ acceptance ∈ (final (World.step platform reader) {} events).accepted,
    acceptance.Genuine platform reader
  generations : (final (World.step platform reader) {} events).GenerationsGrow
  neverReplayed : (final (World.step platform reader) {} events).NeverReplayed
  answered : Answered platform reader {} events

def exampleSnapshot : Fields := [
  ("schema_version", .str "maintenance.audit_state_snapshot.v2"), ("producer_id", .str "dell-audit"),
  ("producer_instance_id", .str "dell-1"), ("production_behavior_modified", .bool false),
  ("physical_effect_count", .int 0), ("observed_at", .str "2026-01-01T00:00:00.000Z"),
  ("fresh_until", .str "2026-01-01T00:01:00.000Z"), ("snapshot_id", .str "snapshot-1"),
  ("maintenance_generation", .int 7), ("target_snapshot_id", .str "target-1"),
  ("target_snapshot_status", .str "VALID"), ("target_identity", .dict [("pid", .int 4)])]

def newYear : Int := 1767225600000000

/-- The times and the digest of the example. -/
def examplePlatform : Platform where
  surrogate _ := false
  repr _ := ""
  fromisoformat text :=
    match ["2026-01-01T00:00:00.000+00:00", "2026-01-01T00:00:01.000+00:00",
      "2026-01-01T00:00:06.000+00:00", "2026-01-01T00:01:00.000+00:00"].idxOf text with
    | 0 => .at newYear
    | 1 => .at (newYear + 1000000)
    | 2 => .at (newYear + 6000000)
    | 3 => .at (newYear + 60000000)
    | _ => .invalid
  nowText instant :=
    if instant = newYear + 1000000 then "2026-01-01T00:00:01.000Z" else "2026-01-01T00:00:06.000Z"
  sha256 fields :=
    if fields = exampleSnapshot then
      "96bb6e92c56afb5b698d03b02cfa91d86b2a926de4faacdfcb76c84b49161a8e"
    else ""

def exampleProjector (producerInstanceId : String) : Projector :=
  ⟨"projector", producerInstanceId, "dell-audit", 5000000, by decide⟩

def exampleReader : Reader := ⟨"projector", "dell-audit"⟩

def examplePublish (producerInstanceId projectionId : String) : Event :=
  .publish (exampleProjector producerInstanceId) (.object exampleSnapshot) (newYear + 1000000)
    projectionId none

def exampleRead : Event := .read { current := newYear + 1000000 }

/-- The first envelope of the first instance. -/
def firstEnvelope : Fields :=
  match (exampleProjector "first").envelope examplePlatform (newYear + 1000000) "a" 1 exampleSnapshot
    (newYear + 60000000) with
  | .ok envelope => envelope
  | .error _ => []

/-- Two publications of one instance and one of the next; then the first envelope is put back. -/
def overtaken : List Event := [
  examplePublish "first" "a", examplePublish "first" "b", exampleRead,
  examplePublish "second" "c", exampleRead, .put (.object firstEnvelope), exampleRead]

/-- A document with an infinite sequence. -/
def infinite : List Event := [.put (.object [("projection_sequence", .float .posInf)]), exampleRead]

instance (world : World) : Decidable world.NeverReplayed :=
  inferInstanceAs (Decidable (List.Pairwise _ _))

end LiveStream.Projection

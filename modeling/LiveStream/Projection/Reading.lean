import LiveStream.Projection.Envelope

/-! What one read establishes of the envelope that it accepts, and when it raises. -/

namespace LiveStream.Projection

open LiveStream.Support

variable {platform : Platform} {reader : Reader} {request : Request} {envelope payload : Fields}
  {highWater : Option HighWater} {sequence generation : Int}

/-! ### Envelopes in order -/

/-- Schema and identities are those the reader expects. -/
structure Headed (platform : Platform) (reader : Reader) (envelope : Fields) (sequence : Int) :
    Prop where
  schema : platform.textOr "" (field envelope "schema_version") = "maintenance.snapshot_projection.v1"
  identified : projectionIdOf platform envelope ≠ ""
  positive : 0 < sequence
  producer : platform.textOr "" (field envelope "producer_id") = reader.expectedProducerId
  source : platform.textOr "" (field envelope "source_producer_id") = reader.expectedSourceProducerId

/-- The projection is published and not expired. -/
def Current (platform : Platform) (request : Request) (envelope : Fields) : Prop :=
  ∃ publishedAt freshUntil, platform.utc (field envelope "published_at") = .ok (some publishedAt) ∧
    platform.utc (field envelope "fresh_until") = .ok (some freshUntil) ∧
    publishedAt ≤ request.current ∧ request.current < freshUntil

/-- The payload has the digest and the origin that the envelope states. -/
structure Sealed (platform : Platform) (reader : Reader) (envelope payload : Fields) : Prop where
  carried : field envelope "payload" = .dict payload
  digest : platform.canonicalSha256 payload =
    .ok (platform.textOr "" (field envelope "payload_sha256"))
  snapshot : platform.textOr "" (field payload "snapshot_id") =
    platform.textOr "" (field envelope "source_snapshot_id")
  producer : platform.textOr "" (field payload "producer_id") = reader.expectedSourceProducerId

/-- The source is not expired. -/
def Fresh (platform : Platform) (request : Request) (payload : Fields) : Prop :=
  ∃ freshUntil, platform.utc (field payload "fresh_until") = .ok (some freshUntil) ∧
    request.current < freshUntil

/-- Payload and envelope state the generation, and it is the expected one. -/
structure Generated (request : Request) (envelope payload : Fields) (generation : Int) : Prop where
  own : intOr0 (field payload "maintenance_generation") = .ok generation
  stated : intOr0 (field envelope "maintenance_generation") = .ok generation
  expected : ∀ expected ∈ request.expectedMaintenanceGeneration, generation = expected

/-- The target is valid, and it is the expected one. -/
def Aimed (platform : Platform) (request : Request) (payload : Fields) : Prop :=
  platform.textOr "MISSING" (field payload "target_snapshot_status") = "VALID" ∧
    ∃ target, field payload "target_identity" = .dict target ∧
      ∀ expected ∈ request.expectedTargetIdentity,
        (Value.dict target).same (.dict expected) = true

/-- An envelope that passes every check before the high water. -/
structure InOrder (platform : Platform) (reader : Reader) (request : Request) (envelope : Fields)
    (sequence : Int) (payload : Fields) (generation : Int) : Prop where
  headed : Headed platform reader envelope sequence
  current : Current platform request envelope
  genuine : Sealed platform reader envelope payload
  fresh : Fresh platform request payload
  generated : Generated request envelope payload generation
  aimed : Aimed platform request payload

/-- The high water forbids the sequence of its own instance and a generation that is older. -/
def Regresses (platform : Platform) (envelope : Fields) (highWater : Option HighWater)
    (sequence generation : Int) : Prop :=
  previousInstance highWater = instanceOf platform envelope ∧ sequence < previousSequence highWater ∨
    generation < previousGeneration highWater

@[simp] theorem require_eq_ok {condition : Prop} [Decidable condition] {reason : String}
    {result : Unit} : require condition reason = .ok result ↔ condition := by
  simp [require]

@[simp] theorem uncaught_eq_ok {α : Type} {outcome : Except PyError α} {value : α} :
    uncaught outcome = .ok value ↔ outcome = .ok value := by
  cases outcome <;> simp [uncaught, Except.mapError]

theorem mapping?_eq_some {value : Value} {fields : Fields} :
    mapping? value = some fields ↔ value = .dict fields := by
  cases value <;> simp [mapping?]

theorem checkHeader_ok {result : Unit} :
    checkHeader platform reader envelope sequence = .ok result ↔
      Headed platform reader envelope sequence := by
  simp only [checkHeader, bind_eq_ok, require_eq_ok, exists_const]
  constructor
  · rintro ⟨schema, ⟨identified, positive⟩, producer, source⟩
    exact ⟨schema, identified, positive, producer, source⟩
  · rintro ⟨schema, identified, positive, producer, source⟩
    exact ⟨schema, ⟨identified, positive⟩, producer, source⟩

theorem checkTimes_ok {result : Unit} :
    checkTimes platform request envelope = .ok result ↔ Current platform request envelope := by
  simp only [checkTimes, bind_eq_ok, uncaught_eq_ok, require_eq_ok, Option.any_eq_true,
    decide_eq_true_eq]
  constructor
  · rintro ⟨_, publishedAt, _, freshUntil, ⟨published, rfl, before⟩, until_, rfl, after⟩
    exact ⟨published, until_, publishedAt, freshUntil, before, after⟩
  · rintro ⟨published, until_, publishedAt, freshUntil, before, after⟩
    exact ⟨_, publishedAt, _, freshUntil, ⟨published, rfl, before⟩, until_, rfl, after⟩

theorem checkPayload_ok :
    checkPayload platform reader envelope = .ok payload ↔ Sealed platform reader envelope payload := by
  simp only [checkPayload, bind_eq_ok, orReject_eq_ok, mapping?_eq_some, uncaught_eq_ok,
    require_eq_ok, pure_eq_ok]
  constructor
  · rintro ⟨_, found, digest, hashed, _, rfl, _, snapshot, _, producer, rfl⟩
    exact ⟨found, hashed, snapshot, producer⟩
  · rintro ⟨found, hashed, snapshot, producer⟩
    exact ⟨_, found, _, hashed, (), rfl, (), snapshot, (), producer, rfl⟩

theorem checkSource_ok {result : Unit} :
    checkSource platform request payload = .ok result ↔ Fresh platform request payload := by
  simp only [checkSource, bind_eq_ok, uncaught_eq_ok, require_eq_ok, Option.any_eq_true,
    decide_eq_true_eq]
  constructor
  · rintro ⟨_, read, until_, rfl, after⟩
    exact ⟨until_, read, after⟩
  · rintro ⟨until_, read, after⟩
    exact ⟨_, read, until_, rfl, after⟩

theorem checkGeneration_ok :
    checkGeneration request envelope payload = .ok generation ↔
      Generated request envelope payload generation := by
  simp only [checkGeneration, bind_eq_ok, uncaught_eq_ok, require_eq_ok, pure_eq_ok]
  constructor
  · rintro ⟨_, own, _, stated, _, rfl, _, expected, rfl⟩
    exact ⟨own, stated, expected⟩
  · rintro ⟨own, stated, expected⟩
    exact ⟨_, own, _, stated, (), rfl, (), expected, rfl⟩

theorem checkTarget_ok {result : Unit} :
    checkTarget platform request payload = .ok result ↔ Aimed platform request payload := by
  simp only [checkTarget, bind_eq_ok, orReject_eq_ok, mapping?_eq_some, require_eq_ok, exists_const,
    Aimed]

/-- The checks before the high water pass exactly for the envelopes that are in order. -/
theorem check_ok : reader.check platform request envelope sequence = .ok (payload, generation) ↔
    InOrder platform reader request envelope sequence payload generation := by
  simp only [Reader.check, bind_eq_ok, checkHeader_ok, checkTimes_ok, checkPayload_ok, checkSource_ok,
    checkGeneration_ok, checkTarget_ok, pure_eq_ok, exists_const, Prod.mk.injEq]
  constructor
  · rintro ⟨headed, current, _, genuine, fresh, _, generated, aimed, rfl, rfl⟩
    exact ⟨headed, current, genuine, fresh, generated, aimed⟩
  · rintro ⟨headed, current, genuine, fresh, generated, aimed⟩
    exact ⟨headed, current, _, genuine, fresh, _, generated, aimed, rfl, rfl⟩

theorem checkHighWater_ok {result : Unit} :
    checkHighWater platform envelope highWater sequence generation = .ok result ↔
      ¬ Regresses platform envelope highWater sequence generation := by
  simp only [checkHighWater, bind_eq_ok, require_eq_ok, exists_const, Regresses, not_or, not_lt]

/-! ### Reads that raise -/

/-- The reading of a field returns. -/
def Returns {α : Type} (outcome : Except PyError α) : Prop := ∃ value, outcome = .ok value

/-- What a read coerces once the checks before it have passed: the times of the projection, the text
of the payload, the time of the source, the generations, and the text of the new record. -/
structure Coerces (platform : Platform) (reader : Reader) (request : Request) (envelope : Fields)
    (highWater : Option HighWater) (sequence : Int) : Prop where
  times : Headed platform reader envelope sequence →
    Returns (platform.utc (field envelope "published_at")) ∧
      Returns (platform.utc (field envelope "fresh_until"))
  digest : Headed platform reader envelope sequence → Current platform request envelope →
    ∀ payload, field envelope "payload" = .dict payload → platform.encodesFields payload = true
  source : Headed platform reader envelope sequence → Current platform request envelope →
    ∀ payload, Sealed platform reader envelope payload →
      Returns (platform.utc (field payload "fresh_until"))
  generations : Headed platform reader envelope sequence → Current platform request envelope →
    ∀ payload, Sealed platform reader envelope payload → Fresh platform request payload →
      Returns (intOr0 (field payload "maintenance_generation")) ∧
        Returns (intOr0 (field envelope "maintenance_generation"))
  record : ∀ payload generation,
    InOrder platform reader request envelope sequence payload generation →
    ¬ Regresses platform envelope highWater sequence generation →
      (reader.record platform envelope sequence generation).writes platform = true

/-- The check does not raise. -/
def Settles {α : Type} (outcome : Except Exit α) : Prop := ∀ error, outcome ≠ .error (.raises error)

section Settles

variable {α β : Type}

theorem settles_ok (value : α) : Settles (.ok value : Except Exit α) := by
  intro error impossible
  cases impossible

theorem settles_pure (value : α) : Settles (pure value : Except Exit α) := settles_ok value

theorem settles_bind {first : Except Exit α} {next : α → Except Exit β} :
    Settles (first >>= next) ↔ Settles first ∧ ∀ value, first = .ok value → Settles (next value) := by
  cases first with
  | error exit => cases exit <;> simp [Settles]
  | ok value => simp [Settles]

theorem settles_require (condition : Prop) [Decidable condition] (reason : String) :
    Settles (require condition reason) := by
  unfold require rejectIf
  split
  · intro error impossible
    cases impossible
  · exact settles_ok ()

theorem settles_orReject (reason : String) (found : Option α) :
    Settles (orReject (.rejects reason) found) := by
  cases found with
  | none =>
    intro error impossible
    cases impossible
  | some value => exact settles_ok value

theorem settles_uncaught {outcome : Except PyError α} :
    Settles (uncaught outcome) ↔ Returns outcome := by
  cases outcome with
  | error error => simp [Settles, Returns, uncaught, Except.mapError]
  | ok value => simp [Settles, Returns, uncaught, Except.mapError]

end Settles

theorem settles_checkHeader : Settles (checkHeader platform reader envelope sequence) := by
  simp only [checkHeader, settles_bind, settles_require, implies_true, and_self]

theorem settles_checkTimes : Settles (checkTimes platform request envelope) ↔
    Returns (platform.utc (field envelope "published_at")) ∧
      Returns (platform.utc (field envelope "fresh_until")) := by
  simp only [checkTimes, settles_bind, settles_require, settles_uncaught, uncaught_eq_ok,
    implies_true, and_true, and_congr_right_iff]
  rintro ⟨published, read⟩
  simp [read]

theorem settles_checkPayload : Settles (checkPayload platform reader envelope) ↔
    ∀ payload, field envelope "payload" = .dict payload → platform.encodesFields payload = true := by
  have hashes (payload : Fields) : Returns (platform.canonicalSha256 payload) ↔
      platform.encodesFields payload = true := by
    unfold Platform.canonicalSha256 Returns
    split <;> simp_all
  simp only [checkPayload, settles_bind, settles_orReject, settles_require, settles_uncaught, hashes,
    orReject_eq_ok, mapping?_eq_some, settles_pure, implies_true, and_true, true_and]

theorem settles_checkSource : Settles (checkSource platform request payload) ↔
    Returns (platform.utc (field payload "fresh_until")) := by
  simp only [checkSource, settles_bind, settles_require, settles_uncaught, implies_true, and_true]

theorem settles_checkGeneration : Settles (checkGeneration request envelope payload) ↔
    Returns (intOr0 (field payload "maintenance_generation")) ∧
      Returns (intOr0 (field envelope "maintenance_generation")) := by
  simp only [checkGeneration, settles_bind, settles_require, settles_uncaught, uncaught_eq_ok,
    settles_pure, implies_true, and_true, and_congr_right_iff]
  rintro ⟨generation, read⟩
  simp [read]

theorem settles_checkTarget : Settles (checkTarget platform request payload) := by
  simp only [checkTarget, settles_bind, settles_require, settles_orReject, implies_true, and_self]

theorem settles_checkHighWater :
    Settles (checkHighWater platform envelope highWater sequence generation) := by
  simp only [checkHighWater, settles_bind, settles_require, implies_true, and_self]

/-- The checks before the high water raise exactly when a coercion that they reach fails. -/
theorem settles_check : Settles (reader.check platform request envelope sequence) ↔
    (Headed platform reader envelope sequence →
      (Returns (platform.utc (field envelope "published_at")) ∧
        Returns (platform.utc (field envelope "fresh_until"))) ∧
      (Current platform request envelope →
        (∀ payload, field envelope "payload" = .dict payload → platform.encodesFields payload = true) ∧
        ∀ payload, Sealed platform reader envelope payload →
          Returns (platform.utc (field payload "fresh_until")) ∧
          (Fresh platform request payload →
            Returns (intOr0 (field payload "maintenance_generation")) ∧
              Returns (intOr0 (field envelope "maintenance_generation"))))) := by
  simp only [Reader.check, settles_bind, settles_checkHeader, settles_checkTimes,
    settles_checkPayload, settles_checkSource, settles_checkGeneration, settles_checkTarget,
    settles_pure, checkHeader_ok, checkTimes_ok, checkPayload_ok, checkSource_ok, forall_const,
    implies_true, and_true, true_and]

/-- A read of an object raises exactly when a coercion that it reaches fails. -/
theorem settles_admits :
    Settles (reader.admits platform request envelope highWater sequence) ↔
      Coerces platform reader request envelope highWater sequence := by
  have written (record : HighWater) :
      Returns (rejectIf (record.writes platform = false) Platform.encodeError) ↔
        record.writes platform = true := by
    unfold Returns
    simp
  simp only [Reader.admits, settles_bind, settles_check, settles_checkHighWater, settles_uncaught,
    settles_pure, written, check_ok, checkHighWater_ok, Prod.forall, forall_const, implies_true,
    and_true, true_and]
  constructor
  · rintro ⟨checks, record⟩
    exact
      { times := fun headed => (checks headed).1
        digest := fun headed current => ((checks headed).2 current).1
        source := fun headed current payload genuine =>
          (((checks headed).2 current).2 payload genuine).1
        generations := fun headed current payload genuine =>
          (((checks headed).2 current).2 payload genuine).2
        record }
  · intro coerces
    refine ⟨fun headed => ⟨coerces.times headed, fun current => ⟨coerces.digest headed current, ?_⟩⟩,
      coerces.record⟩
    intro payload genuine
    exact ⟨coerces.source headed current payload genuine,
      coerces.generations headed current payload genuine⟩

/-- What is written as the new high water. -/
theorem admits_ok {record : HighWater} :
    reader.admits platform request envelope highWater sequence = .ok (payload, record) ↔
      ∃ generation, InOrder platform reader request envelope sequence payload generation ∧
        ¬ Regresses platform envelope highWater sequence generation ∧
        record = reader.record platform envelope sequence generation ∧
        record.writes platform = true := by
  simp only [Reader.admits, bind_eq_ok, check_ok, checkHighWater_ok, uncaught_eq_ok,
    rejectIf_eq_ok, pure_eq_ok, Prod.exists, Prod.mk.injEq, exists_const, Bool.not_eq_false]
  constructor
  · rintro ⟨_, generation, inOrder, kept, writes, rfl, rfl⟩
    exact ⟨generation, inOrder, kept, rfl, writes⟩
  · rintro ⟨generation, inOrder, kept, rfl, writes⟩
    exact ⟨payload, generation, inOrder, kept, writes, rfl, rfl⟩

end LiveStream.Projection

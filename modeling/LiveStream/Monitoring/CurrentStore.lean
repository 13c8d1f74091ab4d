import LiveStream.Monitoring.Reducer

/-! The stored currents: the immutable snapshots, the one canonical row of each domain, and
the service that reduces the domains into them. -/

namespace LiveStream.Monitoring

open LiveStream.Support

/-- The tables `observations`, `current_snapshots` (its ids) and `domain_current`. -/
structure CurrentTables where
  observations : List ObservationEnvelope
  currentSnapshots : List SnapshotId
  domainCurrent : List DomainCurrent
  deriving DecidableEq

def CurrentTables.empty : CurrentTables := ⟨[], [], []⟩

variable (tables : CurrentTables)

/-- `append_observation`: `INSERT OR IGNORE` under the id. -/
def appendObservation (item : ObservationEnvelope) : CurrentTables :=
  if tables.observations.any fun row => row.observationId = item.observationId then tables
  else { tables with observations := tables.observations ++ [item] }

/-- `ORDER BY observed_ts DESC, observation_id`. -/
def ObservationEnvelope.newestFirst (item : ObservationEnvelope) : ℤ ×ₗ String :=
  toLex (-unixTs item.observedAt, item.observationId)

/-- `latest_observations`, with its limit. -/
def latestObservations (domain : Domain) : List ObservationEnvelope :=
  (sortBy ObservationEnvelope.newestFirst (ofDomain domain tables.observations)).take 200

/-- `append_current_snapshot`: `INSERT OR IGNORE` under the id. -/
def appendCurrentSnapshot (item : DomainCurrent) : CurrentTables :=
  if item.snapshotId ∈ tables.currentSnapshots then tables
  else { tables with currentSnapshots := tables.currentSnapshots ++ [item.snapshotId] }

/-- The triggers that let a row name only a snapshot of its domain that is there. -/
def snapshotGuard (snapshotId : SnapshotId) (domain : Domain) (text : String) : Except PyError Unit :=
  rejectIf (snapshotId ∉ tables.currentSnapshots ∨ snapshotId.domain ≠ domain) (integrityError text)

/-- The row of a domain in `domain_current`. -/
def currentOf (domain : Domain) : Option DomainCurrent :=
  lookup DomainCurrent.domain tables.domainCurrent domain

/-- The condition under which the row of a domain is replaced. -/
def supersedes (fresh stored : DomainCurrent) : Prop :=
  stored.observedAt < fresh.observedAt ∨
    (fresh.observedAt = stored.observedAt ∧ stored.reducedAt ≤ fresh.reducedAt) ∨
    stored.validUntil < fresh.reducedAt

instance (fresh stored : DomainCurrent) : Decidable (supersedes fresh stored) :=
  inferInstanceAs (Decidable (_ ∨ _ ∨ _))

/-- Whether the upsert of `save_current` writes the row. -/
def written (fresh : DomainCurrent) : Bool :=
  match currentOf tables fresh.domain with
  | some stored => supersedes fresh stored
  | none => true

/-- `save_current`: the tables and whether the row was written. -/
def saveCurrent (fresh : DomainCurrent) : Except PyError (CurrentTables × Bool) :=
  let noted := appendCurrentSnapshot tables fresh
  if written tables fresh then do
    snapshotGuard noted fresh.snapshotId fresh.domain "domain_current snapshot reference mismatch"
    return ({ noted with
      domainCurrent := upsert DomainCurrent.domain noted.domainCurrent fresh }, true)
  else return (noted, false)

/-- The policies of a reducer, each under its own domain. -/
structure PolicyTable where
  policy : Domain → Option DomainPolicy
  named : ∀ domain found, policy domain = some found → found.domain = domain

/-- The snapshot of a domain that a reducer computes before its transaction. -/
def snapshotOf (policies : PolicyTable) (nowTs : Int) (domain : Domain) :
    Except PyError DomainCurrent := do
  let policy ← orReject (keyError "domain") (policies.policy domain)
  reduceDomain policy nowTs 0 (latestObservations tables domain)

/-- The snapshot that was written, or the row that was kept. -/
def canonicalOf (saved : CurrentTables) (snapshot : DomainCurrent) (fresh : Bool) :
    Except PyError DomainCurrent :=
  if fresh then .ok snapshot
  else orReject (runtimeError "domain current disappeared") (currentOf saved snapshot.domain)

/-- The loop of the transaction. -/
def saveAll (tables : CurrentTables) :
    List DomainCurrent → Except PyError (CurrentTables × List DomainCurrent)
  | [] => .ok (tables, [])
  | snapshot :: rest => do
    let (saved, fresh) ← saveCurrent tables snapshot
    let selected ← canonicalOf saved snapshot fresh
    let (final, canonical) ← saveAll saved rest
    return (final, selected :: canonical)

/-- `CurrentReducerService.reduce`. -/
def reduce (policies : PolicyTable) (domains : List Domain) (nowTs : Int) :
    Except PyError (CurrentTables × List DomainCurrent) := do
  let snapshots ← domains.mapM (snapshotOf tables policies nowTs)
  saveAll tables snapshots

/-- A turn at the repository: an appended observation, or a reducer's call with its own
policies and its own clock. -/
inductive Turn where
  | append (item : ObservationEnvelope)
  | reduce (policies : PolicyTable) (domains : List Domain) (nowTs : Int)

/-- What a turn leaves, and the currents that a call returned. A call that raises is rolled
back. -/
def turn (tables : CurrentTables) : Turn → CurrentTables × Option (List DomainCurrent)
  | .append item => (appendObservation tables item, none)
  | .reduce policies domains nowTs =>
    match reduce tables policies domains nowTs with
    | .ok (final, canonical) => (final, some canonical)
    | .error _ => (tables, none)

section Reads

variable {tables} {fresh : DomainCurrent}

@[simp] theorem domainCurrent_appendCurrentSnapshot :
    (appendCurrentSnapshot tables fresh).domainCurrent = tables.domainCurrent := by
  unfold appendCurrentSnapshot
  split <;> rfl

@[simp] theorem observations_appendCurrentSnapshot :
    (appendCurrentSnapshot tables fresh).observations = tables.observations := by
  unfold appendCurrentSnapshot
  split <;> rfl

@[simp] theorem currentOf_appendCurrentSnapshot {domain : Domain} :
    currentOf (appendCurrentSnapshot tables fresh) domain = currentOf tables domain := by
  rw [currentOf, domainCurrent_appendCurrentSnapshot, currentOf]

theorem mem_currentSnapshots_append {ident : SnapshotId} :
    ident ∈ (appendCurrentSnapshot tables fresh).currentSnapshots ↔
      ident ∈ tables.currentSnapshots ∨ ident = fresh.snapshotId := by
  unfold appendCurrentSnapshot
  split
  · rename_i known
    constructor
    · exact Or.inl
    · rintro (member | rfl)
      · exact member
      · exact known
  · simp

theorem domain_of_currentOf {domain : Domain} {stored : DomainCurrent}
    (found : currentOf tables domain = some stored) : stored.domain = domain :=
  (lookup_some found).2

/-- What a save does: the row of the domain becomes the fresh snapshot, or stays. -/
theorem saveCurrent_cases {saved : CurrentTables} {wrote : Bool}
    (done : saveCurrent tables fresh = .ok (saved, wrote)) :
    (wrote = true ∧ written tables fresh = true ∧ currentOf saved fresh.domain = some fresh ∧
        ∀ other, other ≠ fresh.domain → currentOf saved other = currentOf tables other) ∨
      (wrote = false ∧ written tables fresh = false ∧
        ∀ other, currentOf saved other = currentOf tables other) := by
  unfold saveCurrent at done
  dsimp only at done
  split at done
  · rename_i writes
    left
    obtain ⟨_, _, same⟩ := bind_eq_ok.mp done
    cases same
    refine ⟨rfl, writes, lookup_upsert_self fresh, ?_⟩
    intro other apart
    rw [currentOf, lookup_upsert_of_ne apart, domainCurrent_appendCurrentSnapshot, currentOf]
  · rename_i keeps
    right
    cases done
    exact ⟨rfl, by simpa using keeps, fun other => currentOf_appendCurrentSnapshot⟩

end Reads

end LiveStream.Monitoring

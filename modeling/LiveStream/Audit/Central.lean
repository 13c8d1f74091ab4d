import Mathlib

/-! `CentralStore`: the audit records that agents pushed, in one table for every stream, and
`ingest`, which acknowledges a contiguous prefix. -/

namespace LiveStream.Audit

/-- An audit record; its payload is of a type `π` of JSON texts. -/
structure Record (π : Type) where
  seq : Int
  ts : String
  kind : String
  payload : π
  deriving DecidableEq

/-- The primary key of the table `audit`. -/
structure Key where
  agentId : String
  instanceId : String
  seq : Int
  deriving DecidableEq

/-- A row of `audit` or of `conflicts`. -/
structure Row (π : Type) where
  agentId : String
  instanceId : String
  record : Record π

def Row.key {π : Type} (row : Row π) : Key := ⟨row.agentId, row.instanceId, row.record.seq⟩

/-- A row of `audit_gaps`. -/
structure Gap where
  agentId : String
  instanceId : String
  expected : Int
  received : Int
  sightings : Nat
  resolved : Bool

/-- The tables of the central service; no two rows of `audit` have one key. -/
structure CentralStore (π : Type) where
  audit : List (Row π)
  conflicts : List (Row π)
  gaps : List Gap
  unique : (audit.map Row.key).Nodup

namespace CentralStore

variable {π : Type}

/-- `SELECT … FROM audit WHERE agent_id = ? AND instance_id = ? AND seq = ?`. -/
def stored (store : CentralStore π) (key : Key) : Option (Row π) :=
  store.audit.find? (·.key = key)

theorem stored_none {store : CentralStore π} {key : Key} (absent : store.stored key = none) :
    key ∉ store.audit.map Row.key := by
  intro listed
  obtain ⟨row, member, same⟩ := List.mem_map.mp listed
  have other := List.find?_eq_none.mp absent row member
  exact other (decide_eq_true same)

theorem stored_some {store : CentralStore π} {key : Key} {row : Row π}
    (found : store.stored key = some row) : row ∈ store.audit ∧ row.key = key := by
  rw [stored] at found
  have same := List.find?_some found
  exact ⟨List.mem_of_find?_eq_some found, of_decide_eq_true same⟩

/-- `INSERT INTO audit`, of a key that is not stored. -/
def insert (store : CentralStore π) (row : Row π) (absent : store.stored row.key = none) :
    CentralStore π :=
  { store with
    audit := store.audit ++ [row]
    unique := by
      rw [List.map_append, List.map_singleton]
      refine List.nodup_append.mpr ⟨store.unique, List.nodup_singleton _, ?_⟩
      intro key member other single same
      exact stored_none absent (List.mem_singleton.mp single ▸ same ▸ member) }

/-- `INSERT INTO conflicts`. -/
def conflict (store : CentralStore π) (row : Row π) : CentralStore π :=
  { store with conflicts := store.conflicts ++ [row] }

/-- `INSERT INTO audit_gaps … ON CONFLICT … DO UPDATE`. -/
def noteGap (store : CentralStore π) (agentId instanceId : String) (expected received : Int) :
    CentralStore π :=
  let same (gap : Gap) : Bool := gap.agentId = agentId && gap.instanceId = instanceId &&
    gap.expected = expected && gap.received = received
  { store with
    gaps :=
      if store.gaps.any same then
        store.gaps.map fun gap =>
          if same gap then { gap with sightings := gap.sightings + 1, resolved := false } else gap
      else store.gaps ++ [⟨agentId, instanceId, expected, received, 1, false⟩] }

/-- `UPDATE audit_gaps SET resolved_at=?`. -/
def resolveGaps (store : CentralStore π) (agentId instanceId : String) (high : Int) :
    CentralStore π :=
  { store with
    gaps := store.gaps.map fun gap =>
      if gap.agentId = agentId ∧ gap.instanceId = instanceId ∧ gap.received ≤ high then
        { gap with resolved := true }
      else gap }

/-- The sequences of a stream. -/
def sequences (store : CentralStore π) (agentId instanceId : String) : List Int :=
  (store.audit.filter fun row => row.agentId = agentId && row.instanceId = instanceId).map
    (·.record.seq)

/-- The scan of `contiguous_high` over the sequences in order. -/
def contiguousFrom : Int → List Int → Int
  | high, [] => high
  | high, seq :: rest => if seq ≠ high + 1 then high else contiguousFrom seq rest

/-- `contiguous_high`. -/
def contiguousHigh (store : CentralStore π) (agentId instanceId : String) : Int :=
  contiguousFrom 0 ((store.sequences agentId instanceId).mergeSort (· ≤ ·))

/-- `while … (agent_id, instance_id, high + 1)).fetchone(): high += 1`; every round finds another
row of the table. -/
def climb (store : CentralStore π) (agentId instanceId : String) (high : Int) : Int :=
  go store.audit.length high
where
  go : Nat → Int → Int
    | 0, high => high
    | rounds + 1, high =>
      if (store.stored ⟨agentId, instanceId, high + 1⟩).isSome then go rounds (high + 1) else high

variable [DecidableEq π]

/-- The loop of `ingest` over the sorted records. -/
def ingestRecords (agentId instanceId : String) :
    List (Record π) → CentralStore π → Int → CentralStore π × Int
  | [], store, high => (store, high)
  | record :: rest, store, high =>
    match absent : store.stored ⟨agentId, instanceId, record.seq⟩ with
    | some row =>
      let store :=
        if row.record = record then store else store.conflict ⟨agentId, instanceId, record⟩
      if high + 1 < record.seq then
        (store.noteGap agentId instanceId (high + 1) record.seq, high)
      else ingestRecords agentId instanceId rest store high
    | none =>
      if high + 1 < record.seq then
        (store.noteGap agentId instanceId (high + 1) record.seq, high)
      else
        let store := store.insert ⟨agentId, instanceId, record⟩ absent
        ingestRecords agentId instanceId rest store (store.climb agentId instanceId record.seq)

/-- `ingest`, one transaction; none if a sequence is not positive. -/
def ingest (store : CentralStore π) (agentId instanceId : String) (records : List (Record π)) :
    Option (CentralStore π × Int) :=
  if records.any (·.seq < 1) then none
  else
    let sorted := records.mergeSort fun left right => left.seq ≤ right.seq
    let (after, high) :=
      ingestRecords agentId instanceId sorted store (store.contiguousHigh agentId instanceId)
    some (after.resolveGaps agentId instanceId high, high)

end CentralStore

end LiveStream.Audit

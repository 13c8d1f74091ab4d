import LiveStream.Monitoring.Contract
import LiveStream.Support.Rows

/-! The ledger of the published artifacts, and the reconciliation of the public-safe file with
it. -/

namespace LiveStream.Monitoring

open LiveStream.Support

def PUBLIC_SAFE_ARTIFACT_KEY : String := "public-safe-shadow"

inductive PublicationState where
  | pending | published | superseded
  deriving DecidableEq

/-- `ArtifactPublication`, a row of `public_artifact_publications`. The columns in seconds are
those of their texts; an empty text is `none`. -/
structure ArtifactPublication (π : Type) where
  publicationId : String
  artifactKey : String
  cycleId : String
  state : PublicationState
  createdAt : UtcTime
  payloadSha256 : String
  payload : π
  attemptCount : Nat := 0
  lastAttemptAt : Option Int := none
  publishedAt : Option Int := none
  lastError : String := ""
  deriving DecidableEq

/-- The functions of the payloads: the ids, the digests and the bytes of the file. The name of an
exception's class goes into the ledger. -/
structure Formats (π : Type) where
  stableId : String → String → String → String
  payloadSha256 : π → String
  publicSafeBytes : π → Except PyError (List UInt8)
  className : PyError → String

variable {π : Type} [DecidableEq π]

section Store

variable (formats : Formats π) (rows : List (ArtifactPublication π))

/-- The arguments of `stage_artifact_publication`. The payload is what the round trip through its
canonical JSON gives. -/
structure Staging (π : Type) where
  artifactKey : String
  cycleId : String
  createdAt : Except PyError UtcTime
  payload : Except PyError π

/-- The row that a new cycle adds. -/
def Staging.row (request : Staging π) (createdAt : UtcTime) (payload : π) :
    ArtifactPublication π where
  publicationId :=
    formats.stableId request.artifactKey request.cycleId (formats.payloadSha256 payload)
  artifactKey := request.artifactKey
  cycleId := request.cycleId
  state := .pending
  createdAt
  payloadSha256 := formats.payloadSha256 payload
  payload

/-- `UPDATE … SET state='superseded' … WHERE artifact_key=? AND state='pending'`. -/
def supersede (publicationId artifactKey : String) : List (ArtifactPublication π) :=
  updateWhere (fun row => row.artifactKey = artifactKey ∧ row.state = .pending)
    (fun row => { row with
      state := .superseded, lastError := "superseded_by:" ++ publicationId }) rows

/-- `stage_artifact_publication`. -/
def stage (request : Staging π) :
    Except PyError (List (ArtifactPublication π) × ArtifactPublication π) := do
  rejectIf (request.artifactKey = "" ∨ 80 < request.artifactKey.length)
    (valueError "artifact_key must contain 1-80 characters")
  let createdAt ← request.createdAt
  let payload ← request.payload
  let fresh := request.row formats createdAt payload
  match rows.find? fun row =>
      row.artifactKey = request.artifactKey ∧ row.cycleId = request.cycleId with
  | some result =>
    rejectIf (result.publicationId ≠ fresh.publicationId ∨
        result.payloadSha256 ≠ fresh.payloadSha256 ∨ result.payload ≠ fresh.payload)
      (runtimeError "artifact publication identity collision for existing cycle")
    return (rows, result)
  | none =>
    -- the primary key
    rejectIf (∃ row ∈ rows, row.publicationId = fresh.publicationId)
      (integrityError "UNIQUE constraint failed: public_artifact_publications.publication_id")
    return (supersede rows fresh.publicationId request.artifactKey ++ [fresh], fresh)

/-- `ORDER BY CASE WHEN state='pending' THEN 0 ELSE 1 END, created_ts DESC, publication_id DESC`. -/
def ArtifactPublication.selection (row : ArtifactPublication π) : ℕ ×ₗ ℤ ×ₗ Stringᵒᵈ :=
  toLex (if row.state = .pending then 0 else 1,
    toLex (-unixTs row.createdAt, OrderDual.toDual row.publicationId))

/-- `reconcilable_artifact_publication`. -/
def reconcilable (artifactKey : String) : Option (ArtifactPublication π) :=
  (sortBy ArtifactPublication.selection (rows.filter fun row =>
    row.artifactKey = artifactKey ∧ (row.state = .pending ∨ row.state = .published))).head?

/-- `mark_artifact_publication_published`. -/
def markPublished (publicationId expectedPayloadSha256 : String) (publishedAt : Int) :
    Except PyError (List (ArtifactPublication π) × Bool) :=
  let waiting := fun row : ArtifactPublication π =>
    decide (row.publicationId = publicationId ∧ row.state = .pending ∧
      row.payloadSha256 = expectedPayloadSha256)
  let repaired := fun row : ArtifactPublication π =>
    decide (row.publicationId = publicationId ∧ row.state = .published ∧
      row.payloadSha256 = expectedPayloadSha256)
  if rows.countP waiting = 1 then
    .ok (updateWhere waiting (fun row => { row with
      state := .published
      attemptCount := row.attemptCount + 1
      lastAttemptAt := some publishedAt
      publishedAt := some publishedAt
      lastError := "" }) rows, true)
  else if (rows.any fun row => row.publicationId = publicationId ∧ row.state = .published) ∧
      rows.countP repaired = 1 then
    .ok (updateWhere repaired (fun row => { row with
      attemptCount := row.attemptCount + 1
      lastAttemptAt := some publishedAt
      lastError := "" }) rows, false)
  else .error (runtimeError "artifact publication lost its pending fence")

/-- `record_artifact_publication_failure`. -/
def recordFailure (publicationId : String) (attemptedAt : Int) (error : String) :
    List (ArtifactPublication π) :=
  updateWhere
    (fun row => row.publicationId = publicationId ∧
      (row.state = .pending ∨ row.state = .published))
    (fun row => { row with
      attemptCount := row.attemptCount + 1
      lastAttemptAt := some attemptedAt
      lastError :=
        let text := String.ofList ((strip error).toList.take 200)
        if text = "" then "publication_failed" else text }) rows

end Store

section Reconcile

/-- What is at the output path. -/
inductive Output where
  | missing
  | regular (content : List UInt8)
  | other
  deriving DecidableEq

structure Shop (π : Type) where
  rows : List (ArtifactPublication π) := []
  output : Output := .missing
  deriving DecidableEq

/-- How `write_public_safe_atomic` ends. -/
inductive Writing where
  | done
  | failedBefore (error : PyError)
  | failedAfter (error : PyError)

/-- How the transaction of the acknowledgement ends. -/
inductive Marking where
  | done
  | lost (error : PyError)
  | unanswered (error : PyError)

/-- What a reconciliation meets: whether the file can be read before and after the write, how the
write and the acknowledgement end, and whether a failure gets recorded. A process that is killed
fails where it stands and records nothing. -/
structure Encounter where
  readBefore : Bool := true
  writing : Writing := .done
  readAfter : Bool := true
  marking : Marking := .done
  recorded : Bool := true

/-- `_exact_regular_file`. -/
def exactRegularFile (readable : Bool) (output : Output) (expected : List UInt8) : Bool :=
  readable && output = .regular expected

structure PublicationResult where
  publicationId : String
  cycleId : String
  changed : Bool
  deriving DecidableEq

/-- The output path after the write of the payload, and what the write raised. -/
def writePublicSafeAtomic (output : Output) (expected : List UInt8) :
    Writing → Output × Except PyError Unit
  | .done => (.regular expected, .ok ())
  | .failedBefore error => (output, .error error)
  | .failedAfter error => (.regular expected, .error error)

/-- The acknowledgement under the fate of its transaction: the rows, and what it raised. -/
def acknowledge (rows : List (ArtifactPublication π)) (publication : ArtifactPublication π)
    (attemptedAt : Int) (marking : Marking) :
    List (ArtifactPublication π) × Except PyError Unit :=
  match markPublished rows publication.publicationId publication.payloadSha256 attemptedAt,
      marking with
  | .error error, _ => (rows, .error error)
  | .ok _, .lost error => (rows, .error error)
  | .ok (marked, _), .unanswered error => (marked, .error error)
  | .ok (marked, _), .done => (marked, .ok ())

/-- The `try` block: the write unless the file is exact, the second look, and the
acknowledgement. -/
def attempt (shop : Shop π) (publication : ArtifactPublication π) (expected : List UInt8)
    (exactBefore : Bool) (attemptedAt : Int) (encounter : Encounter) :
    Shop π × Except PyError Unit :=
  let written := if exactBefore then (shop.output, .ok ())
    else writePublicSafeAtomic shop.output expected encounter.writing
  let left := { shop with output := written.1 }
  match written.2 with
  | .error error => (left, .error error)
  | .ok () =>
    if exactRegularFile encounter.readAfter written.1 expected then
      let answered := acknowledge shop.rows publication attemptedAt encounter.marking
      ({ left with rows := answered.1 }, answered.2)
    else (left, .error ⟨.os, "published public-safe artifact bytes do not match intent"⟩)

/-- What a reconciliation of the public-safe file leaves, whose payload it set out to write, and
what it returned. -/
structure Reconciled (π : Type) where
  shop : Shop π
  wrote : Option (ArtifactPublication π) := none
  result : Except PyError (Option PublicationResult)

variable (formats : Formats π)

/-- `reconcile_public_safe_publication`. -/
def reconcilePublicSafe (shop : Shop π) (nowTs : Int) (encounter : Encounter) : Reconciled π :=
  match reconcilable shop.rows PUBLIC_SAFE_ARTIFACT_KEY with
  | none => { shop, result := .ok none }
  | some publication =>
    match utcText nowTs, formats.publicSafeBytes publication.payload with
    | .error error, _ => { shop, result := .error error }
    | .ok _, .error error => { shop, result := .error error }
    | .ok attemptedAt, .ok expected =>
      let exactBefore := exactRegularFile encounter.readBefore shop.output expected
      let answer (changed : Bool) : PublicationResult :=
        ⟨publication.publicationId, publication.cycleId, changed⟩
      if exactBefore ∧ publication.state = .published then
        { shop, result := .ok (some (answer false)) }
      else
        let tried := attempt shop publication expected exactBefore attemptedAt encounter
        let wrote := if exactBefore then none else some publication
        match tried.2 with
        | .ok () => { shop := tried.1, wrote, result := .ok (some (answer true)) }
        | .error error =>
          let recorded := recordFailure tried.1.rows publication.publicationId attemptedAt
            (formats.className error)
          { shop := if encounter.recorded then { tried.1 with rows := recorded } else tried.1
            wrote
            result := .error error }

end Reconcile

section Runs

/-- A staging whose transaction commits or not, a reconciliation, or damage to the file. -/
inductive Move (π : Type) where
  | stage (request : Staging π) (commits : Bool)
  | reconcile (nowTs : Int) (encounter : Encounter)
  | damage (output : Output)

variable (formats : Formats π)

/-- One move, with the outcome of a reconciliation. -/
def Shop.move (shop : Shop π) : Move π → Shop π × Option (Reconciled π)
  | .stage request commits =>
    match stage formats shop.rows request with
    | .ok (rows, _) => (if commits then { shop with rows } else shop, none)
    | .error _ => (shop, none)
  | .reconcile nowTs encounter =>
    let reconciled := reconcilePublicSafe formats shop nowTs encounter
    (reconciled.shop, some reconciled)
  | .damage output => ({ shop with output }, none)

/-- The most recently staged publication of a key. -/
def newestStaged (rows : List (ArtifactPublication π)) (artifactKey : String) :
    Option (ArtifactPublication π) :=
  (rows.filter fun row => row.artifactKey = artifactKey).getLast?

end Runs

end LiveStream.Monitoring

import LiveStream.Support.Keyed
import LiveStream.Support.Value

/-! The publication of a frozen snapshot to a bucket: one task for each object, each driven by
the durable receipt of its object, and the release last. -/

namespace LiveStream.Publishing

open LiveStream.Support

universe u v

-- `α` is the content of an object, `δ` the digests (`[a-f0-9]{64}`) of contents.
variable {α : Type u} {δ : Type v}

def RELEASE_FILE : String := "site-release.json"

/-! ### Failures -/

/-- What `failure` distinguishes of an error or of its reason. -/
inductive Reason where
  | gaierror | timeout | ssl | urlError | jsonDecode
  | publication (text : String)
  | otherOsError | other
  deriving DecidableEq

/-- `isinstance(reason, OSError)`. -/
def Reason.isOSError : Reason → Bool
  | .gaierror | .timeout | .ssl | .urlError | .otherOsError => true
  | _ => false

/-- An exception, with the attributes that `failure` reads. -/
structure Failure where
  status : Option Int
  reason : Reason
  httpRequestNotSent : Bool

/-- The texts of `PublicationError` that are passed on. -/
def ALLOWED_CODES : List String :=
  ["PUBLIC_SOURCE_STALE_OR_FUTURE", "PUBLIC_SOURCE_TIMESTAMP_INVALID", "SOURCE_CHANGED_DURING_READ",
    "SOURCE_SYMLINK", "SOURCE_NOT_BOUNDED_REGULAR_FILE", "PUBLIC_TREE_TOO_LARGE", "PUBLIC_BUILD_FAILED",
    "PUBLICATION_DEADLINE_EXCEEDED", "R2_UPLOAD_OUTCOME_UNCONFIRMED", "R2_UPLOAD_VERIFICATION_FAILED",
    "R2_UPLOAD_NOT_ACKNOWLEDGED", "R2_UPLOAD_KEY_MISMATCH", "R2_RESPONSE_TOO_LARGE",
    "R2_REDIRECT_REFUSED", "R2_REQUEST_NOT_SENT", "DUPLICATE_JSON_KEY", "NONFINITE_JSON_VALUE",
    "JSON_OBJECT_REQUIRED", "STATIC_RELEASE_INCOMPLETE"]

/-- The code of `failure`. -/
def Failure.code (failure : Failure) : String :=
  if failure.status.any fun status => 100 ≤ status ∧ status ≤ 599 then "R2_HTTP_ERROR"
  else match failure.reason with
    | .gaierror => "DNS_ERROR"
    | .timeout => "TIMEOUT"
    | .ssl => "TLS_ERROR"
    | .urlError => "TRANSPORT_ERROR"
    | .jsonDecode => "INVALID_JSON"
    | .publication text => if text ∈ ALLOWED_CODES then text else "PUBLICATION_ERROR"
    | .otherOsError | .other => "PUBLICATION_ERROR"

/-- DNS, or a failure that the transport proved to come before the request. -/
def Failure.notSent (failure : Failure) : Bool :=
  failure.code = "DNS_ERROR" || (failure.reason.isOSError && failure.httpRequestNotSent)

/-! ### Receipts -/

inductive ReceiptState where
  | verified | outcomeUnknown | notSent
  deriving DecidableEq

structure Receipt (δ : Type v) where
  state : ReceiptState
  sha256 : δ
  deriving DecidableEq

/-- The objects of a receipts file, or of `Receipts` in memory: a dict by name. -/
structure Objects (δ : Type v) where
  rows : List (String × Receipt δ)

/-- `Receipts.get`. -/
def Objects.get (objects : Objects δ) (name : String) : Option (Receipt δ) :=
  (lookup Prod.fst objects.rows name).map Prod.snd

def Objects.put (objects : Objects δ) (name : String) (receipt : Receipt δ) : Objects δ :=
  ⟨upsert Prod.fst objects.rows (name, receipt)⟩

/-- The receipts that a missing file starts with. -/
def Objects.seeded (allowed : List String) (seed : List (String × δ)) : Objects δ :=
  ⟨(seed.filter fun item => item.1 ∈ allowed).map fun item => (item.1, ⟨.verified, item.2⟩)⟩

/-- How `write` ends: it is durable, it raises and nothing changed, or it raises after the file was
replaced. -/
inductive Save where
  | kept | lost | replaced
  deriving DecidableEq

/-- A dict of names to contents. -/
structure Frozen (α : Type u) where
  items : List (String × α)
  unique : (items.map Prod.fst).Nodup

/-! ### Tasks -/

inductive Outcome where
  | uploaded | reconciled | unchanged
  deriving DecidableEq

/-- Where `publish_one` stands: what it does next. A read is tried three times. -/
inductive Stage (δ : Type v) where
  | begin
  | resolve (expected : δ) (tries : Nat)
  | resolved (expected : δ)
  | reconcile (tries : Nat)
  | claim
  | put
  | await
  | unsent
  | confirm (outcome : Outcome) (tries : Nat)
  | verify (outcome : Outcome)
  | done (outcome : Outcome)
  | failed
  deriving DecidableEq

def Stage.isDone : Stage δ → Bool
  | .done _ => true
  | _ => false

def Stage.isOver : Stage δ → Bool
  | .done _ | .failed => true
  | _ => false

/-- A call of `publish_one`. -/
structure Task (α : Type u) (δ : Type v) where
  raw : α
  stage : Stage δ

/-- A process: the `Receipts` it loaded, and the present call of `publish`. -/
structure Publisher (α : Type u) (δ : Type v) where
  allowed : List String
  objects : Objects δ
  frozen : Frozen α
  tasks : String → Option (Task α δ)

/-- What reaches the provider or comes back from it. -/
inductive Op (δ : Type v) where
  | seed (name : String) (digest : δ)
  | put (name : String) (digest : δ)
  | unsent (name : String)
  | read (name : String) (digest : Option δ)
  deriving DecidableEq

structure World (α : Type u) (δ : Type v) where
  file : Option (Objects δ)
  process : Option (Publisher α δ)
  history : List (Op δ)

def World.empty : World α δ := ⟨none, none, []⟩

/-- How a call of `client.put` ends. -/
inductive PutEnd where
  | acknowledged
  | failed (failure : Failure)
  | escaped

inductive Event (α : Type u) (δ : Type v) where
  /-- A process builds its `Receipts`. -/
  | load (allowed : List String) (seed : List (String × δ)) (save : Save)
  /-- It calls `publish`. -/
  | publish (frozen : Frozen α)
  /-- A worker takes up an object. -/
  | start (name : String)
  /-- A task does its next step, which may save the receipts. -/
  | proceed (name : String) (save : Save)
  /-- `client.get` returns. -/
  | got (name : String) (answer : Option α)
  /-- `client.get` raises; a transient error is tried again while there is time. -/
  | getFailed (name : String) (transient : Bool)
  | putEnded (name : String) (ending : PutEnd)
  /-- Something else is raised in a task. -/
  | raised (name : String)
  /-- The process ends, or is killed. -/
  | exit

section Digest

variable [DecidableEq α] [DecidableEq δ]

-- `hashlib.sha256(raw).hexdigest()`.
variable (digest : α → δ)

/-- What follows a receipt that is not unknown. -/
def Stage.after (row : Option (Receipt δ)) (own : δ) : Stage δ :=
  match row with
  | some ⟨.verified, known⟩ => if known = own then .done .unchanged else .claim
  | _ => .reconcile 0

/-- The first step of `publish_one`. -/
def Stage.first (row : Option (Receipt δ)) (own : δ) : Stage δ :=
  match row with
  | some ⟨.outcomeUnknown, expected⟩ => .resolve expected 0
  | other => .after other own

/-- What a task makes of the bytes it read, or of a missing object. -/
def Stage.read (raw : α) (answer : Option α) : Stage δ → Option (Stage δ)
  | .resolve expected _ =>
    some (if answer.map digest = some expected then .resolved expected else .failed)
  | .reconcile _ => some (if answer = some raw then .verify .reconciled else .claim)
  | .confirm outcome _ => some (if answer = some raw then .verify outcome else .failed)
  | _ => none

/-- A read that raised: the next try, or none. -/
def Stage.again (transient : Bool) : Stage δ → Option (Stage δ)
  | .resolve expected tries =>
    some (if transient ∧ tries < 2 then .resolve expected (tries + 1) else .failed)
  | .reconcile tries => some (if transient ∧ tries < 2 then .reconcile (tries + 1) else .failed)
  | .confirm outcome tries =>
    some (if transient ∧ tries < 2 then .confirm outcome (tries + 1) else .failed)
  | _ => none

namespace World

variable (world : World α δ) (publisher : Publisher α δ) (name : String) (task : Task α δ)

/-- A task goes on. -/
def goto (stage : Stage δ) : World α δ :=
  { world with process := some { publisher with
      tasks := Function.update publisher.tasks name (some { task with stage := stage }) } }

/-- `receipts.set`: an unknown name raises, and so does a failed write, after memory has changed. -/
def set (receipt : Receipt δ) (save : Save) (next : Stage δ) : World α δ :=
  if name ∈ publisher.allowed then
    let objects := publisher.objects.put name receipt
    { world with
      file := if save = .lost then world.file else some objects
      process := some { publisher with
        objects := objects
        tasks := Function.update publisher.tasks name
          (some { task with stage := if save = .kept then next else .failed }) } }
  else world.goto publisher name task .failed

def note (op : Op δ) : World α δ := { world with history := world.history ++ [op] }

/-- A step of a task that does not wait for the provider. -/
def proceed (save : Save) : World α δ :=
  let own := digest task.raw
  match task.stage with
  | .begin => world.goto publisher name task (.first (publisher.objects.get name) own)
  | .resolved expected =>
    world.set publisher name task ⟨.verified, expected⟩ save (.after (some ⟨.verified, expected⟩) own)
  | .claim => world.set publisher name task ⟨.outcomeUnknown, own⟩ save .put
  | .put => (world.note (.put name own)).goto publisher name task .await
  | .unsent => world.set publisher name task ⟨.notSent, own⟩ save .failed
  | .verify outcome => world.set publisher name task ⟨.verified, own⟩ save (.done outcome)
  | _ => world

/-- Whether the executor, or `publish` itself for the release, may take up an object. -/
def startable : Bool :=
  (publisher.tasks name).isNone && (name ≠ RELEASE_FILE ||
    publisher.frozen.items.all fun item => item.1 = RELEASE_FILE ||
      (publisher.tasks item.1).any fun task => task.stage.isDone)

/-- A step for the task of a name. -/
def onTask (move : Publisher α δ → Task α δ → World α δ) : World α δ :=
  match world.process with
  | none => world
  | some publisher =>
    match publisher.tasks name with
    | none => world
    | some task => move publisher task

/-- The publisher after `Receipts` is built from a file, or from a seed. -/
def loaded (allowed : List String) (objects : Objects δ) : Publisher α δ :=
  ⟨allowed, objects, ⟨[], List.nodup_nil⟩, fun _ => none⟩

/-- `Receipts.__init__`; the file must name allowed objects only. -/
def load (allowed : List String) (seed : List (String × δ)) (save : Save) : World α δ :=
  match world.file with
  | some objects =>
    if ∀ row ∈ objects.rows, row.1 ∈ allowed then
      { world with process := some (loaded allowed objects) }
    else world
  | none =>
    let objects := Objects.seeded allowed seed
    { file := if save = .lost then none else some objects
      process := if save = .kept then some (loaded allowed objects) else none
      history := world.history ++ objects.rows.map fun row => .seed row.1 row.2.sha256 }

def step : Event α δ → World α δ
  | .load allowed seed save => if world.process.isSome then world else world.load allowed seed save
  | .publish frozen =>
    match world.process with
    | none => world
    | some publisher =>
      if publisher.frozen.items.all fun item => (publisher.tasks item.1).all fun task => task.stage.isOver then
        { world with process := some { publisher with frozen := frozen, tasks := fun _ => none } }
      else world
  | .start name =>
    match world.process with
    | none => world
    | some publisher =>
      match lookup Prod.fst publisher.frozen.items name with
      | none => world
      | some item =>
        if startable publisher name then world.goto publisher name ⟨item.2, .begin⟩ .begin else world
  | .proceed name save => world.onTask name fun publisher task => world.proceed digest publisher name task save
  | .got name answer => world.onTask name fun publisher task =>
    match Stage.read digest task.raw answer task.stage with
    | some stage => (world.note (.read name (answer.map digest))).goto publisher name task stage
    | none => world
  | .getFailed name transient => world.onTask name fun publisher task =>
    match Stage.again transient task.stage with
    | some stage => world.goto publisher name task stage
    | none => world
  | .putEnded name ending => world.onTask name fun publisher task =>
    if task.stage = .await then
      match ending with
      | .acknowledged => world.goto publisher name task (.confirm .uploaded 0)
      | .failed failure =>
        if failure.notSent then (world.note (.unsent name)).goto publisher name task .unsent
        else world.goto publisher name task (.confirm .reconciled 0)
      | .escaped => world.goto publisher name task .failed
    else world
  | .raised name => world.onTask name fun publisher task =>
    if task.stage.isOver then world else world.goto publisher name task .failed
  | .exit => { world with process := none }

def run (events : List (Event α δ)) : World α δ := events.foldl (step digest) .empty

end World

end Digest

end LiveStream.Publishing

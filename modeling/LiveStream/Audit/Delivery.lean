import LiveStream.Audit.Central

/-! `CentralSync.push_audit` and the service it pushes to: the agent's log and watermark, the
push under way, the central store and every acknowledgement that was ever signed. -/

namespace LiveStream.Audit

variable {π : Type}

/-- What an agent appends to its audit log. -/
structure Entry (π : Type) where
  ts : String
  kind : String
  payload : π

/-- The body of `POST /v1/audit`. -/
structure Body (π : Type) where
  agentId : String
  instanceId : String
  records : List (Record π)
  nonce : Option String
  deriving DecidableEq

/-- An acknowledgement; the digest of a request stands for the request. -/
structure Ack (π : Type) where
  schema : String
  agentId : String
  instanceId : String
  nonce : String
  requestSha256 : Body π
  ackedSeq : Int
  deriving DecidableEq

/-- A response as the agent gets it; a signature of the central key is the acknowledgement that
it signs. -/
structure Response (π : Type) where
  ackedSeq : Option Int
  ack : Option (Ack π)
  signature : Option (Ack π)

def SCHEMA : String := "cra.audit_ack.v1"

/-- `sign_ack`. -/
def signAck (request : Body π) (high : Int) : Response π :=
  let ack : Ack π :=
    ⟨SCHEMA, request.agentId, request.instanceId, request.nonce.getD "", request, high⟩
  ⟨some high, some ack, some ack⟩

/-- `verify_ack`. -/
def verifyAck [DecidableEq π] (response : Response π) (request : Body π) (previous : Int) :
    Except String Int :=
  match response.ack with
  | none => .error "ACK_UNSIGNED"
  | some ack =>
    if response.signature ≠ some ack then .error "ACK_SIGNATURE_INVALID"
    else
      match request.nonce, request.records.getLast? with
      | some nonce, some last =>
        let expected : Ack π :=
          ⟨SCHEMA, request.agentId, request.instanceId, nonce, request, ack.ackedSeq⟩
        if ack ≠ expected then .error "ACK_REQUEST_MISMATCH"
        else if ¬(previous ≤ ack.ackedSeq ∧ ack.ackedSeq ≤ last.seq) ∨
            response.ackedSeq ≠ some ack.ackedSeq then .error "ACK_RANGE_INVALID"
        else .ok ack.ackedSeq
      | none, _ => .error "KeyError"
      | some _, none => .error "IndexError"

/-- The rows of the agent's table `audit`. -/
def numbered (log : List (Entry π)) : List (Record π) :=
  log.mapIdx fun index entry => ⟨index + 1, entry.ts, entry.kind, entry.payload⟩

/-- `read_audit`. -/
def readAudit (log : List (Entry π)) (afterSeq : Int) (limit : Nat) : List (Record π) :=
  ((numbered log).filter fun record => afterSeq < record.seq).take limit

/-- How far `push_audit` is. -/
inductive Push (π : Type) where
  | idle
  | waiting (acked : Int) (body : Body π)
  | verified (acked newAcked : Int)

/-- The identity of an agent's database and the size of its batches. -/
structure Config where
  agentId : String
  instanceId : String
  batch : Nat

/-- An agent and the central service. -/
structure System (π : Type) where
  log : List (Entry π)
  acked : Int
  push : Push π
  central : CentralStore π
  signed : List (Ack π)

/-- A new agent before a central store. -/
def System.start (central : CentralStore π) : System π := ⟨[], 0, .idle, central, []⟩

/-- What can happen next. The network delivers any body to the service, whoever sent it and
however often, and gives the agent any response. -/
inductive Event (π : Type) where
  | append (entry : Entry π)
  | push (nonce : String)
  | post (body : Body π)
  | ingest (agentId instanceId : String) (records : List (Record π))
  | reply (response : Response π)
  | fail
  | put
  | restart

namespace System

/-- The first half of `push_audit`, up to the request. -/
def startPush (config : Config) (system : System π) (nonce : String) : System π :=
  match system.push with
  | .idle =>
    let records := readAudit system.log system.acked config.batch
    if records.isEmpty then system
    else
      { system with
        push := .waiting system.acked ⟨config.agentId, config.instanceId, records, some nonce⟩ }
  | .waiting _ _ | .verified _ _ => system

variable [DecidableEq π]

/-- `CentralStore.ingest`, whose errors roll the transaction back. -/
def ingest (system : System π) (agentId instanceId : String) (records : List (Record π)) :
    System π :=
  match system.central.ingest agentId instanceId records with
  | none => system
  | some (central, _) => { system with central }

/-- `do_POST` with an authentic body: what was ingested is acknowledged. -/
def post (system : System π) (body : Body π) : System π :=
  match system.central.ingest body.agentId body.instanceId body.records with
  | none => system
  | some (central, high) =>
    { system with
      central
      signed := system.signed ++ (signAck body high).signature.toList }

/-- The response of a push; only the service makes signatures of its key. -/
def reply (system : System π) (response : Response π) : System π :=
  match system.push with
  | .waiting acked body =>
    if response.signature.all fun ack => ack ∈ system.signed then
      match verifyAck response body acked with
      | .ok newAcked => { system with push := .verified acked newAcked }
      | .error _ => { system with push := .idle }
    else system
  | .idle | .verified _ _ => system

/-- The end of `push_audit`. -/
def putAcked (system : System π) : System π :=
  match system.push with
  | .verified acked newAcked =>
    { system with
      push := .idle
      acked := if newAcked ≠ acked then newAcked else system.acked }
  | .idle | .waiting _ _ => system

def step (config : Config) (system : System π) : Event π → System π
  | .append entry => { system with log := system.log ++ [entry] }
  | .push nonce => system.startPush config nonce
  | .post body => system.post body
  | .ingest agentId instanceId records => system.ingest agentId instanceId records
  | .reply response => system.reply response
  | .fail | .restart => { system with push := .idle }
  | .put => system.putAcked

def run (config : Config) (system : System π) (events : List (Event π)) : System π :=
  events.foldl (step config) system

end System

end LiveStream.Audit

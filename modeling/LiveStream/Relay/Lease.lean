import LiveStream.Support.Mapping

/-! Signed leases of a relay: what a body has to say to be admitted, and how long it then
permits to publish. -/

namespace LiveStream.Relay

open LiveStream.Support

def FIELDS : List String :=
  ["schema", "relay_instance", "target", "encoder_instance", "sender_instance", "route_generation",
    "authority_epoch", "sequence", "input_sequence", "issued_at", "expires_at", "grant_expires_at",
    "route"]

/-- What is left of a body once its fields are known to have their types. -/
structure Body where
  relayInstance : String
  target : String
  encoderInstance : String
  senderInstance : String
  routeGeneration : Int
  authorityEpoch : String
  sequence : Int
  inputSequence : Int
  issuedAt : ℚ
  expiresAt : ℚ
  grantExpiresAt : ℚ

structure Lease where
  body : Body
  elapsedDeadline : ℚ

def Lease.valid (lease : Lease) (wall elapsed : ℚ) : Bool :=
  elapsed < lease.elapsedDeadline ∧ wall < lease.body.expiresAt ∧ wall < lease.body.grantExpiresAt ∧
    lease.body.issuedAt - 2 ≤ wall

/-- How a lease is refused: `LeaseRejected`, or another exception. -/
inductive Refusal where
  | rejected (reason : String)
  | malformed

/-- A text of 1 to 256 characters under a name. -/
def identity? (raw : Fields) (name : String) : Option String :=
  ((raw.get? name).bind Value.text?).filter fun text => 1 ≤ text.length ∧ text.length ≤ 256

/-- A positive `int` under a name; booleans do not count. -/
def positive? (raw : Fields) (name : String) : Option Int :=
  (raw.get? name).bind fun value =>
    match value with
    | .int number => if 0 < number then some number else none
    | _ => none

/-- A finite `int` or `float` under a name. -/
def time? (raw : Fields) (name : String) : Option ℚ :=
  (raw.get? name).bind fun value =>
    match value with
    | .int number => some number
    | .float (.finite number) => some number
    | _ => none

/-- `set(body) == FIELDS`. -/
def hasFields (raw : Fields) : Bool :=
  (FIELDS.all fun name => (raw.get? name).isSome) && raw.all fun field => field.1 ∈ FIELDS

/-- The fields that stay the same from one lease to the next. -/
def sameIdentity (continuous : Bool) (body old : Body) : Bool :=
  body.target = old.target ∧ body.encoderInstance = old.encoderInstance ∧
    body.senderInstance = old.senderInstance ∧ body.routeGeneration = old.routeGeneration ∧
    body.authorityEpoch = old.authorityEpoch ∧
    (continuous = true ∨ body.grantExpiresAt = old.grantExpiresAt)

/-- The checks of `admit` against the lease before. -/
def goesOn (continuous : Bool) (previous : Option Lease) (body : Body) : Except Refusal Unit :=
  match previous with
  | none => .ok ()
  | some old => do
    rejectIf (¬ sameIdentity continuous body old.body) (.rejected "LEASE_IDENTITY_CHANGED_WITHOUT_STOP")
    rejectIf (body.inputSequence ≤ old.body.inputSequence) (.rejected "LEASE_SOURCE_NOT_PROGRESSING")

-- `sign` under the key of the relay; no text where the body cannot be encoded.
variable (sign : Fields → Option String)

def admitLease (raw : Fields) (signature : Value) (relayInstance : String) (highwater : Int)
    (wall elapsed : ℚ) (previous : Option Lease) (continuous : Bool) : Except Refusal Lease := do
  rejectIf (¬ hasFields raw ∨ ¬ (raw.get? "schema").any (Value.isText "stream.relay_lease.v1"))
    (.rejected "LEASE_SCHEMA_INVALID")
  let text ← orReject (.rejected "LEASE_SIGNATURE_INVALID") signature.text?
  let own ← orReject .malformed (sign raw)
  rejectIf (¬ text.toList.all fun letter => letter.toNat < 128) .malformed
  rejectIf (own ≠ text) (.rejected "LEASE_SIGNATURE_INVALID")
  let relay ← orReject (.rejected "LEASE_IDENTITY_INVALID") (identity? raw "relay_instance")
  let target ← orReject (.rejected "LEASE_IDENTITY_INVALID") (identity? raw "target")
  let encoder ← orReject (.rejected "LEASE_IDENTITY_INVALID") (identity? raw "encoder_instance")
  let sender ← orReject (.rejected "LEASE_IDENTITY_INVALID") (identity? raw "sender_instance")
  let epoch ← orReject (.rejected "LEASE_IDENTITY_INVALID") (identity? raw "authority_epoch")
  rejectIf (relay ≠ relayInstance ∨ ¬ (raw.get? "route").any (Value.isText "PRIMARY"))
    (.rejected "LEASE_ROUTE_OR_INSTANCE_MISMATCH")
  let sequence ← orReject (.rejected "LEASE_SEQUENCE_INVALID") (positive? raw "sequence")
  let input ← orReject (.rejected "LEASE_SEQUENCE_INVALID") (positive? raw "input_sequence")
  let generation ← orReject (.rejected "LEASE_SEQUENCE_INVALID") (positive? raw "route_generation")
  rejectIf (sequence ≤ highwater) (.rejected "LEASE_REPLAY")
  let issued ← orReject (.rejected "LEASE_TIME_INVALID") (time? raw "issued_at")
  let expires ← orReject (.rejected "LEASE_TIME_INVALID") (time? raw "expires_at")
  let grant ← orReject (.rejected "LEASE_TIME_INVALID") (time? raw "grant_expires_at")
  rejectIf (¬ (0 < expires - issued ∧ expires - issued ≤ 15) ∨ ¬ (issued - 2 ≤ wall ∧ wall < expires) ∨
    grant < expires) (.rejected "LEASE_EXPIRED_OR_CLOCK_UNBOUND")
  rejectIf (¬ (0 < grant - issued ∧ grant - issued ≤ 86400)) (.rejected "LEASE_GRANT_TOO_LONG")
  rejectIf (continuous = true ∧ grant ≠ expires) (.rejected "CONTINUOUS_GRANT_NOT_LEASE_BOUND")
  let body : Body := ⟨relay, target, encoder, sender, generation, epoch, sequence, input, issued, expires, grant⟩
  goesOn continuous previous body
  return ⟨body, elapsed + min 15 (expires - wall)⟩

/-- A lease may come after another one in the same relay. -/
structure Follows (old lease : Lease) : Prop where
  target : lease.body.target = old.body.target
  encoder : lease.body.encoderInstance = old.body.encoderInstance
  sender : lease.body.senderInstance = old.body.senderInstance
  generation : lease.body.routeGeneration = old.body.routeGeneration
  epoch : lease.body.authorityEpoch = old.body.authorityEpoch
  sequence : old.body.sequence < lease.body.sequence
  input : old.body.inputSequence < lease.body.inputSequence

theorem Follows.trans {first second third : Lease} (left : Follows first second)
    (right : Follows second third) : Follows first third :=
  ⟨right.target.trans left.target, right.encoder.trans left.encoder, right.sender.trans left.sender,
    right.generation.trans left.generation, right.epoch.trans left.epoch,
    left.sequence.trans right.sequence, left.input.trans right.input⟩

/-- What is known of a lease that was admitted. -/
structure Admitted (raw : Fields) (signature : Value) (relayInstance : String) (wall elapsed : ℚ)
    (continuous : Bool) (lease : Lease) : Prop where
  signed : ∃ text, signature.text? = some text ∧ sign raw = some text
  relay : lease.body.relayInstance = relayInstance
  target : (raw.get? "target").bind Value.text? = some lease.body.target
  epoch : (raw.get? "authority_epoch").bind Value.text? = some lease.body.authorityEpoch
  grant : time? raw "grant_expires_at" = some lease.body.grantExpiresAt
  positive : 0 < lease.body.sequence
  short : lease.body.expiresAt ≤ lease.body.issuedAt + 15
  within : lease.body.expiresAt ≤ lease.body.grantExpiresAt
  bounded : lease.body.grantExpiresAt ≤ lease.body.issuedAt + 86400
  bound : continuous = true → lease.body.grantExpiresAt = lease.body.expiresAt
  live : lease.valid wall elapsed = true
  deadline : lease.elapsedDeadline ≤ elapsed + 15
  expiry : lease.elapsedDeadline ≤ elapsed + (lease.body.expiresAt - wall)

variable {sign} {raw : Fields} {signature : Value} {relayInstance : String} {highwater : Int}
  {wall elapsed : ℚ} {previous : Option Lease} {continuous : Bool} {lease old : Lease}

theorem identity_text {name text : String} (found : identity? raw name = some text) :
    (raw.get? name).bind Value.text? = some text :=
  (Option.filter_eq_some_iff.mp found).1

theorem positive_pos {name : String} {number : Int} (found : positive? raw name = some number) :
    0 < number := by
  obtain ⟨value, _, same⟩ := Option.bind_eq_some_iff.mp found
  cases value <;> simp only [reduceCtorEq] at same
  split at same
  · rename_i positive
    rwa [← Option.some.inj same]
  · cases same

theorem goesOn_ok {body : Body} {result : Unit} (accepted : goesOn continuous previous body = .ok result) :
    ∀ old ∈ previous, sameIdentity continuous body old.body = true ∧
      old.body.inputSequence < body.inputSequence := by
  rintro old rfl
  unfold goesOn at accepted
  simp only [bind_eq_ok, rejectIf_eq_ok, not_not, not_le] at accepted
  obtain ⟨_, same, progressing⟩ := accepted
  exact ⟨same, progressing⟩

theorem sameIdentity_follows (same : sameIdentity continuous lease.body old.body = true)
    (sequence : old.body.sequence < lease.body.sequence)
    (input : old.body.inputSequence < lease.body.inputSequence) : Follows old lease := by
  obtain ⟨target, encoder, sender, generation, epoch, _⟩ := of_decide_eq_true same
  exact ⟨target, encoder, sender, generation, epoch, sequence, input⟩

/-- An admitted lease is signed for this relay, is above the highwater, goes on with the lease before
it, and permits no more than its own short time. -/
theorem admit_ok
    (accepted : admitLease sign raw signature relayInstance highwater wall elapsed previous continuous = .ok lease) :
    Admitted sign raw signature relayInstance wall elapsed continuous lease ∧
      highwater < lease.body.sequence ∧
      ∀ old ∈ previous, old.body.sequence ≤ highwater → Follows old lease := by
  unfold admitLease at accepted
  simp only [bind_eq_ok, rejectIf_eq_ok, orReject_eq_ok, not_or, not_not, not_le, not_lt] at accepted
  obtain ⟨_, _, text, texted, own, signed, _, _, _, same, relay, named, target, targeted, encoder, encoded,
    sender, sent, epoch, epoched, _, ⟨here, _⟩, sequence, numbered, input, inputted, generation, generated,
    _, fresh, issued, issuedAt, expires, expiresAt, grant, grantAt, _, ⟨⟨ahead, short⟩, ⟨early, late⟩, within⟩,
    _, ⟨_, bounded⟩, _, bound, _, goes, made⟩ := accepted
  obtain rfl := Except.ok.inj made
  have cut : min 15 (expires - wall) ≤ 15 := min_le_left _ _
  have cut' : min 15 (expires - wall) ≤ expires - wall := min_le_right _ _
  have positive : 0 < min 15 (expires - wall) := lt_min (by norm_num) (by linarith)
  refine ⟨?_, fresh, fun old member below => ?_⟩
  · exact
      { signed := ⟨text, texted, same ▸ signed⟩
        relay := here
        target := identity_text targeted
        epoch := identity_text epoched
        grant := grantAt
        positive := positive_pos numbered
        short := by dsimp only; linarith
        within := within
        bounded := by dsimp only; linarith
        bound := fun mode => not_not.mp fun apart => bound ⟨mode, apart⟩
        live := by
          simp only [Lease.valid, decide_eq_true_eq]
          refine ⟨by linarith, late, by linarith, early⟩
        deadline := by dsimp only; linarith
        expiry := by dsimp only; linarith }
  · obtain ⟨identity, progressing⟩ := goesOn_ok goes old member
    exact sameIdentity_follows identity (below.trans_lt fresh) progressing

end LiveStream.Relay

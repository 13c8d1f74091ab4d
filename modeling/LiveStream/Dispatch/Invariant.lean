import LiveStream.Dispatch.Dispatcher

/-! What each transaction of the outbox does to the attempts and the fencing token, and what a run
of `dispatch_once` may rely on between two of them. -/

namespace LiveStream.Dispatch

open LiveStream.Support

variable {outbox after : Outbox} {decided : Attempt → Prop} {name owner : String} {nowTs ttlSec : Int}
  {token : Nat}

/-! ### Attempts that are taken out of flight -/

/-- The columns of an attempt that never change. -/
structure Attempt.Same (row later : Attempt) : Prop where
  key : later.key = row.key
  owner : later.owner = row.owner
  fenceToken : later.fenceToken = row.fenceToken

/-- What a transaction may do to an attempt: nothing, or it takes it out of flight, to `uncertain`
unless it may decide it. -/
def Attempt.Settles (decided : Attempt → Prop) (row later : Attempt) : Prop :=
  later = row ∨ (row.state = .inFlight ∧ row.Same later ∧
    (later.state = .uncertain ∨ (later.state ≠ .inFlight ∧ decided row)))

theorem Attempt.Settles.same {row later : Attempt} (settles : row.Settles decided later) :
    row.Same later := by
  rcases settles with rfl | ⟨_, same, _⟩
  · exact ⟨rfl, rfl, rfl⟩
  · exact same

/-- What every transaction does that begins no attempt. -/
structure Settled (decided : Attempt → Prop) (outbox after : Outbox) : Prop where
  fences : outbox.fenceToken LEASE_NAME ≤ after.fenceToken LEASE_NAME
  intents : (outbox.intents.map NotificationIntent.intentId).Nodup →
    (after.intents.map NotificationIntent.intentId).Nodup
  attempts : ∃ settle : Attempt → Attempt, after.attempts = outbox.attempts.map settle ∧
    ∀ row ∈ outbox.attempts, row.Settles decided (settle row)

theorem Settled.of_same (fences : outbox.fenceToken LEASE_NAME ≤ after.fenceToken LEASE_NAME)
    (intents : after.intents = outbox.intents) (attempts : after.attempts = outbox.attempts) :
    Settled decided outbox after :=
  ⟨fences, fun unique => intents ▸ unique, id, by rw [attempts, List.map_id], fun _ _ => Or.inl rfl⟩

theorem Settled.refl (outbox : Outbox) : Settled decided outbox outbox := .of_same le_rfl rfl rfl

/-- An update of attempts in flight. -/
theorem Settled.update {matched : Attempt → Bool} {rewrite : Attempt → Attempt}
    (settles : ∀ row ∈ outbox.attempts, matched row = true → row.Settles decided (rewrite row)) :
    Settled decided outbox { outbox with attempts := updateWhere matched rewrite outbox.attempts } := by
  refine ⟨le_rfl, id, fun row => if matched row then rewrite row else row, rfl, fun row member => ?_⟩
  by_cases hit : matched row = true
  · simp only [hit, if_true]
    exact settles row member hit
  · simp only [hit]
    exact Or.inl rfl

/-! ### Leases -/

/-- The token that is given is the next one. -/
theorem acquireFencedLease_token
    (granted : (outbox.acquireFencedLease name owner nowTs ttlSec).2 = some token) :
    token = outbox.fenceToken name + 1 ∧
      (outbox.acquireFencedLease name owner nowTs ttlSec).1.fenceToken name = token := by
  unfold Outbox.acquireFencedLease at granted ⊢
  split at granted
  · rename_i free
    have found : lookup FenceRow.leaseName
        (upsert FenceRow.leaseName outbox.fences ⟨name, outbox.fenceToken name + 1⟩) name =
          some ⟨name, outbox.fenceToken name + 1⟩ :=
      lookup_upsert_self (⟨name, outbox.fenceToken name + 1⟩ : FenceRow)
    rw [← Option.some.inj granted, if_pos free]
    refine ⟨rfl, ?_⟩
    simp only [Outbox.fenceToken] at found ⊢
    rw [found]
    rfl
  · cases granted

theorem acquireFencedLease_settled (outbox : Outbox) (name owner : String) (nowTs ttlSec : Int) :
    Settled decided outbox (outbox.acquireFencedLease name owner nowTs ttlSec).1 := by
  cases granted : (outbox.acquireFencedLease name owner nowTs ttlSec).2 with
  | none =>
    unfold Outbox.acquireFencedLease at granted ⊢
    split at granted
    · cases granted
    · rename_i taken
      rw [if_neg taken]
      exact .refl outbox
  | some token =>
    obtain ⟨next, now⟩ := acquireFencedLease_token granted
    refine .of_same ?_ ?_ ?_
    · by_cases own : LEASE_NAME = name
      · rw [own, now, next]
        exact Nat.le_succ _
      · apply le_of_eq
        unfold Outbox.acquireFencedLease
        split
        · have kept : lookup FenceRow.leaseName
              (upsert FenceRow.leaseName outbox.fences ⟨name, outbox.fenceToken name + 1⟩) LEASE_NAME =
                lookup FenceRow.leaseName outbox.fences LEASE_NAME := lookup_upsert_of_ne own
          simp only [Outbox.fenceToken] at kept ⊢
          rw [kept]
        · rfl
    · unfold Outbox.acquireFencedLease
      split <;> rfl
    · unfold Outbox.acquireFencedLease
      split <;> rfl

theorem renewFencedLease_settled (outbox : Outbox) (name owner : String) (token : Nat)
    (nowTs ttlSec : Int) :
    Settled decided outbox (outbox.renewFencedLease name owner token nowTs ttlSec).1 := by
  unfold Outbox.renewFencedLease
  dsimp only
  split
  · exact .refl outbox
  · exact .of_same le_rfl rfl rfl

theorem releaseLease_settled (outbox : Outbox) (name owner : String) (token : Option Nat) :
    Settled decided outbox (outbox.releaseLease name owner token) := by
  unfold Outbox.releaseLease
  split
  · exact .refl outbox
  · exact .of_same le_rfl rfl rfl

/-- Whoever holds the lease under a current fence has the last token that was given out. -/
theorem fenceToken_of_current (current : outbox.fenceCurrent name owner token nowTs = true) :
    token = outbox.fenceToken name := by
  unfold Outbox.fenceCurrent at current
  obtain ⟨lease, _, current⟩ := (Option.any_eq_true _ _).mp current
  obtain ⟨fence, found, current⟩ := (Option.any_eq_true _ _).mp current
  simp only [decide_eq_true_eq] at current
  simp only [Outbox.fenceToken, found, Option.map_some, Option.getD_some]
  exact current.2.1.symm

/-! ### Epochs and intents -/

theorem activateDeliveryEpoch_settled {cutoverTs activatedTs : Int}
    {policyRevision writerIdentity note : String}
    (done : outbox.activateDeliveryEpoch cutoverTs activatedTs policyRevision writerIdentity note = .ok after) :
    Settled decided outbox after := by
  simp only [Outbox.activateDeliveryEpoch, bind_eq_ok, pure_eq_ok] at done
  obtain ⟨_, _, _, _, _, _, rfl⟩ := done
  exact .of_same le_rfl rfl rfl

theorem closeDeliveryEpoch_settled {epochId : EpochId} {closedTs : Int}
    (done : outbox.closeDeliveryEpoch epochId closedTs = .ok after) : Settled decided outbox after := by
  simp only [Outbox.closeDeliveryEpoch, bind_eq_ok, pure_eq_ok] at done
  obtain ⟨_, _, rfl⟩ := done
  exact .of_same le_rfl rfl rfl

theorem appendIntent_settled {item : NotificationIntent} {epochId : Option EpochId}
    (done : outbox.appendIntent item epochId = .ok after) : Settled decided outbox after := by
  simp only [Outbox.appendIntent, bind_eq_ok, pure_eq_ok] at done
  obtain ⟨_, _, _, _, rfl⟩ := done
  refine ⟨le_rfl, fun unique => ?_, id, (List.map_id _).symm, fun _ _ => Or.inl rfl⟩
  dsimp only
  split
  · exact unique
  · rename_i absent
    apply nodup_map_append unique
    intro row member same
    apply absent
    exact List.any_eq_true.mpr ⟨row, member, decide_eq_true same⟩

/-! ### Attempts -/

theorem quarantine_settled (outbox : Outbox) (nowTs : Int) (attemptTimeoutSec : Nat) :
    Settled decided outbox (outbox.quarantineStaleDeliveryAttempts nowTs attemptTimeoutSec) := by
  apply Settled.update
  intro row _ matched
  simp only [decide_eq_true_eq] at matched
  exact Or.inr ⟨matched.1, ⟨rfl, rfl, rfl⟩, Or.inl rfl⟩

/-- The result of an attempt is written only under a current fence; otherwise it is uncertain. -/
theorem finishDeliveryAttempt_settled (outbox : Outbox) (attempt : Attempt) (detail : String)
    (retryAfterSec nowTs : Int) (outcome : AttemptState) :
    Settled (fun row => row.key = attempt.key ∧ row.fenceToken = attempt.fenceToken ∧
        outbox.fenceCurrent attempt.leaseName attempt.owner attempt.fenceToken nowTs = true)
      outbox (outbox.finishDeliveryAttempt attempt detail retryAfterSec nowTs outcome).1 := by
  unfold Outbox.finishDeliveryAttempt
  split
  · exact .refl outbox
  · rename_i decided
    split
    · rename_i current
      dsimp only
      split
      · apply Settled.update
        intro row _ matched
        simp only [decide_eq_true_eq] at matched
        exact Or.inr ⟨matched.2.1, ⟨rfl, rfl, rfl⟩,
          Or.inr ⟨decided, matched.1, matched.2.2.2, current⟩⟩
      · exact .refl outbox
    · apply Settled.update
      intro row _ matched
      simp only [decide_eq_true_eq] at matched
      exact Or.inr ⟨matched.2, ⟨rfl, rfl, rfl⟩, Or.inl rfl⟩

/-- What an attempt that begins finds, and the row that it adds. -/
structure Begun (outbox after : Outbox) (intentId owner : String) (token : Nat) (nowTs : Int)
    (attempt : Attempt) : Prop where
  added : after = { outbox with attempts := outbox.attempts ++ [attempt] }
  intent : attempt.intentId = intentId
  number : attempt.attemptNo = outbox.lastAttemptNo intentId + 1
  owner : attempt.owner = owner
  lease : attempt.leaseName = LEASE_NAME
  given : attempt.fenceToken = token
  state : attempt.state = .inFlight
  fence : token = outbox.fenceToken LEASE_NAME
  eligible : ∃ item ∈ outbox.intents, item.intentId = intentId ∧ outbox.Eligible item
  unblocked : ∀ other ∈ outbox.attemptsOf intentId, other.state = .retryableFailed

theorem blocks_eq_false {state : AttemptState} : state.blocks = false ↔ state = .retryableFailed := by
  cases state <;> simp [AttemptState.blocks]

theorem beginDeliveryAttempt_begun {intentId : String} {attempt : Attempt}
    (done : outbox.beginDeliveryAttempt intentId owner LEASE_NAME token nowTs = .ok (after, attempt)) :
    Begun outbox after intentId owner token nowTs attempt := by
  unfold Outbox.beginDeliveryAttempt at done
  simp only [bind_eq_ok, rejectIf_eq_ok] at done
  obtain ⟨_, current, _, eligible, done⟩ := done
  split at done
  · cases done
  · rename_i free
    simp only [pure_eq_ok, Prod.mk.injEq] at done
    obtain ⟨rfl, rfl⟩ := done
    refine ⟨rfl, rfl, rfl, rfl, rfl, rfl, rfl, fenceToken_of_current ((Bool.not_eq_false _).mp current), ?_, ?_⟩
    · by_contra none
      apply eligible
      intro item member named eligible
      exact none ⟨item, member, named, eligible⟩
    · intro other member
      have unblocked := List.find?_eq_none.mp free other member
      exact blocks_eq_false.mp ((Bool.not_eq_true _).mp unblocked)

/-! ### The outbox between two transactions -/

/-- The attempts of an intent are numbered, and all but the last one may be retried. -/
structure Outbox.Sound (outbox : Outbox) : Prop where
  keys : (outbox.attempts.map Attempt.key).Nodup
  settled : ∀ row ∈ outbox.attempts, ∀ later ∈ outbox.attempts, row.intentId = later.intentId →
    row.attemptNo < later.attemptNo → row.state = .retryableFailed
  intents : (outbox.intents.map NotificationIntent.intentId).Nodup

theorem mem_attemptsOf {intentId : String} {row : Attempt} :
    row ∈ outbox.attemptsOf intentId ↔ row ∈ outbox.attempts ∧ row.intentId = intentId := by
  simp [Outbox.attemptsOf]

theorem le_lastAttemptNo {row : Attempt} (member : row ∈ outbox.attempts) :
    row.attemptNo ≤ outbox.lastAttemptNo row.intentId := by
  have listed : row.attemptNo ∈ (outbox.attemptsOf row.intentId).map Attempt.attemptNo :=
    List.mem_map_of_mem (mem_attemptsOf.mpr ⟨member, rfl⟩)
  unfold Outbox.lastAttemptNo
  cases most : ((outbox.attemptsOf row.intentId).map Attempt.attemptNo).max? with
  | none =>
    rw [List.max?_eq_none_iff.mp most] at listed
    cases listed
  | some number => exact (List.max?_eq_some_iff.mp most).2 _ listed

theorem Attempt.Same.intentId {row later : Attempt} (same : row.Same later) :
    later.intentId = row.intentId :=
  congrArg Prod.fst same.key

theorem Settled.sound (sound : outbox.Sound) (settled : Settled decided outbox after) : after.Sound := by
  obtain ⟨_, intents, settle, attempts, settles⟩ := settled
  refine ⟨?_, ?_, intents sound.intents⟩
  · rw [attempts, List.map_map]
    have same : ∀ row ∈ outbox.attempts, (Attempt.key ∘ settle) row = row.key :=
      fun row member => (settles row member).same.key
    rw [List.map_congr_left same]
    exact sound.keys
  · rw [attempts]
    intro row member later member' named earlier
    obtain ⟨before, listed, rfl⟩ := List.mem_map.mp member
    obtain ⟨before', listed', rfl⟩ := List.mem_map.mp member'
    have same := (settles before listed).same.key
    have same' := (settles before' listed').same.key
    obtain ⟨ident, number⟩ := Prod.mk.inj same
    obtain ⟨ident', number'⟩ := Prod.mk.inj same'
    have retryable := sound.settled before listed before' listed'
      (ident.symm.trans (named.trans ident')) (by omega)
    rcases settles before listed with unchanged | ⟨flying, _, _⟩
    · rw [unchanged, retryable]
    · rw [retryable] at flying
      cases flying

theorem Settled.attemptsOf_length (settled : Settled decided outbox after) (intentId : String) :
    (after.attemptsOf intentId).length = (outbox.attemptsOf intentId).length := by
  obtain ⟨_, _, settle, attempts, settles⟩ := settled
  unfold Outbox.attemptsOf
  rw [attempts, List.filter_map, List.length_map]
  congr 1
  apply List.filter_congr
  intro row member
  simp only [Function.comp_apply, (settles row member).same.intentId]

theorem Begun.sound {intentId : String} {attempt : Attempt} (sound : outbox.Sound)
    (begun : Begun outbox after intentId owner token nowTs attempt) : after.Sound := by
  rw [begun.added]
  have number : attempt.attemptNo = outbox.lastAttemptNo attempt.intentId + 1 := by
    rw [begun.intent, begun.number]
  refine ⟨?_, ?_, sound.intents⟩
  · apply nodup_map_append sound.keys
    intro row member same
    obtain ⟨ident, sameNo⟩ := Prod.mk.inj same
    have bound := le_lastAttemptNo member
    rw [ident] at bound
    omega
  · intro row member later member' named earlier
    rcases List.mem_append.mp member with former | own
    · rcases List.mem_append.mp member' with former' | own'
      · exact sound.settled row former later former' named earlier
      · rw [List.mem_singleton.mp own'] at named
        exact begun.unblocked row (mem_attemptsOf.mpr ⟨former, named.trans begun.intent⟩)
    · exfalso
      rw [List.mem_singleton.mp own] at named earlier
      rcases List.mem_append.mp member' with former' | own'
      · have bound := le_lastAttemptNo former'
        rw [← named] at bound
        omega
      · rw [List.mem_singleton.mp own'] at earlier
        omega

theorem Begun.attemptsOf_length {intentId : String} {attempt : Attempt}
    (begun : Begun outbox after intentId owner token nowTs attempt) (other : String) :
    (after.attemptsOf other).length =
      (outbox.attemptsOf other).length + if other = intentId then 1 else 0 := by
  rw [begun.added]
  simp only [Outbox.attemptsOf, List.filter_append, List.length_append, List.filter_singleton,
    begun.intent]
  by_cases same : other = intentId
  · subst same
    simp
  · simp [same, Ne.symm same]

/-! ### What a run relies on -/

/-- The intents that are left are different ones; while the run has the last token, none of them
has used up its attempts. -/
def DispatchRun.Loops (dispatch : DispatchRun) (outbox : Outbox) (rest : List NotificationIntent) : Prop :=
  (rest.map NotificationIntent.intentId).Nodup ∧
    (dispatch.fenceToken = outbox.fenceToken LEASE_NAME → ∀ item ∈ rest,
      (outbox.attemptsOf item.intentId).length < dispatch.dispatcher.maxAttempts)

/-- The attempt is the run's own, and nobody has decided it. -/
def DispatchRun.Owns (dispatch : DispatchRun) (outbox : Outbox) (attempt : Attempt) : Prop :=
  (attempt.owner = dispatch.dispatcher.leaseOwner ∧ attempt.leaseName = LEASE_NAME ∧
    attempt.fenceToken = dispatch.fenceToken) ∧
  ∃ row ∈ outbox.attempts, row.key = attempt.key ∧ row.owner = dispatch.dispatcher.leaseOwner ∧
    row.fenceToken = dispatch.fenceToken ∧ (row.state = .inFlight ∨ row.state = .uncertain)

/-- What a run relies on at each stage. -/
def DispatchRun.Holds (dispatch : DispatchRun) (outbox : Outbox) (sent : List (String × Nat)) : Prop :=
  match dispatch.stage with
  | .quarantine | .due | .release _ => True
  | .loop rest => dispatch.Loops outbox rest
  | .begin _ intent rest => dispatch.Loops outbox (intent :: rest)
  | .send attempt _ rest =>
    dispatch.Loops outbox rest ∧ dispatch.Owns outbox attempt ∧ attempt.key ∉ sent
  | .await attempt rest => dispatch.Loops outbox rest ∧ dispatch.Owns outbox attempt
  | .finish attempt _ rest => dispatch.Loops outbox rest ∧ dispatch.Owns outbox attempt

variable {dispatch : DispatchRun} {rest : List NotificationIntent} {attempt : Attempt}
  {sent later : List (String × Nat)}

theorem DispatchRun.Loops.settled (bound : dispatch.fenceToken ≤ outbox.fenceToken LEASE_NAME)
    (settled : Settled decided outbox after) (loops : dispatch.Loops outbox rest) :
    dispatch.Loops after rest := by
  refine ⟨loops.1, fun last item member => ?_⟩
  rw [settled.attemptsOf_length]
  have fences := settled.fences
  exact loops.2 (by omega) item member

theorem DispatchRun.Loops.tail {intent : NotificationIntent}
    (loops : dispatch.Loops outbox (intent :: rest)) : dispatch.Loops outbox rest := by
  refine ⟨(List.nodup_cons.mp loops.1).2, fun last item member => ?_⟩
  exact loops.2 last item (List.mem_cons_of_mem _ member)

theorem DispatchRun.Owns.settled (owns : dispatch.Owns outbox attempt)
    (others : ∀ row, decided row → row.fenceToken ≠ dispatch.fenceToken)
    (settled : Settled decided outbox after) : dispatch.Owns after attempt := by
  obtain ⟨own, row, member, named, owner, token, state⟩ := owns
  obtain ⟨_, _, settle, attempts, settles⟩ := settled
  have same := (settles row member).same
  refine ⟨own, settle row, attempts ▸ List.mem_map_of_mem member, same.key.trans named,
    same.owner.trans owner, same.fenceToken.trans token, ?_⟩
  rcases settles row member with unchanged | ⟨_, _, uncertain | ⟨_, decided⟩⟩
  · rwa [unchanged]
  · exact Or.inr uncertain
  · exact absurd token (others row decided)

/-- What a run relies on survives the transactions of the others. -/
theorem DispatchRun.Holds.settled (holds : dispatch.Holds outbox sent)
    (bound : dispatch.fenceToken ≤ outbox.fenceToken LEASE_NAME)
    (others : ∀ row, decided row → row.fenceToken ≠ dispatch.fenceToken)
    (fresh : ∀ attempt, dispatch.Owns outbox attempt → attempt.key ∈ later → attempt.key ∈ sent)
    (settled : Settled decided outbox after) : dispatch.Holds after later := by
  unfold DispatchRun.Holds at holds ⊢
  split at holds
  · trivial
  · trivial
  · trivial
  · exact holds.settled bound settled
  · exact holds.settled bound settled
  · obtain ⟨loops, owns, unsent⟩ := holds
    exact ⟨loops.settled bound settled, owns.settled others settled,
      fun called => unsent (fresh _ owns called)⟩
  · exact ⟨holds.1.settled bound settled, holds.2.settled others settled⟩
  · exact ⟨holds.1.settled bound settled, holds.2.settled others settled⟩

/-- An attempt that another run begins makes this one stale. -/
theorem DispatchRun.Holds.begun {intentId : String} (holds : dispatch.Holds outbox sent)
    (stale : dispatch.fenceToken ≠ token)
    (begun : Begun outbox after intentId owner token nowTs attempt) : dispatch.Holds after sent := by
  have fences : after.fenceToken LEASE_NAME = token := by
    rw [begun.fence, begun.added]
    rfl
  have loops {rest : List NotificationIntent} (loops : dispatch.Loops outbox rest) :
      dispatch.Loops after rest :=
    ⟨loops.1, fun last => absurd (last.trans fences) stale⟩
  have owns {attempt : Attempt} (owns : dispatch.Owns outbox attempt) : dispatch.Owns after attempt := by
    obtain ⟨own, row, member, facts⟩ := owns
    refine ⟨own, row, ?_, facts⟩
    rw [begun.added]
    exact List.mem_append_left _ member
  unfold DispatchRun.Holds at holds ⊢
  split at holds
  · trivial
  · trivial
  · trivial
  · exact loops holds
  · exact loops holds
  · exact ⟨loops holds.1, owns holds.2.1, holds.2.2⟩
  · exact ⟨loops holds.1, owns holds.2⟩
  · exact ⟨loops holds.1, owns holds.2⟩

end LiveStream.Dispatch

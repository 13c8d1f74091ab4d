import LiveStream.Dispatch.Invariant

/-! Runs of any number of dispatchers over one outbox: no intent is sent again once its fate is
decided or unknown. -/

namespace LiveStream.Dispatch

open LiveStream.Support

variable {outbox after : Outbox} {dispatch : DispatchRun} {sent : List (String × Nat)} {elapsed : Nat}

/-! ### One operation of a run -/

/-- What decides an attempt: its own run, while that holds the lease under the last token. -/
def DispatchRun.Decides (dispatch : DispatchRun) (outbox : Outbox) (row : Attempt) : Prop :=
  row.owner = dispatch.dispatcher.leaseOwner ∧ row.fenceToken = dispatch.fenceToken ∧
    ∃ nowTs, outbox.fenceCurrent LEASE_NAME row.owner row.fenceToken nowTs = true

/-- What an operation does to the outbox: it begins an attempt of an intent that has one left, or
begins none. -/
inductive Operated (dispatch : DispatchRun) (outbox after : Outbox) : Prop where
  | settled (settled : Settled (dispatch.Decides outbox) outbox after)
  | begun (intentId : String) (nowTs : Int) (attempt : Attempt)
      (begun : Begun outbox after intentId dispatch.dispatcher.leaseOwner dispatch.fenceToken nowTs attempt)
      (left : (outbox.attemptsOf intentId).length < dispatch.dispatcher.maxAttempts)

/-- How a run goes on: with its own token, and with what its next stage relies on. -/
structure Goes (dispatch : DispatchRun) (after : Outbox) (sent : List (String × Nat))
    (next : DispatchRun) : Prop where
  dispatcher : next.dispatcher = dispatch.dispatcher
  fenceToken : next.fenceToken = dispatch.fenceToken
  holds : next.Holds after sent

/-- What comes of an operation. -/
structure Outcome (dispatch : DispatchRun) (outbox : Outbox) (sent : List (String × Nat))
    (result : Outbox × Option DispatchRun × Option Attempt) : Prop where
  changed : Operated dispatch outbox result.1
  next : ∀ next ∈ result.2.1, Goes dispatch result.1 (sent ++ result.2.2.toList.map Attempt.key) next
  called : ∀ attempt ∈ result.2.2, dispatch.Owns outbox attempt ∧ attempt.key ∉ sent

theorem dueIntents_loops (dispatch : DispatchRun) (sound : outbox.Sound) :
    dispatch.Loops outbox
      (outbox.dueIntents dispatch.nowTs dispatch.dispatcher.maxAttempts dispatch.limit) := by
  unfold Outbox.dueIntents
  constructor
  · refine List.Nodup.sublist ((List.take_sublist _ _).map _) ?_
    rw [((sortBy_perm _ _).map _).nodup_iff]
    exact List.Nodup.sublist (List.filter_sublist.map _) sound.intents
  · intro _ item member
    have listed := (sortBy_perm _ _).mem_iff.mp (List.mem_of_mem_take member)
    have undelivered := (of_decide_eq_true (List.mem_filter.mp listed).2).1
    have least := dispatch.dispatcher.attempts
    have count := undelivered.2.1
    rwa [max_eq_right least] at count

/-- The attempt that begins is the run's own, and the other intents keep what they have left. -/
theorem begun_goes {intent : NotificationIntent} {rest : List NotificationIntent} {attempt : Attempt}
    {nowTs : Int} (loops : dispatch.Loops outbox (intent :: rest))
    (known : ∀ key ∈ sent, key ∈ outbox.attempts.map Attempt.key)
    (begun : Begun outbox after intent.intentId dispatch.dispatcher.leaseOwner dispatch.fenceToken nowTs
      attempt) :
    dispatch.Loops after rest ∧ dispatch.Owns after attempt ∧ attempt.key ∉ sent := by
  obtain ⟨apart, distinct⟩ := List.nodup_cons.mp loops.1
  refine ⟨⟨distinct, fun _ item member => ?_⟩, ?_, ?_⟩
  · have other : item.intentId ≠ intent.intentId :=
      fun same => apart (same ▸ List.mem_map_of_mem member)
    rw [begun.attemptsOf_length, if_neg other, add_zero]
    exact loops.2 begun.fence item (List.mem_cons_of_mem _ member)
  · refine ⟨⟨begun.owner, begun.lease, begun.given⟩, attempt, ?_, rfl, begun.owner, begun.given,
      Or.inl begun.state⟩
    rw [begun.added]
    exact List.mem_append_right _ (List.mem_singleton.mpr rfl)
  · intro called
    obtain ⟨row, member, same⟩ := List.mem_map.mp (known _ called)
    obtain ⟨ident, number⟩ := Prod.mk.inj same
    have bound := le_lastAttemptNo member
    rw [ident, begun.intent] at bound
    rw [begun.number] at number
    omega

theorem operate_outcome (sound : outbox.Sound) (bound : dispatch.fenceToken ≤ outbox.fenceToken LEASE_NAME)
    (known : ∀ key ∈ sent, key ∈ outbox.attempts.map Attempt.key)
    (holds : dispatch.Holds outbox sent) :
    Outcome dispatch outbox sent (dispatch.operate outbox elapsed) := by
  have loop {rest : List NotificationIntent} {after : Outbox}
      (loops : dispatch.Loops after rest) (counts : Counts) :
      Goes dispatch after sent { dispatch with counts := counts, stage := .loop rest } :=
    ⟨rfl, rfl, loops⟩
  cases stage : dispatch.stage with
  | quarantine =>
    simp only [DispatchRun.operate, stage]
    refine ⟨.settled (quarantine_settled ..), fun next same => ?_, by simp⟩
    obtain rfl := Option.some.inj same
    exact ⟨rfl, rfl, trivial⟩
  | due =>
    simp only [DispatchRun.operate, stage]
    refine ⟨.settled (.refl outbox), fun next same => ?_, by simp⟩
    obtain rfl := Option.some.inj same
    rw [Option.toList_none, List.map_nil, List.append_nil]
    exact loop (dueIntents_loops dispatch sound) dispatch.counts
  | loop rest =>
    simp only [DispatchRun.Holds, stage] at holds
    cases rest with
    | nil =>
      simp only [DispatchRun.operate, stage]
      refine ⟨.settled (.refl outbox), fun next same => ?_, by simp⟩
      obtain rfl := Option.some.inj same
      exact ⟨rfl, rfl, trivial⟩
    | cons intent rest =>
      simp only [DispatchRun.operate, stage]
      have settled : Settled (dispatch.Decides outbox) outbox
          (outbox.renewFencedLease LEASE_NAME dispatch.dispatcher.leaseOwner dispatch.fenceToken
            (dispatch.nowTs + elapsed) dispatch.dispatcher.leaseTtlSec).1 :=
        renewFencedLease_settled ..
      split
      · rename_i after renewed
        rw [renewed] at settled
        refine ⟨.settled settled, fun next same => ?_, by simp⟩
        obtain rfl := Option.some.inj same
        exact ⟨rfl, rfl, holds.settled bound settled⟩
      · rename_i after renewed
        rw [renewed] at settled
        refine ⟨.settled settled, fun next same => ?_, by simp⟩
        obtain rfl := Option.some.inj same
        exact ⟨rfl, rfl, List.nodup_nil, by simp⟩
  | begin attemptNow intent rest =>
    simp only [DispatchRun.Holds, stage] at holds
    simp only [DispatchRun.operate, stage]
    split
    · rename_i after attempt done
      have begun := beginDeliveryAttempt_begun done
      obtain ⟨loops, owns, unsent⟩ := begun_goes holds known begun
      refine ⟨.begun intent.intentId attemptNow attempt begun ?_, fun next same => ?_, by simp⟩
      · exact holds.2 begun.fence intent List.mem_cons_self
      · obtain rfl := Option.some.inj same
        rw [Option.toList_none, List.map_nil, List.append_nil]
        exact ⟨rfl, rfl, loops, owns, unsent⟩
    · refine ⟨.settled (.refl outbox), fun next same => ?_, by simp⟩
      obtain rfl := Option.some.inj same
      exact ⟨rfl, rfl, trivial⟩
  | send attempt intent rest =>
    simp only [DispatchRun.Holds, stage] at holds
    obtain ⟨loops, owns, unsent⟩ := holds
    simp only [DispatchRun.operate, stage]
    split
    · refine ⟨.settled (.refl outbox), fun next same => ?_, fun called same => ?_⟩
      · obtain rfl := Option.some.inj same
        exact ⟨rfl, rfl, loops, owns⟩
      · obtain rfl := Option.some.inj same
        exact ⟨owns, unsent⟩
    · refine ⟨.settled (.refl outbox), fun next same => ?_, by simp⟩
      obtain rfl := Option.some.inj same
      exact ⟨rfl, rfl, loops, owns⟩
  | await attempt rest =>
    simp only [DispatchRun.operate, stage]
    refine ⟨.settled (.refl outbox), fun next same => ?_, by simp⟩
    obtain rfl := Option.some.inj same
    rw [Option.toList_none, List.map_nil, List.append_nil]
    exact ⟨rfl, rfl, holds⟩
  | finish attempt response rest =>
    simp only [DispatchRun.Holds, stage] at holds
    obtain ⟨loops, ⟨owner, lease, token⟩, row, member, named, owned, given, _⟩ := holds
    have settled : Settled (dispatch.Decides outbox) outbox
        (outbox.finishDeliveryAttempt attempt response.detail response.retryAfterSec
          (dispatch.nowTs + elapsed) (outcomeState response)).1 := by
      obtain ⟨fences, intents, settle, attempts, settles⟩ := finishDeliveryAttempt_settled outbox attempt
        response.detail response.retryAfterSec (dispatch.nowTs + elapsed) (outcomeState response)
      refine ⟨fences, intents, settle, attempts, fun other listed => ?_⟩
      rcases settles other listed with same | ⟨flying, same, uncertain | ⟨ended, key, given', current⟩⟩
      · exact Or.inl same
      · exact Or.inr ⟨flying, same, Or.inl uncertain⟩
      · have own : other = row := eq_of_key sound.keys listed member (key.trans named.symm)
        refine Or.inr ⟨flying, same, Or.inr ⟨ended, own ▸ owned, given'.trans token, ?_⟩⟩
        refine ⟨dispatch.nowTs + elapsed, ?_⟩
        rw [own, owned, given, ← owner, ← token, ← lease]
        exact current
    simp only [DispatchRun.operate, stage]
    split
    · rename_i after done
      rw [done] at settled
      refine ⟨.settled settled, fun next same => ?_, by simp⟩
      obtain rfl := Option.some.inj same
      rw [Option.toList_none, List.map_nil, List.append_nil]
      exact loop (loops.settled bound settled) _
    · rename_i after raised done
      rw [done] at settled
      refine ⟨.settled settled, fun next same => ?_, by simp⟩
      dsimp only at same
      split at same
      · obtain rfl := Option.some.inj same
        rw [Option.toList_none, List.map_nil, List.append_nil]
        exact loop (loops.settled bound settled) _
      · obtain rfl := Option.some.inj same
        exact ⟨rfl, rfl, trivial⟩
  | release pending =>
    simp only [DispatchRun.operate, stage]
    exact ⟨.settled (releaseLease_settled ..), by simp, by simp⟩

/-! ### The world between two events -/

structure World.Sound (world : World) : Prop where
  outbox : world.outbox.Sound
  tokens : ∀ who dispatch, world.running who = some dispatch →
    dispatch.fenceToken ≤ world.outbox.fenceToken LEASE_NAME
  apart : ∀ who other dispatch further, world.running who = some dispatch →
    world.running other = some further → dispatch.fenceToken = further.fenceToken → who = other
  holds : ∀ who dispatch, world.running who = some dispatch → dispatch.Holds world.outbox world.sent
  sent : world.sent.Nodup
  known : ∀ key ∈ world.sent, key ∈ world.outbox.attempts.map Attempt.key
  granted : world.granted.Pairwise (· < ·)
  last : ∀ token ∈ world.granted, token ≤ world.outbox.fenceToken LEASE_NAME

variable {world : World} {who : Nat}

theorem empty_sound : World.empty.Sound := by
  constructor <;> simp [World.empty]
  constructor <;> simp [Outbox.empty]

theorem Settled.known {decided : Attempt → Prop} (settled : Settled decided outbox after)
    {key : String × Nat} (member : key ∈ outbox.attempts.map Attempt.key) :
    key ∈ after.attempts.map Attempt.key := by
  obtain ⟨_, _, settle, attempts, settles⟩ := settled
  obtain ⟨row, listed, rfl⟩ := List.mem_map.mp member
  rw [attempts, ← (settles row listed).same.key]
  exact List.mem_map_of_mem (List.mem_map_of_mem listed)

/-- A run is replaced by one that fits the world. -/
theorem World.Sound.put (sound : world.Sound) (who : Nat) (next : Option DispatchRun)
    (tokens : ∀ dispatch ∈ next, dispatch.fenceToken ≤ world.outbox.fenceToken LEASE_NAME ∧
      ∀ other further, other ≠ who → world.running other = some further →
        further.fenceToken ≠ dispatch.fenceToken)
    (holds : ∀ dispatch ∈ next, dispatch.Holds world.outbox world.sent) :
    (world.put who next).Sound := by
  refine ⟨sound.outbox, ?_, ?_, ?_, sound.sent, sound.known, sound.granted, sound.last⟩
  · intro other dispatch running
    simp only [World.put] at running
    split at running
    · exact (tokens dispatch running).1
    · exact sound.tokens other dispatch running
  · intro one other dispatch further running running' same
    simp only [World.put] at running running'
    split at running
    · rename_i own
      split at running'
      · rename_i own'
        rw [own, own']
      · rename_i apart
        exact absurd same.symm ((tokens dispatch running).2 other further apart running')
    · rename_i apart
      split at running'
      · exact absurd same ((tokens further running').2 one dispatch apart running)
      · exact sound.apart one other dispatch further running running' same
  · intro other dispatch running
    simp only [World.put] at running ⊢
    split at running
    · exact holds dispatch running
    · exact sound.holds other dispatch running

/-- A transaction that decides no attempt leaves the world sound. -/
theorem World.Sound.settled (sound : world.Sound) (settled : Settled (fun _ => False) world.outbox after) :
    World.Sound { world with outbox := after } := by
  refine ⟨settled.sound sound.outbox, fun who dispatch running => ?_, sound.apart,
    fun who dispatch running => ?_, sound.sent, fun key member => settled.known (sound.known key member),
    sound.granted, fun token member => (sound.last token member).trans settled.fences⟩
  · exact (sound.tokens who dispatch running).trans settled.fences
  · exact (sound.holds who dispatch running).settled (sound.tokens who dispatch running)
      (fun _ never => never.elim) (fun _ _ called => called) settled

theorem World.Sound.commit (sound : world.Sound) {result : Except PyError Outbox}
    (settled : ∀ after, result = .ok after → Settled (fun _ => False) world.outbox after) :
    (world.commit result).Sound := by
  unfold World.commit
  split
  · rename_i after
    exact sound.settled (settled after rfl)
  · exact sound

/-- A lease that is acquired gives a token that no run has. -/
theorem World.Sound.acquire (sound : world.Sound) (name owner : String) (nowTs ttlSec : Int) :
    (world.acquire name owner nowTs ttlSec).1.Sound ∧
      ∀ token, (world.acquire LEASE_NAME owner nowTs ttlSec).2 = some token →
        (world.acquire LEASE_NAME owner nowTs ttlSec).1.outbox.fenceToken LEASE_NAME = token ∧
        world.outbox.fenceToken LEASE_NAME < token := by
  constructor
  · have kept := sound.settled (acquireFencedLease_settled world.outbox name owner nowTs ttlSec)
    unfold World.acquire
    dsimp only
    split
    · rename_i own
      refine ⟨kept.outbox, kept.tokens, kept.apart, kept.holds, kept.sent, kept.known, ?_, ?_⟩
      · dsimp only
        rw [List.pairwise_append]
        refine ⟨sound.granted, ?_, fun token member fresh granted => ?_⟩
        · cases (world.outbox.acquireFencedLease name owner nowTs ttlSec).2 <;> simp
        · obtain ⟨next, _⟩ := acquireFencedLease_token (Option.mem_toList.mp granted)
          have bound := sound.last token member
          rw [own] at next
          omega
      · intro token member
        rcases List.mem_append.mp member with former | granted
        · exact kept.last token former
        · obtain ⟨_, now⟩ := acquireFencedLease_token (Option.mem_toList.mp granted)
          rw [own] at now
          dsimp only
          rw [own, now]
    · exact kept
  · intro token granted
    obtain ⟨next, now⟩ := acquireFencedLease_token granted
    exact ⟨now, next ▸ Nat.lt_succ_self _⟩

/-- An operation of one run leaves the others what they rely on. -/
theorem World.Sound.operated (sound : world.Sound) {result : Outbox × Option DispatchRun × Option Attempt}
    (running : world.running who = some dispatch) (outcome : Outcome dispatch world.outbox world.sent result) :
    World.Sound { world with
      outbox := result.1
      running := fun other => if other = who then result.2.1 else world.running other
      sent := world.sent ++ result.2.2.toList.map Attempt.key } := by
  obtain ⟨changed, next, called⟩ := outcome
  -- the others have tokens of their own
  have others : ∀ other further, other ≠ who → world.running other = some further →
      further.fenceToken ≠ dispatch.fenceToken :=
    fun other further apart running' same => apart (sound.apart _ _ _ _ running' running same)
  have fences : world.outbox.fenceToken LEASE_NAME ≤ result.1.fenceToken LEASE_NAME := by
    cases changed with
    | settled settled => exact settled.fences
    | begun _ _ _ begun => rw [begun.added]; exact le_rfl
  have keys : ∀ key ∈ world.outbox.attempts.map Attempt.key, key ∈ result.1.attempts.map Attempt.key := by
    intro key member
    cases changed with
    | settled settled => exact settled.known member
    | begun _ _ _ begun =>
      rw [begun.added, List.map_append]
      exact List.mem_append_left _ member
  have own : ∀ further : DispatchRun, dispatch.fenceToken ≠ further.fenceToken → ∀ attempt : Attempt,
      further.Owns world.outbox attempt →
      attempt.key ∈ world.sent ++ result.2.2.toList.map Attempt.key → attempt.key ∈ world.sent := by
    intro further apart attempt owns member
    rcases List.mem_append.mp member with former | fresh
    · exact former
    · obtain ⟨sent, listed, same⟩ := List.mem_map.mp fresh
      obtain ⟨⟨_, row, stored, named, _, given, _⟩, _⟩ := called sent (Option.mem_toList.mp listed)
      obtain ⟨_, row', stored', named', _, given', _⟩ := owns
      have one := eq_of_key sound.outbox.keys stored stored' (named.trans (same.trans named'.symm))
      rw [one, given'] at given
      exact absurd given.symm apart
  have base : World.Sound { world.put who none with
      outbox := result.1, sent := world.sent ++ result.2.2.toList.map Attempt.key } := by
    refine ⟨?_, ?_, ?_, ?_, ?_, ?_, sound.granted, fun token member => (sound.last token member).trans fences⟩
    · cases changed with
      | settled settled => exact settled.sound sound.outbox
      | begun _ _ _ begun => exact begun.sound sound.outbox
    · intro other further running'
      simp only [World.put] at running'
      split at running'
      · cases running'
      · exact (sound.tokens other further running').trans fences
    · intro one other first second running' running'' same
      simp only [World.put] at running' running''
      split at running'
      · cases running'
      · split at running''
        · cases running''
        · exact sound.apart one other first second running' running'' same
    · intro other further running'
      simp only [World.put] at running'
      split at running'
      · cases running'
      · rename_i apart
        have token := others other further apart running'
        have holds := sound.holds other further running'
        cases changed with
        | settled settled =>
          exact holds.settled (sound.tokens other further running')
            (fun row decides same => token (same.symm.trans decides.2.1)) (own further token.symm) settled
        | begun _ _ _ begun =>
          have same : Settled (fun _ => False) world.outbox world.outbox := .refl _
          exact (holds.settled (sound.tokens other further running') (fun _ => False.elim)
            (own further token.symm) same).begun token begun
    · rw [List.nodup_append]
      refine ⟨sound.sent, ?_, ?_⟩
      · cases result.2.2 <;> simp
      · rintro key member other fresh rfl
        obtain ⟨attempt, listed, rfl⟩ := List.mem_map.mp fresh
        exact (called attempt (Option.mem_toList.mp listed)).2 member
    · intro key member
      rcases List.mem_append.mp member with former | fresh
      · exact keys key (sound.known key former)
      · obtain ⟨attempt, listed, rfl⟩ := List.mem_map.mp fresh
        obtain ⟨⟨_, row, stored, named, _⟩, _⟩ := called attempt (Option.mem_toList.mp listed)
        exact keys _ (named ▸ List.mem_map_of_mem stored)
  have whole := base.put who result.2.1
    (fun further same => by
      obtain ⟨_, token, _⟩ := next further same
      rw [token]
      refine ⟨(sound.tokens who dispatch running).trans fences, fun other third apart running' => ?_⟩
      simp only [World.put, if_neg apart] at running'
      exact others other third apart running')
    (fun further same => (next further same).holds)
  have shape : (fun other => if other = who then result.2.1 else
      (if other = who then none else world.running other)) =
        fun other => if other = who then result.2.1 else world.running other := by
    funext other
    split <;> rfl
  simp only [World.put, shape] at whole
  exact whole

/-! ### Steps of the world -/

/-- What one event may do: call a provider only for an attempt before which every other of its
intent failed for a retry, begin an attempt only of an eligible intent, and take an attempt out of
flight only as uncertain or by its own run under the last token. -/
structure StepLaw (world after : World) : Prop where
  sends : ∀ key ∈ after.sent, key ∈ world.sent ∨ ∃ row ∈ world.outbox.attempts, row.key = key ∧
    ∀ other ∈ world.outbox.attemptsOf row.intentId, other = row ∨ other.state = .retryableFailed
  begins : ∀ row ∈ after.outbox.attempts, row.key ∈ world.outbox.attempts.map Attempt.key ∨
    ((∃ item ∈ world.outbox.intents, item.intentId = row.intentId ∧ world.outbox.Eligible item) ∧
      ∀ other ∈ world.outbox.attemptsOf row.intentId, other.state = .retryableFailed)
  settles : ∀ row ∈ world.outbox.attempts, ∃ later ∈ after.outbox.attempts, later.key = row.key ∧
    (later = row ∨ (row.state = .inFlight ∧ (later.state = .uncertain ∨
      ∃ who dispatch, world.running who = some dispatch ∧ dispatch.Decides world.outbox row)))

theorem Settled.stepLaw {decided : Attempt → Prop} {next : World}
    (settled : Settled decided world.outbox next.outbox) (sent : next.sent = world.sent)
    (deciders : ∀ row, decided row → ∃ who dispatch, world.running who = some dispatch ∧
      dispatch.Decides world.outbox row) : StepLaw world next := by
  obtain ⟨_, _, settle, attempts, settles⟩ := settled
  refine ⟨fun key member => Or.inl (sent ▸ member), fun row member => ?_, fun row member => ?_⟩
  · rw [attempts] at member
    obtain ⟨former, listed, rfl⟩ := List.mem_map.mp member
    left
    rw [(settles former listed).same.key]
    exact List.mem_map_of_mem listed
  · refine ⟨settle row, attempts ▸ List.mem_map_of_mem member, (settles row member).same.key, ?_⟩
    rcases settles row member with same | ⟨flying, _, uncertain | ⟨_, decided⟩⟩
    · exact Or.inl same
    · exact Or.inr ⟨flying, Or.inl uncertain⟩
    · exact Or.inr ⟨flying, Or.inr (deciders row decided)⟩

theorem Settled.quiet {next : World} (settled : Settled (fun _ => False) world.outbox next.outbox)
    (sent : next.sent = world.sent) : StepLaw world next :=
  settled.stepLaw sent fun _ => False.elim

theorem commit_quiet {result : Except PyError Outbox}
    (settled : ∀ after, result = .ok after → Settled (fun _ => False) world.outbox after) :
    StepLaw world (world.commit result) := by
  unfold World.commit
  split
  · rename_i after
    exact (settled after rfl).quiet rfl
  · exact (Settled.refl world.outbox).quiet rfl

/-- While an attempt is not decided, the others of its intent failed for a retry. -/
theorem others_failed (sound : outbox.Sound) {row : Attempt} (member : row ∈ outbox.attempts)
    (state : row.state = .inFlight ∨ row.state = .uncertain) :
    ∀ other ∈ outbox.attemptsOf row.intentId, other = row ∨ other.state = .retryableFailed := by
  intro other listed
  obtain ⟨stored, named⟩ := mem_attemptsOf.mp listed
  rcases lt_trichotomy other.attemptNo row.attemptNo with earlier | same | later
  · exact Or.inr (sound.settled other stored row member named earlier)
  · exact Or.inl (eq_of_key sound.keys stored member (Prod.ext named same))
  · have failed := sound.settled row member other stored named.symm later
    rw [failed] at state
    rcases state with flying | uncertain
    · cases flying
    · cases uncertain

theorem operated_stepLaw (sound : world.Sound) {result : Outbox × Option DispatchRun × Option Attempt}
    (running : world.running who = some dispatch) (outcome : Outcome dispatch world.outbox world.sent result)
    {next : World} (outbox : next.outbox = result.1)
    (sent : next.sent = world.sent ++ result.2.2.toList.map Attempt.key) : StepLaw world next := by
  obtain ⟨changed, _, called⟩ := outcome
  have rows : StepLaw world { next with sent := world.sent } := by
    cases changed with
    | settled settled =>
      rw [← outbox] at settled
      have same : ({ next with sent := world.sent } : World).sent = world.sent := rfl
      exact Settled.stepLaw settled same fun row decides => ⟨who, dispatch, running, decides⟩
    | begun intentId nowTs attempt begun =>
      refine ⟨fun key member => Or.inl member, fun row member => ?_, fun row member => ?_⟩
      · dsimp only at member
        rw [outbox, begun.added] at member
        rcases List.mem_append.mp member with former | own
        · exact Or.inl (List.mem_map_of_mem former)
        · rw [List.mem_singleton.mp own, begun.intent]
          exact Or.inr ⟨begun.eligible, begun.unblocked⟩
      · refine ⟨row, ?_, rfl, Or.inl rfl⟩
        dsimp only
        rw [outbox, begun.added]
        exact List.mem_append_left _ member
  refine ⟨fun key member => ?_, rows.begins, rows.settles⟩
  rw [sent] at member
  rcases List.mem_append.mp member with former | fresh
  · exact Or.inl former
  · obtain ⟨attempt, listed, rfl⟩ := List.mem_map.mp fresh
    obtain ⟨⟨_, row, stored, named, _, _, state⟩, _⟩ := called attempt (Option.mem_toList.mp listed)
    exact Or.inr ⟨row, stored, named, others_failed sound.outbox stored state⟩

/-- Every event keeps the world sound, and keeps to the law of a step. -/
theorem World.Sound.step (sound : world.Sound) (event : Event) :
    (world.step event).Sound ∧ StepLaw world (world.step event) := by
  have quiet {next : World} (outbox : next.outbox = world.outbox) (sent : next.sent = world.sent) :
      StepLaw world next := by
    have same : Settled (fun _ => False) world.outbox next.outbox := outbox ▸ .refl _
    exact same.quiet sent
  cases event with
  | start who dispatcher nowTs limit =>
    simp only [World.step]
    split
    · exact ⟨sound, quiet rfl rfl⟩
    · have acquired := sound.acquire LEASE_NAME dispatcher.leaseOwner nowTs dispatcher.leaseTtlSec
      have settled : Settled (fun _ => False) world.outbox
          (world.acquire LEASE_NAME dispatcher.leaseOwner nowTs dispatcher.leaseTtlSec).1.outbox :=
        acquireFencedLease_settled ..
      have sent : (world.acquire LEASE_NAME dispatcher.leaseOwner nowTs
          dispatcher.leaseTtlSec).1.sent = world.sent := rfl
      have same : (world.acquire LEASE_NAME dispatcher.leaseOwner nowTs
          dispatcher.leaseTtlSec).1.running = world.running := rfl
      obtain ⟨sound', token⟩ := acquired
      split
      · rename_i after got
        rw [got] at sound' settled sent
        exact ⟨sound', settled.quiet sent⟩
      · rename_i after given got
        rw [got] at sound' settled sent same token
        obtain ⟨now, greater⟩ := token given rfl
        refine ⟨sound'.put who _ ?_ ?_, ?_⟩
        · rintro dispatch ⟨⟩
          refine ⟨now.ge, fun other further _ running => ?_⟩
          dsimp only at same
          rw [same] at running
          exact ((sound.tokens other further running).trans_lt greater).ne
        · rintro dispatch ⟨⟩
          exact trivial
        · have settled' : Settled (fun _ => False) world.outbox (after.put who (some ⟨dispatcher, nowTs,
              limit, given, ⟨0, 0, 0, 0⟩, .quarantine⟩)).outbox := settled
          exact settled'.quiet sent
  | operate who elapsed =>
    simp only [World.step]
    split
    · exact ⟨sound, quiet rfl rfl⟩
    · rename_i dispatch running
      have outcome : Outcome dispatch world.outbox world.sent (dispatch.operate world.outbox elapsed) :=
        operate_outcome sound.outbox (sound.tokens who dispatch running) sound.known
          (sound.holds who dispatch running)
      exact ⟨sound.operated running outcome, operated_stepLaw sound running outcome rfl rfl⟩
  | answer who answer =>
    simp only [World.step]
    split
    · rename_i dispatch running
      split
      · rename_i attempt rest stage
        have holds := sound.holds who dispatch running
        simp only [DispatchRun.Holds, stage] at holds
        refine ⟨sound.put who _ ?_ ?_, quiet rfl rfl⟩
        · rintro next ⟨⟩
          exact ⟨sound.tokens who dispatch running, fun other further apart running' same =>
            apart (sound.apart _ _ _ _ running' running same)⟩
        · rintro next ⟨⟩
          exact holds
      · exact ⟨sound, quiet rfl rfl⟩
    · exact ⟨sound, quiet rfl rfl⟩
  | interrupt who =>
    refine ⟨sound.put who _ ?_ ?_, quiet rfl rfl⟩
    · intro next same
      obtain ⟨dispatch, running, rfl⟩ := Option.map_eq_some_iff.mp same
      exact ⟨sound.tokens who dispatch running, fun other further apart running' same =>
        apart (sound.apart _ _ _ _ running' running same)⟩
    · intro next same
      obtain ⟨dispatch, _, rfl⟩ := Option.map_eq_some_iff.mp same
      exact trivial
  | crash who => exact ⟨sound.put who none (by simp) (by simp), quiet rfl rfl⟩
  | activateEpoch cutoverTs activatedTs policyRevision writerIdentity note =>
    exact ⟨sound.commit fun _ done => activateDeliveryEpoch_settled done,
      commit_quiet fun _ done => activateDeliveryEpoch_settled done⟩
  | closeEpoch epochId closedTs =>
    exact ⟨sound.commit fun _ done => closeDeliveryEpoch_settled done,
      commit_quiet fun _ done => closeDeliveryEpoch_settled done⟩
  | appendIntent item epochId =>
    exact ⟨sound.commit fun _ done => appendIntent_settled done,
      commit_quiet fun _ done => appendIntent_settled done⟩
  | acquireLease name owner nowTs ttlSec =>
    have settled : Settled (fun _ => False) world.outbox
        (world.acquire name owner nowTs ttlSec).1.outbox := acquireFencedLease_settled ..
    exact ⟨(sound.acquire name owner nowTs ttlSec).1, settled.quiet rfl⟩
  | releaseLease name owner =>
    have settled : Settled (fun _ => False) world.outbox
        (world.outbox.releaseLease name owner none) := releaseLease_settled ..
    exact ⟨sound.settled settled, settled.quiet rfl⟩

theorem run_sound (events : List Event) : (World.run events).Sound := by
  unfold World.run
  induction events using List.reverseRecOn with
  | nil => exact empty_sound
  | append_singleton events event ih =>
    rw [List.foldl_append]
    exact (ih.step event).1

/-! ### The number of calls -/

/-- No dispatcher of an event makes more attempts. -/
def Event.Within (limit : Nat) : Event → Prop
  | .start _ dispatcher _ _ => dispatcher.maxAttempts ≤ limit
  | _ => True

/-- No intent has more attempts, and no run makes more. -/
structure World.Bounded (limit : Nat) (world : World) : Prop where
  attempts : ∀ intentId, (world.outbox.attemptsOf intentId).length ≤ limit
  running : ∀ who dispatch, world.running who = some dispatch → dispatch.dispatcher.maxAttempts ≤ limit

theorem Operated.bounded {limit : Nat} (operated : Operated dispatch outbox after)
    (most : dispatch.dispatcher.maxAttempts ≤ limit)
    (bounded : ∀ intentId, (outbox.attemptsOf intentId).length ≤ limit) (intentId : String) :
    (after.attemptsOf intentId).length ≤ limit := by
  cases operated with
  | settled settled =>
    rw [settled.attemptsOf_length]
    exact bounded intentId
  | begun other nowTs attempt begun left =>
    rw [begun.attemptsOf_length]
    split
    · rename_i same
      rw [same]
      omega
    · exact bounded intentId

theorem World.Bounded.settled {limit : Nat} {next : World} (bounded : world.Bounded limit)
    (settled : Settled (fun _ => False) world.outbox next.outbox)
    (running : ∀ who dispatch, next.running who = some dispatch →
      dispatch.dispatcher.maxAttempts ≤ limit) : next.Bounded limit := by
  refine ⟨fun intentId => ?_, running⟩
  rw [settled.attemptsOf_length]
  exact bounded.attempts intentId

theorem World.Bounded.commit {limit : Nat} {result : Except PyError Outbox} (bounded : world.Bounded limit)
    (settled : ∀ after, result = .ok after → Settled (fun _ => False) world.outbox after) :
    (world.commit result).Bounded limit := by
  unfold World.commit
  split
  · rename_i after
    exact bounded.settled (settled after rfl) bounded.running
  · exact bounded

theorem World.Bounded.put {limit : Nat} (bounded : world.Bounded limit) (who : Nat)
    (next : Option DispatchRun)
    (most : ∀ dispatch ∈ next, dispatch.dispatcher.maxAttempts ≤ limit) :
    (world.put who next).Bounded limit := by
  refine ⟨bounded.attempts, fun other dispatch running => ?_⟩
  simp only [World.put] at running
  split at running
  · exact most dispatch running
  · exact bounded.running other dispatch running

theorem World.Bounded.step {limit : Nat} (sound : world.Sound) (bounded : world.Bounded limit)
    (event : Event) (within : event.Within limit) : (world.step event).Bounded limit := by
  cases event with
  | start who dispatcher nowTs cap =>
    simp only [World.step]
    split
    · exact bounded
    · have settled : Settled (fun _ => False) world.outbox
          (world.acquire LEASE_NAME dispatcher.leaseOwner nowTs dispatcher.leaseTtlSec).1.outbox :=
        acquireFencedLease_settled ..
      have acquired : World.Bounded limit
          (world.acquire LEASE_NAME dispatcher.leaseOwner nowTs dispatcher.leaseTtlSec).1 :=
        bounded.settled settled bounded.running
      split
      · rename_i after got
        rw [got] at acquired
        exact acquired
      · rename_i after given got
        rw [got] at acquired
        apply World.Bounded.put acquired who
        rintro dispatch ⟨⟩
        exact within
  | operate who elapsed =>
    simp only [World.step]
    split
    · exact bounded
    · rename_i dispatch running
      have outcome : Outcome dispatch world.outbox world.sent (dispatch.operate world.outbox elapsed) :=
        operate_outcome sound.outbox (sound.tokens who dispatch running) sound.known
          (sound.holds who dispatch running)
      have most := bounded.running who dispatch running
      refine ⟨outcome.changed.bounded most bounded.attempts, fun other further running' => ?_⟩
      dsimp only at running'
      split at running'
      · rw [(outcome.next further running').dispatcher]
        exact most
      · exact bounded.running other further running'
  | answer who answer =>
    simp only [World.step]
    split
    · rename_i dispatch running
      split
      · apply bounded.put who
        rintro next ⟨⟩
        exact bounded.running who dispatch running
      · exact bounded
    · exact bounded
  | interrupt who =>
    apply bounded.put who
    intro next same
    obtain ⟨dispatch, running, rfl⟩ := Option.map_eq_some_iff.mp same
    exact bounded.running who dispatch running
  | crash who => exact bounded.put who none (by simp)
  | activateEpoch => exact bounded.commit fun _ done => activateDeliveryEpoch_settled done
  | closeEpoch => exact bounded.commit fun _ done => closeDeliveryEpoch_settled done
  | appendIntent => exact bounded.commit fun _ done => appendIntent_settled done
  | acquireLease name owner nowTs ttlSec =>
    have settled : Settled (fun _ => False) world.outbox
        (world.acquire name owner nowTs ttlSec).1.outbox := acquireFencedLease_settled ..
    exact bounded.settled settled bounded.running
  | releaseLease name owner =>
    have settled : Settled (fun _ => False) world.outbox
        (world.outbox.releaseLease name owner none) := releaseLease_settled ..
    exact bounded.settled settled bounded.running

theorem run_bounded {limit : Nat} (events : List Event) (within : ∀ event ∈ events, event.Within limit) :
    (World.run events).Bounded limit := by
  unfold World.run
  induction events using List.reverseRecOn with
  | nil => exact ⟨by simp [World.empty, Outbox.empty, Outbox.attemptsOf], by simp [World.empty]⟩
  | append_singleton events event ih =>
    rw [List.foldl_append]
    have former := ih fun earlier member => within earlier (List.mem_append_left _ member)
    exact former.step (run_sound events) event (within event (by simp))

/-- Every call of a provider for an intent has an attempt of its own. -/
theorem sent_le_attempts (sound : world.Sound) (intentId : String) :
    (world.sent.filter fun key => key.1 = intentId).length ≤ (world.outbox.attemptsOf intentId).length := by
  have unique : (world.sent.filter fun key => key.1 = intentId).Nodup := sound.sent.filter _
  rw [← List.length_map Attempt.key]
  refine (unique.subperm fun key member => ?_).length_le
  obtain ⟨called, named⟩ := List.mem_filter.mp member
  obtain ⟨row, stored, rfl⟩ := List.mem_map.mp (sound.known key called)
  exact List.mem_map_of_mem (mem_attemptsOf.mpr ⟨stored, of_decide_eq_true named⟩)

/-- A provider is called at most once for an attempt and at most as often for an intent as the
dispatchers allow, and only while every other attempt of the intent has failed for a retry; the
tokens of the lease strictly increase. Any number of dispatchers run in any order, crash, lose their
leases and disagree about the time. -/
theorem no_second_send (events : List Event) :
    (∀ event, StepLaw (World.run events) ((World.run events).step event)) ∧
      (World.run events).sent.Nodup ∧ (World.run events).granted.Pairwise (· < ·) ∧
      ∀ limit, (∀ event ∈ events, event.Within limit) → ∀ intentId,
        ((World.run events).sent.filter fun key => key.1 = intentId).length ≤ limit := by
  have sound := run_sound events
  refine ⟨fun event => (sound.step event).2, sound.sent, sound.granted, fun limit within intentId => ?_⟩
  exact (sent_le_attempts sound intentId).trans ((run_bounded events within).attempts intentId)

/-- A dispatcher with the defaults of its constructor. -/
def discordDispatcher (instanceId : String) : Dispatcher where
  leaseOwner := "dispatcher/" ++ instanceId
  routes := ["discord"]
  leaseTtlSec := 180
  maxAttempts := 8
  attemptTimeoutSec := 120
  ttl := by decide
  attempts := by decide
  timeout := by decide

-- The first dispatcher loses its lease while it waits for the provider: the second one, which takes
-- over, leaves the uncertain attempt alone.
example : (World.run [.activateEpoch 0 0 "policy" "operator" "cutover",
    .appendIntent ⟨"intent", "discord", 10, 10⟩ (some ⟨0, 0, "policy", "operator"⟩),
    .start 0 (discordDispatcher "a") 20 20, .operate 0 0, .operate 0 0, .operate 0 0, .operate 0 0,
    .operate 0 0, .start 1 (discordDispatcher "b") 300 20, .operate 1 0, .operate 1 0, .operate 1 0,
    .answer 0 (.response ⟨true, 204, "sent", 0, false⟩), .operate 0 300]).sent =
      [("intent", 1)] := by
  decide +kernel

end LiveStream.Dispatch

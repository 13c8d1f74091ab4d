import LiveStream.Recovery.Methods

/-! `_act` keeps a world sound: the reservation, the request for it and its completion. -/

namespace LiveStream.Recovery

open LiveStream.Support Script Process

variable {config : Config} {opened start : World}

/-- The row of a reservation that was not completed yet. -/
structure Reserved (store : AgentStore) (actionId : Nat) (generationKey : String)
    (mode : ActionMode) (policy : Policy) (action : Action) : Prop where
  member : action ∈ store.actions
  id : action.id = actionId
  key : action.generationKey = generationKey
  mode : action.mode = mode
  version : action.policyVersion = policy.version
  state : action.state = .reserved

theorem Quiet.reserved {world : World} (quiet : Quiet start world) {actionId : Nat}
    {generationKey : String} {mode : ActionMode} {policy : Policy} {action : Action}
    (reserved : Reserved start.store actionId generationKey mode policy action) :
    Reserved world.store actionId generationKey mode policy action :=
  { reserved with member := quiet.actions.symm ▸ reserved.member }

/-- The rows and the adopted policies are what they were, whatever was sent. -/
structure Called (start world : World) : Prop where
  actions : world.store.actions = start.store.actions
  adopted : start.adopted ⊆ world.adopted

theorem Called.quiet {first second third : World} (called : Called first second)
    (quiet : Quiet second third) : Called first third :=
  ⟨quiet.actions.trans called.actions, List.Subset.trans called.adopted quiet.adopted⟩

theorem Quiet.called {world : World} (quiet : Quiet start world) : Called start world :=
  ⟨quiet.actions, quiet.adopted⟩

/-- `classify` never leaves an action open. -/
theorem classify_ended (response : Fields) (expected : String) :
    classify response expected ≠ .reserved ∧ classify response expected ≠ .dryRun := by
  unfold classify
  dsimp only
  split
  · simp
  · split
    · simp
    · split
      · simp
      · split
        · simp
        · split <;> simp

section Sending

variable (sound : Sound config opened start)
include sound

/-- A pending row has no result in the log. -/
theorem Sound.pending {action : Action} (member : action ∈ start.store.actions)
    (reserved : action.state = .reserved) :
    ∀ record ∈ start.store.audit, ∀ state response,
      record.results ≠ some (action.id, state, response) := by
  intro record found state response result
  obtain ⟨row, owned, same, ended⟩ := sound.resultIds record found _ _ _ result
  exact ended ((sound.unique owned member same) ▸ reserved)

/-- The call of the sender for a reservation that was checked again. -/
theorem ensures_send {request : RestartRequest} {actionId : Nat} {generationKey : String}
    {policy : Policy} {action : Action}
    (named : request.requestId = config.requestIdFor generationKey)
    (reserved : Reserved start.store actionId generationKey .enforce policy action)
    (first : ∀ sent ∈ start.sent, sent.generationKey ≠ generationKey)
    (reread : start.reread = some policy) (enforce : policy.mode = .enforce)
    (stopFile : start.stopFile = some false) :
    Ensures (send request actionId generationKey policy) start
      (fun _ world => Called start world ∧ Sound config opened world)
      fun world => Called start world ∧ Sound config opened world := by
  have called : ∀ turn, let before := start.synced turn
      Called start { before with
        sent := before.sent ++ [⟨request, actionId, generationKey, policy, before.reread,
          before.stopFile, before.store⟩] } ∧
      Sound config opened { before with
        sent := before.sent ++ [⟨request, actionId, generationKey, policy, before.reread,
          before.stopFile, before.store⟩] } := by
    intro turn before
    have idle : Idle start before := idle_synced start turn
    have held := idle.toQuiet.sound sound
    have kept := idle.toQuiet.reserved reserved
    refine ⟨⟨idle.actions, idle.adopted⟩, held.send ?_ ?_ ?_ rfl⟩
    · refine ⟨named, ⟨action, kept.member, kept.id, kept.key, kept.mode, kept.state⟩, ?_,
        idle.reread.trans reread, enforce, idle.stopFile.trans stopFile⟩
      exact reserved.id ▸ held.pending kept.member kept.state
    · exact claimed_iff.mpr ⟨action, kept.member, kept.key, kept.mode⟩
    · intro earlier member
      exact first earlier (idle.sent ▸ member)
  refine ensures_act ⟨(Quiet.refl start).called, sound⟩ fun turn => ?_
  cases turn.raises with
  | some error => exact called turn
  | none => exact called turn

theorem ensures_request {restart : RestartRequest} {actionId : Nat} {generationKey : String}
    {policy : Policy} {action : Action}
    (named : restart.requestId = config.requestIdFor generationKey)
    (reserved : Reserved start.store actionId generationKey .enforce policy action)
    (first : ∀ sent ∈ start.sent, sent.generationKey ≠ generationKey)
    (reread : start.reread = some policy) (enforce : policy.mode = .enforce)
    (stopFile : start.stopFile = some false) :
    Ensures (request policy restart actionId generationKey) start
      (fun answer world => Called start world ∧ Sound config opened world ∧
        answer.2 ≠ .reserved ∧ answer.2 ≠ .dryRun) (Sound config opened) := by
  have body : Ensures (do
      let response ← send restart actionId generationKey policy
      return (response, classify response restart.requestId) :
        Process (Fields × ActionState)) start
      (fun answer world => Called start world ∧ Sound config opened world ∧
        answer.2 ≠ .reserved ∧ answer.2 ≠ .dryRun)
      fun world => Called start world ∧ Sound config opened world := by
    refine ensures_bind (ensures_send sound named reserved first reread enforce stopFile)
      fun response world left => ?_
    exact ensures_pure ⟨left.1, left.2, classify_ended response restart.requestId⟩
  refine ensures_handle body (fun _ left => left.2) fun error world left => ?_
  split
  · exact ensures_pure ⟨left.1, left.2, by simp⟩
  · exact ensures_throw left.2

/-- A completion of the action of a reservation. -/
theorem ensures_complete {actionId : Nat} {generationKey : String} {mode : ActionMode}
    {policy : Policy} {action : Action} (now : Instant) {state : ActionState}
    {response : Response}
    (reserved : Reserved start.store actionId generationKey mode policy action)
    (ended : state ≠ .reserved)
    (placed : ∀ adopted, start.adopted ⊆ adopted → ∀ request, response.request = some request →
      Placed config adopted { action with state, response := some response } request) :
    Ensures (transact fun store => (store.completeAction now actionId state response, ())) start
      (fun _ => Sound config opened) (Sound config opened) := by
  refine ensures_transact sound fun world idle => ?_
  have kept := idle.toQuiet.reserved reserved
  rw [← reserved.id]
  exact (idle.toQuiet.sound sound).complete kept.member kept.state ended now
    (placed world.adopted idle.adopted)

end Sending

theorem requestId_of_build {obs : Observation} {now : Instant} {streak : Nat}
    {restart : RestartRequest} (built : buildRestartRequest config obs now streak = .ok restart) :
    restart.requestId = config.requestIdFor obs.generationKey := by
  unfold buildRestartRequest at built
  obtain ⟨sequence, _, made⟩ := bind_eq_ok.mp built
  cases made
  rfl

section Acting

variable (sound : Sound config opened start)
include sound

/-- `_act` after the reservation: cancelled, a dry run, or one request. -/
theorem ensures_actReserved {decision : Decision} {policy : Policy} {reservedObs : Observation}
    (streak : Nat) (network : Option Network) (networkCheckedAt : Instant) {actionId : Nat}
    {mode : ActionMode} {action : Action} (known : Known start.adopted policy)
    (reserved : Reserved start.store actionId reservedObs.generationKey mode policy action)
    (restarts : decision.outcome = .restart → mode = .enforce ∧ policy.mode = .enforce)
    (first : decision.outcome = .restart →
      ∀ sent ∈ start.sent, sent.generationKey ≠ reservedObs.generationKey)
    (acts : decision.outcome ≠ .none) :
    Ensures (actReserved config decision policy reservedObs streak network networkCheckedAt
      actionId) start (fun _ => Sound config opened) (Sound config opened) := by
  refine ensures_bind (ensures_dispatchGuard sound policy reservedObs streak network
    networkCheckedAt true) fun answer world guarded => ?_
  obtain ⟨now, latest, decided⟩ := answer
  have held := guarded.quiet.sound sound
  have kept := guarded.quiet.reserved reserved
  cases latest with
  | none =>
    refine ensures_bind (ensures_complete held now kept nofun ?_) fun _ world held => ?_
    · exact fun _ _ _ none => by cases none
    · exact ensures_pure held
  | some obs =>
    dsimp only
    split
    · refine ensures_bind (ensures_complete held now kept nofun ?_) fun _ world held => ?_
      · exact fun _ _ _ none => by cases none
      · exact ensures_pure held
    · rename_i same
      have same : decided.outcome = decision.outcome := of_not_not same
      have moves : decided.outcome ≠ .none := same ▸ acts
      split
      · refine ensures_bind (ensures_complete held now kept nofun ?_) fun _ world held => ?_
        · exact fun _ _ _ none => by cases none
        · exact ensures_pure held
      · rename_i restart
        have restart : decision.outcome = .restart := of_not_not restart
        obtain ⟨enforced, enforce⟩ := restarts restart
        subst enforced
        have key := guarded.key obs rfl moves
        refine ensures_bind (ensures_clock held) fun issuedAt world idle => ?_
        have held := idle.toQuiet.sound held
        have quiet := guarded.quiet.trans idle.toQuiet
        refine ensures_seq (ensures_lift (fun request built => ?_) held)
        have again := idle.toQuiet.reserved kept
        refine ensures_bind (ensures_request held (requestId_of_build built) (key ▸ again)
          (fun sent member => ?_) (idle.reread.trans (guarded.reread moves)) enforce
          (idle.stopFile.trans (guarded.stopFile moves))) fun reply world left => ?_
        · rw [key]
          exact first restart sent (quiet.sent ▸ member)
        obtain ⟨called, held, ended⟩ := left
        refine ensures_bind (ensures_clock held) fun completedAt world idle => ?_
        have called := called.quiet idle.toQuiet
        have final : Reserved world.store actionId reservedObs.generationKey .enforce policy
            action := { again with member := called.actions.symm ▸ again.member }
        refine ensures_bind (ensures_complete (idle.toQuiet.sound held) completedAt final ended.1 ?_)
          fun _ world held => ensures_pure held
        intro adopted grown request made
        cases made
        refine ⟨again.mode, again.key.trans key.symm, rfl, ?_, ended⟩
        exact ⟨policy, (known.mono quiet.adopted).mono (List.Subset.trans called.adopted grown),
          again.version.symm, enforce, rfl, rfl⟩

/-- `_act`. -/
theorem ensures_actOn {decision : Decision} {policy : Policy} (original : Observation)
    (streak : Nat) (network : Option Network) (networkCheckedAt : Instant)
    (known : Known start.adopted policy) (acts : decision.outcome ≠ .none) :
    Ensures (actOn config decision policy original streak network networkCheckedAt) start
      (fun _ => Sound config opened) (Sound config opened) := by
  refine ensures_bind (ensures_dispatchGuard sound policy original streak network
    networkCheckedAt false) fun answer world guarded => ?_
  obtain ⟨now, latest, decided⟩ := answer
  have held := guarded.quiet.sound sound
  cases latest with
  | none => exact ensures_pure held
  | some obs =>
    dsimp only
    split
    · exact ensures_pure held
    · rename_i same
      have same : decided.outcome = decision.outcome := of_not_not same
      have moves : decided.outcome ≠ .none := same ▸ acts
      obtain ⟨history, grounds, origin⟩ := guarded.grounds obs rfl moves
      rw [origin rfl] at grounds
      have moded : (if decision.outcome = .restart then .enforce else .dryRun : ActionMode) =
          policy.actionMode := by
        rw [← same, Policy.actionMode]
        exact if_congr grounds.mode rfl rfl
      rw [moded]
      refine ensures_bind (M := fun reserved world => Sound config opened world ∧
        Known world.adopted policy ∧ ∀ actionId, reserved = some actionId →
          (∃ action, Reserved world.store actionId obs.generationKey policy.actionMode policy
            action) ∧ (policy.actionMode = .enforce →
              ∀ sent ∈ world.sent, sent.generationKey ≠ obs.generationKey))
        (ensures_transact held fun world idle => ?_) fun reserved world left => ?_
      · have held := idle.toQuiet.sound held
        have known := (known.mono guarded.quiet.adopted).mono idle.adopted
        have unclaimed : world.store.claimed obs.generationKey policy.actionMode = false := by
          have first := grounds.first
          rw [← idle.toQuiet.history] at first
          exact first
        rw [← idle.toQuiet.history] at grounds
        rw [AgentStore.reserveAction, if_neg (by rw [unclaimed]; exact Bool.false_ne_true)]
        refine ⟨held.reserve grounds.localized (grounds.allowed known _), known,
          fun actionId made => ⟨⟨_, List.mem_append_right _ (List.mem_singleton_self _),
            Option.some.inj made, rfl, rfl, rfl, rfl⟩, ?_⟩⟩
        intro enforced sent member equal
        have claimed := held.claimed sent member
        rw [equal, ← enforced, unclaimed] at claimed
        cases claimed
      · obtain ⟨held, known, rows⟩ := left
        cases reserved with
        | none => exact ensures_pure held
        | some actionId =>
          obtain ⟨⟨action, row⟩, fresh⟩ := rows actionId rfl
          have enforces : decision.outcome = .restart →
              policy.actionMode = .enforce ∧ policy.mode = .enforce := by
            intro restart
            have enforce := grounds.mode.mp (same.trans restart)
            exact ⟨if_pos enforce, enforce⟩
          exact ensures_actReserved held streak network networkCheckedAt known row enforces
            (fun restart => fresh (enforces restart).1) acts

end Acting

end LiveStream.Recovery

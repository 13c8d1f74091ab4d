import LiveStream.Recovery.Grounds

/-! What each method of `Agent` does to a sound world: the rules of its interactions, and one
lemma for each method up to `_act`. -/

namespace LiveStream.Recovery

open LiveStream.Support Script Process

/-- A quiet step after which the last looks at the policy and the stop file are the same. -/
structure Idle (start world : World) : Prop extends Quiet start world where
  reread : world.reread = start.reread
  stopFile : world.stopFile = start.stopFile

theorem Idle.refl (world : World) : Idle world world :=
  { Quiet.refl world with reread := rfl, stopFile := rfl }

theorem Idle.trans {first second third : World} (idle : Idle first second)
    (later : Idle second third) : Idle first third :=
  { idle.toQuiet.trans later.toQuiet with
    reread := later.reread.trans idle.reread
    stopFile := later.stopFile.trans idle.stopFile }

theorem idle_synced (world : World) (turn : Turn) : Idle world (world.synced turn) := by
  have frame : ∀ syncs : List Sync, (syncs.foldl World.sync world).reread = world.reread ∧
      (syncs.foldl World.sync world).stopFile = world.stopFile := by
    intro syncs
    induction syncs using List.reverseRecOn with
    | nil => exact ⟨rfl, rfl⟩
    | append_singleton syncs sync inductionHypothesis =>
      rw [List.foldl_append]
      cases sync <;> exact inductionHypothesis
  exact { quiet_synced world turn with
    reread := (frame turn.syncs).1
    stopFile := (frame turn.syncs).2 }

variable {config : Config} {opened start : World}

section Interactions

variable {α : Type} {post : α → World → Prop} (sound : Sound config opened start)
include sound

theorem ensures_interact {answer : Turn → World → α × World}
    (answered : ∀ turn world, Idle start world → post (answer turn world).1 (answer turn world).2) :
    Ensures (interact answer) start post (Sound config opened) := by
  have idle : ∀ turn, Idle start (start.synced turn) := idle_synced start
  refine ensures_act sound fun turn => ?_
  cases raised : turn.raises with
  | some error => exact (idle turn).toQuiet.sound sound
  | none => exact answered turn _ (idle turn)

omit sound in
/-- An interaction that only looks. -/
theorem ensures_idle {look : Turn → α} :
    Ensures (interact fun turn world => (look turn, world)) start
      (fun _ world => Idle start world) (Idle start) := by
  refine ensures_act (Idle.refl start) fun turn => ?_
  cases turn.raises with
  | some error => exact idle_synced start turn
  | none => exact idle_synced start turn

theorem ensures_look {look : Turn → α} :
    Ensures (interact fun turn world => (look turn, world)) start
      (fun _ world => Idle start world) (Sound config opened) :=
  ensures_weaken ensures_idle (fun _ _ idle => idle) fun _ idle => idle.toQuiet.sound sound

theorem ensures_clock : Ensures clock start (fun _ world => Idle start world)
    (Sound config opened) := ensures_look sound

theorem ensures_cancelled : Ensures cancelled start (fun _ world => Idle start world)
    (Sound config opened) := ensures_look sound

theorem ensures_probe : Ensures probe start (fun _ world => Idle start world)
    (Sound config opened) := ensures_look sound

/-- A look whose exceptions are handled by a value or raised again. -/
theorem ensures_handled {look : Turn → α} {handler : PyError → Process α}
    (handles : ∀ error, (∃ value, handler error = pure value) ∨ handler error = throw error) :
    Ensures (handle (interact fun turn world => (look turn, world)) handler) start
      (fun _ world => Idle start world) (Sound config opened) := by
  refine ensures_handle ensures_idle (fun _ idle => idle.toQuiet.sound sound)
    fun error world idle => ?_
  rcases handles error with ⟨value, returned⟩ | raised
  · rw [returned]
    exact ensures_pure idle
  · rw [raised]
    exact ensures_throw (idle.toQuiet.sound sound)

theorem ensures_readObservation (now : Instant) : Ensures (readObservation config now) start
    (fun _ world => Idle start world) (Sound config opened) := ensures_look sound

theorem ensures_query (read : AgentStore → α) : Ensures (query read) start
    (fun value world => Idle start world ∧ value = read world.store) (Sound config opened) :=
  ensures_interact sound fun _ _ idle => ⟨idle, rfl⟩

theorem ensures_readPolicy : Ensures (readPolicy config) start
    (fun policy world => Quiet start world ∧ world.reread = some policy ∧
      world.stopFile = start.stopFile ∧ Known world.adopted policy) (Sound config opened) := by
  refine ensures_interact sound fun turn world idle => ?_
  refine ⟨{ idle.toQuiet with }, rfl, idle.stopFile, ?_⟩
  dsimp only
  split
  · cases cached : world.store.policy with
    | none => exact .inl rfl
    | some policy => exact .inr (idle.policy sound.policy policy cached)
  · exact .inl rfl

theorem ensures_stopFileExists : Ensures stopFileExists start
    (fun answer world => Quiet start world ∧ world.reread = start.reread ∧
      world.stopFile = some answer) (Sound config opened) :=
  ensures_interact sound fun _ _ idle => ⟨{ idle.toQuiet with }, idle.reread, rfl⟩

theorem ensures_stopped : Ensures stopped start
    (fun answer world => Quiet start world ∧ world.reread = start.reread ∧
      (answer = false → world.stopFile = some false)) (Sound config opened) := by
  refine ensures_bind (ensures_cancelled sound) fun answer world idle => ?_
  have held := idle.toQuiet.sound sound
  cases answer with
  | true => exact ensures_pure ⟨idle.toQuiet, idle.reread, nofun⟩
  | false =>
    refine ensures_weaken (ensures_stopFileExists held) (fun answer later looked => ?_)
      fun _ held => held
    obtain ⟨quiet, reread, stop⟩ := looked
    exact ⟨idle.toQuiet.trans quiet, reread.trans idle.reread, fun no => no ▸ stop⟩

/-- A transaction on the database as the other writer left it. -/
theorem ensures_transact {change : AgentStore → AgentStore × α}
    (changed : ∀ world, Idle start world →
      post (change world.store).2 { world with store := (change world.store).1 }) :
    Ensures (transact change) start post (Sound config opened) :=
  ensures_interact sound fun _ world idle => changed world idle

theorem ensures_audit (now : Instant) {payload : Payload}
    (inert : AuditRecord.Inert ⟨stamp now, payload⟩) :
    Ensures (audit now payload) start (fun _ world => Quiet start world)
      (Sound config opened) :=
  ensures_transact sound fun world idle =>
    idle.toQuiet.trans (quiet_append world now payload inert)

end Interactions

theorem ensures_memory {otherwise : World → Prop} {post : Memory → World → Prop}
    (read : post start.memory start) : Ensures memory start post otherwise :=
  ensures_seq (ensures_get (ensures_pure read))

/-- A change of the memory that leaves the progress alone. -/
theorem ensures_remember {otherwise : World → Prop} {change : Memory → Memory}
    (same : (change start.memory).deliveryProgress = start.memory.deliveryProgress) :
    Ensures (remember change) start (fun _ world => Idle start world) otherwise :=
  ensures_modify { Idle.refl start with progress := same }

section Guards

variable (sound : Sound config opened start)
include sound

theorem ensures_resetTracker : Ensures resetTracker start (fun _ world => Idle start world)
    (Sound config opened) := ensures_remember rfl

theorem ensures_updateTracker (obs : Observation) (policy : Policy) :
    Ensures (updateTracker config obs policy) start (fun _ world => Idle start world)
      (Sound config opened) := by
  refine ensures_seq (ensures_memory ?_)
  refine ensures_bind (ensures_remember (by rfl)) fun _ world idle => ?_
  exact ensures_pure idle

/-- What `_dispatch_guard` answers: an outcome that is not NONE rests on a fresh observation of
the same generation, on the policy as it was read again, and on no stop file. -/
structure Guarded (policy : Policy) (original : Observation) (network : Option Network)
    (reserved : Bool) (start : World) (answer : Instant × Option Observation × Decision)
    (world : World) : Prop where
  quiet : Quiet start world
  key : ∀ obs, answer.2.1 = some obs → answer.2.2.outcome ≠ .none →
    obs.generationKey = original.generationKey
  reread : answer.2.2.outcome ≠ .none → world.reread = some policy
  stopFile : answer.2.2.outcome ≠ .none → world.stopFile = some false
  grounds : ∀ obs, answer.2.1 = some obs → answer.2.2.outcome ≠ .none → ∃ history,
    Grounds policy network history answer.1 answer.2.2.outcome ∧
      (reserved = false →
        history = world.store.history answer.1 obs.generationKey policy.actionMode)

omit sound in
/-- A decision not to act needs no grounds. -/
theorem guarded_none {policy : Policy} {original : Observation} {network : Option Network}
    {reserved : Bool} {world : World} {now : Instant} {latest : Option Observation}
    {reason : String} {blockers : List String} (quiet : Quiet start world) :
    Guarded policy original network reserved start (now, latest, .none reason blockers) world where
  quiet := quiet
  key := fun _ _ acts => absurd rfl acts
  reread := fun acts => absurd rfl acts
  stopFile := fun acts => absurd rfl acts
  grounds := fun _ _ acts => absurd rfl acts

theorem ensures_guardHistory (policy : Policy) (obs : Observation) (now : Instant)
    (reserved : Bool) : Ensures (guardHistory policy obs now reserved) start
      (fun history world => Idle start world ∧ (reserved = false →
        history = world.store.history now obs.generationKey policy.actionMode))
      (Sound config opened) := by
  cases reserved with
  | true => exact ensures_pure ⟨Idle.refl start, nofun⟩
  | false =>
    change Ensures (query fun store => store.history now obs.generationKey policy.actionMode) start
      _ _
    exact ensures_weaken (ensures_query sound _) (fun _ _ found => ⟨found.1, fun _ => found.2⟩)
      fun _ held => held

omit sound in
/-- The history only depends on the rows. -/
theorem Quiet.history {world : World} (quiet : Quiet start world) (now : Instant)
    (generationKey : String) (mode : ActionMode) :
    world.store.history now generationKey mode = start.store.history now generationKey mode := by
  simp only [AgentStore.history, AgentStore.claimed, AgentStore.lastCreated,
    AgentStore.countSince, AgentStore.inMode, quiet.actions]

theorem ensures_guardDecision {policy : Policy} {original obs : Observation} (streak : Nat)
    (network : Option Network) (now : Instant) (reserved : Bool)
    (reread : start.reread = some policy)
    (key : obs.generationKey = original.generationKey) :
    Ensures (guardDecision config policy obs streak network now reserved) start
      (Guarded policy original network reserved start) (Sound config opened) := by
  refine ensures_bind (ensures_updateTracker sound obs policy) fun updated world idle => ?_
  have held := idle.toQuiet.sound sound
  refine ensures_bind (ensures_guardHistory held policy obs now reserved)
    fun history counted found => ?_
  obtain ⟨idle', origin⟩ := found
  refine ensures_seq (ensures_memory ?_)
  refine ensures_bind (ensures_stopped (idle'.toQuiet.sound held)) fun answer last looked => ?_
  obtain ⟨quiet, reread', stop⟩ := looked
  have all := (idle.toQuiet.trans idle'.toQuiet).trans quiet
  cases answer with
  | true => exact ensures_pure (guarded_none all)
  | false =>
    refine ensures_pure ⟨all, fun found same _ => ?_, fun _ => ?_, fun _ => stop rfl,
      fun found same acts => ⟨history, decide_grounds acts, fun unreserved => ?_⟩⟩
    · cases same
      exact key
    · rw [reread', idle'.reread, idle.reread, reread]
    · cases same
      rw [origin unreserved, quiet.history]

omit sound in
/-- An observation of another target is refused. -/
theorem key_of_targetMoved {original obs : Observation}
    (same : targetMoved config original obs = none) :
    obs.generationKey = original.generationKey := by
  unfold targetMoved at same
  split at same
  · cases same
  · rename_i alike
    simp only [Bool.or_eq_true, not_or, Bool.not_eq_true, Bool.not_eq_false', decide_eq_false_iff_not]
      at alike
    have identity := alike.1.1
    rw [TransportIdentity.same] at identity
    simp only [Bool.and_eq_true, decide_eq_true_eq] at identity
    exact identity.1.1.1.2

theorem ensures_dispatchGuard (policy : Policy) (original : Observation) (streak : Nat)
    (network : Option Network) (networkCheckedAt : Instant) (reserved : Bool) :
    Ensures (dispatchGuard config policy original streak network networkCheckedAt reserved) start
      (Guarded policy original network reserved start) (Sound config opened) := by
  refine ensures_bind (ensures_readPolicy sound) fun current first looked => ?_
  obtain ⟨quiet, reread, _, _⟩ := looked
  refine ensures_bind (ensures_clock (quiet.sound sound)) fun now second idle => ?_
  have quiet := quiet.trans idle.toQuiet
  have reread := idle.reread.trans reread
  refine ensures_bind (ensures_stopped (quiet.sound sound)) fun answer third checked => ?_
  have quiet := quiet.trans checked.1
  have reread := checked.2.1.trans reread
  split
  · exact ensures_pure (guarded_none quiet)
  · split
    · exact ensures_pure (guarded_none quiet)
    · rename_i same
      split
      · exact ensures_pure (guarded_none quiet)
      · refine ensures_bind (ensures_readObservation (quiet.sound sound) now)
          fun observed fourth idle => ?_
        have quiet := quiet.trans idle.toQuiet
        have reread := idle.reread.trans reread
        have held := quiet.sound sound
        cases observed with
        | error why =>
          refine ensures_bind (ensures_resetTracker held) fun _ fifth idle => ?_
          exact ensures_pure (guarded_none (quiet.trans idle.toQuiet))
        | ok obs =>
          dsimp only
          split
          · refine ensures_bind (ensures_resetTracker held) fun _ fifth idle => ?_
            exact ensures_pure (guarded_none (quiet.trans idle.toQuiet))
          · rename_i unmoved
            have agreed := reread.trans (congrArg some (of_not_not same))
            refine ensures_weaken (ensures_guardDecision held streak network now reserved agreed
              (key_of_targetMoved unmoved)) (fun answer last guarded => ?_) fun _ held => held
            exact { guarded with quiet := quiet.trans guarded.quiet }

end Guards

end LiveStream.Recovery

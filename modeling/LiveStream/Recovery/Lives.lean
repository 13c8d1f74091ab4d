import LiveStream.Recovery.Verification

/-! Whole lives of the agent: the rest of `step`, the loop of `run`, and processes that follow
each other on one database, each killed at any point. -/

namespace LiveStream.Recovery

open LiveStream.Support Script Process

variable {config : Config} {opened start : World}

section Reporting

variable (sound : Sound config opened start)
include sound

theorem ensures_recordDecision (now : Instant) (decision : Decision) (policy : Policy)
    (found : Option Evidence) : Ensures (recordDecision now decision policy found) start
      (fun _ world => Quiet start world) (Sound config opened) := by
  refine ensures_seq (ensures_memory ?_)
  split
  · exact ensures_pure (Quiet.refl start)
  · refine ensures_bind (ensures_remember (by rfl)) fun _ world idle => ?_
    refine ensures_weaken (ensures_audit (idle.toQuiet.sound sound) now ⟨rfl, rfl, rfl⟩)
      (fun _ _ quiet => idle.toQuiet.trans quiet) fun _ held => held

theorem ensures_finish (now : Instant) (policy : Policy) : Ensures (finish now policy) start
    (fun _ => Sound config opened) (Sound config opened) := by
  refine ensures_seq (ensures_memory ?_)
  split
  · refine ensures_bind (ensures_remember (by rfl)) fun _ world idle => ?_
    have held := idle.toQuiet.sound sound
    exact ensures_weaken (ensures_audit held now ⟨rfl, rfl, rfl⟩)
      (fun _ _ quiet => quiet.sound held) fun _ held => held
  · exact ensures_pure sound

theorem ensures_finishStep (now : Instant) : Ensures (finishStep config now) start
    (fun _ => Sound config opened) (Sound config opened) := by
  refine ensures_bind (ensures_readPolicy sound) fun policy world looked => ?_
  have held := looked.1.sound sound
  refine ensures_bind (ensures_stopFileExists held) fun _ last looked => ?_
  exact ensures_finish (looked.1.sound held) now policy

/-- A decision is recorded and the step is over. -/
theorem ensures_report {α : Type} (now : Instant) (decision : Decision) (policy : Policy)
    (found : Option Evidence) (answer : α) :
    Ensures (do
      recordDecision now decision policy found
      finishStep config now
      return answer) start (fun _ => Sound config opened) (Sound config opened) := by
  refine ensures_bind (ensures_recordDecision sound now decision policy found)
    fun _ world quiet => ?_
  refine ensures_bind (ensures_finishStep (quiet.sound sound) now) fun _ last held => ?_
  exact ensures_pure held

end Reporting

/-- The probe is made or not. -/
theorem ensures_mayProbe (sound : Sound config opened start) (probes : Bool) :
    Ensures (mayProbe probes) start (fun _ world => Idle start world) (Sound config opened) := by
  cases probes with
  | true => exact ensures_bind (ensures_probe sound) fun _ _ idle => ensures_pure idle
  | false => exact ensures_pure (Idle.refl start)

/-- No row of an action shows that its fence was closed. -/
theorem quiet_closeFence (world : World) (now : Instant) (actionId : Nat) (done : Bool) :
    Quiet world { world with store := world.store.closeFence now actionId done } := by
  refine ⟨rfl, ⟨[_], rfl, fun record member => ?_⟩, List.Subset.refl _, id, rfl, rfl⟩
  rw [List.mem_singleton.mp member]
  exact ⟨rfl, rfl, rfl⟩

theorem ensures_closeFence (sound : Sound config opened start) (now : Instant) (actionId : Nat)
    (scope : Fields) : Ensures (closeFence now actionId scope) start
      (fun _ => Sound config opened) (Sound config opened) := by
  refine ensures_bind (ensures_clock sound) fun _ world idle => ?_
  have held := idle.toQuiet.sound sound
  refine ensures_seq (ensures_lift (fun _ _ => ?_) held)
  refine ensures_bind (ensures_handled held fun error => ?_) fun response world idle => ?_
  · by_cases caught : isException error = true
    · exact .inl ⟨_, if_pos caught⟩
    · exact .inr (if_neg caught)
  · have held := idle.toQuiet.sound held
    refine ensures_transact held fun world idle => ?_
    exact (idle.toQuiet.trans (quiet_closeFence world now actionId _)).sound held

theorem ensures_reconcileScopes (now : Instant) (endpoint : Option Endpoint)
    (pending : List Action) (scopes : List Fields) {start : World}
    (sound : Sound config opened start) :
    Ensures (reconcileScopes now endpoint pending scopes) start (fun _ => Sound config opened)
      (Sound config opened) := by
  induction scopes generalizing start with
  | nil => exact ensures_pure sound
  | cons scope rest inductionHypothesis =>
    refine ensures_seq (ensures_lift (fun found _ => ?_) sound)
    cases found with
    | none => exact inductionHypothesis sound
    | some actionId =>
      dsimp only
      split
      · exact inductionHypothesis sound
      · refine ensures_bind (ensures_mayProbe sound endpoint.isSome) fun network world idle => ?_
        have held := idle.toQuiet.sound sound
        split
        · exact ensures_weaken (ensures_audit held now ⟨rfl, rfl, rfl⟩)
            (fun _ _ quiet => quiet.sound held) fun _ held => held
        · exact ensures_bind (ensures_closeFence held now actionId scope)
            fun _ world held => inductionHypothesis held

theorem ensures_reconcileExecutor (sound : Sound config opened start) (now : Instant)
    (obs : Observation) : Ensures (reconcileExecutor config now obs) start
      (fun _ => Sound config opened) (Sound config opened) := by
  refine ensures_seq (ensures_memory ?_)
  split
  · exact ensures_pure sound
  · refine ensures_bind (ensures_query sound _) fun pending world found => ?_
    have held := found.1.toQuiet.sound sound
    split
    · exact ensures_pure held
    · refine ensures_bind (ensures_remember (by rfl)) fun _ world idle => ?_
      have held := idle.toQuiet.sound held
      refine ensures_bind (ensures_handled held fun error => ?_) fun scopes world idle => ?_
      · by_cases caught : isExchangeError error = true
        · exact .inl ⟨[], if_pos caught⟩
        · exact .inr (if_neg caught)
      · exact ensures_reconcileScopes now _ pending scopes (idle.toQuiet.sound held)

theorem ensures_mayReconcile (sound : Sound config opened start) (now : Instant)
    (policy : Policy) (obs : Observation) : Ensures (mayReconcile config now policy obs) start
      (fun _ => Sound config opened) (Sound config opened) := by
  unfold mayReconcile
  split
  · exact ensures_reconcileExecutor sound now obs
  · exact ensures_pure sound

section Stepping

variable (sound : Sound config opened start)
include sound

theorem ensures_conclude (policy : Policy) (decision : Decision) (found : Evidence) :
    Ensures (conclude config policy decision found) start (fun _ => Sound config opened)
      (Sound config opened) := by
  refine ensures_bind (ensures_clock sound) fun now first idle => ?_
  have quiet := idle.toQuiet
  refine ensures_bind (ensures_readObservation (quiet.sound sound) now)
    fun observed second idle => ?_
  have held := (quiet.trans idle.toQuiet).sound sound
  cases observed with
  | error why =>
    refine ensures_bind (ensures_remember (by rfl)) fun _ third idle => ?_
    exact ensures_report (idle.toQuiet.sound held) now _ policy _ _
  | ok latest =>
    refine ensures_bind (ensures_verifyActions held now policy latest) fun _ third held => ?_
    refine ensures_bind (ensures_mayReconcile held now policy latest) fun _ fourth held => ?_
    exact ensures_report held now decision policy _ _

/-- A decision is followed, unless it is to do nothing. -/
theorem ensures_followed {policy : Policy} (decision : Decision) (obs : Observation)
    (streak : Nat) (network : Option Network) (networkCheckedAt : Instant) (found : Evidence)
    (known : Known start.adopted policy) :
    Ensures (if decision.outcome = .none then conclude config policy decision found
      else do
        let acted ← actOn config decision policy obs streak network networkCheckedAt
        conclude config policy acted found) start (fun _ => Sound config opened)
      (Sound config opened) := by
  split
  · exact ensures_conclude sound policy decision found
  · rename_i acts
    refine ensures_bind (ensures_actOn sound obs streak network networkCheckedAt known acts)
      fun acted world held => ?_
    exact ensures_conclude held policy acted found

theorem ensures_stepOn (now : Instant) {policy : Policy} (stop : Bool) (obs : Observation)
    (known : Known start.adopted policy) :
    Ensures (stepOn config now policy stop obs) start (fun _ => Sound config opened)
      (Sound config opened) := by
  refine ensures_bind (ensures_updateTracker sound obs policy) fun updated first idle => ?_
  have quiet := idle.toQuiet
  refine ensures_seq (ensures_memory ?_)
  refine ensures_bind (ensures_mayProbe (quiet.sound sound) _) fun network second idle => ?_
  have quiet := quiet.trans idle.toQuiet
  refine ensures_bind (ensures_clock (quiet.sound sound)) fun networkCheckedAt third idle => ?_
  have quiet := quiet.trans idle.toQuiet
  refine ensures_bind (ensures_query (quiet.sound sound) _) fun history fourth found => ?_
  have quiet := quiet.trans found.1.toQuiet
  exact ensures_followed (quiet.sound sound) _ obs updated.2 network networkCheckedAt _
    (known.mono quiet.adopted)

theorem ensures_step : Ensures (step config) start (fun _ => Sound config opened)
    (Sound config opened) := by
  refine ensures_bind (ensures_clock sound) fun now first idle => ?_
  have held := idle.toQuiet.sound sound
  refine ensures_bind (ensures_readPolicy held) fun policy second looked => ?_
  obtain ⟨quiet, _, _, known⟩ := looked
  have held := quiet.sound held
  refine ensures_bind (ensures_stopFileExists held) fun stop third looked => ?_
  have known : Known third.adopted policy := known.mono looked.1.adopted
  have held := looked.1.sound held
  refine ensures_bind (ensures_readObservation held now) fun observed fourth idle => ?_
  have known := known.mono idle.adopted
  have held := idle.toQuiet.sound held
  cases observed with
  | error why =>
    refine ensures_bind (ensures_remember (by rfl)) fun _ fifth idle => ?_
    have held := idle.toQuiet.sound held
    refine ensures_bind (ensures_recordDecision held now _ policy none) fun _ sixth quiet => ?_
    refine ensures_bind (ensures_finish (quiet.sound held) now policy) fun _ last held => ?_
    exact ensures_pure held
  | ok obs => exact ensures_stepOn held now stop obs known

omit sound in
/-- A row that was left RESERVED gets an unknown outcome. -/
theorem ensures_closeInterruptedActions (rows : List Action) {start : World}
    (sound : Sound config opened start) (members : ∀ row ∈ rows, row ∈ start.store.actions)
    (distinct : (rows.map (·.id)).Nodup) :
    Ensures (closeInterruptedActions rows) start (fun _ => Sound config opened)
      (Sound config opened) := by
  induction rows generalizing start with
  | nil => exact ensures_pure sound
  | cons row rest inductionHypothesis =>
    rw [List.map_cons, List.nodup_cons] at distinct
    have owned := members row List.mem_cons_self
    unfold closeInterruptedActions
    split
    · rename_i reserved
      refine ensures_bind (ensures_clock sound) fun now first idle => ?_
      have quiet := idle.toQuiet
      refine ensures_bind (M := fun _ world => Sound config opened world ∧
          Spares row.id start world) (ensures_transact (quiet.sound sound) fun world idle => ?_)
        fun _ world left => ?_
      · have quiet := quiet.trans idle.toQuiet
        refine ⟨(quiet.sound sound).complete (quiet.actions.symm ▸ owned) reserved (by simp) now
          (fun request none => by cases none), fun other found apart => ?_⟩
        exact mem_of_spared (quiet.actions.symm ▸ found) apart
      · refine inductionHypothesis left.1 (fun other member => ?_) distinct.2
        refine left.2 other (members other (List.mem_cons_of_mem _ member)) fun same => ?_
        exact distinct.1 (same ▸ List.mem_map_of_mem member)
    · exact inductionHypothesis sound
        (fun other member => members other (List.mem_cons_of_mem _ member)) distinct.2

theorem ensures_initial : Ensures initial start (fun _ => Sound config opened)
    (Sound config opened) := by
  refine ensures_bind (ensures_clock sound) fun now first idle => ?_
  have held := idle.toQuiet.sound sound
  refine ensures_seq (ensures_modify ?_)
  have fresh : Sound config opened { first with memory := .new now } :=
    held.remember fun _ _ _ none => by cases none
  refine ensures_bind (ensures_query fresh _) fun rows world found => ?_
  obtain ⟨idle, rfl⟩ := found
  have held := idle.toQuiet.sound fresh
  have distinct : (world.store.actions.map (·.id)).Nodup := held.numbered ▸ List.nodup_range'
  exact ensures_closeInterruptedActions _ held (fun _ member => (List.mem_filter.mp member).1)
    (distinct.sublist (List.filter_sublist.map _))

theorem ensures_round : Ensures (round config) start
    (fun _ => Sound config opened) (Sound config opened) := by
  refine ensures_bind (ensures_cancelled sound) fun cancel world idle => ?_
  have held := idle.toQuiet.sound sound
  cases cancel with
  | true =>
    refine ensures_bind (ensures_clock held) fun now world idle => ?_
    have held := idle.toQuiet.sound held
    refine ensures_bind (ensures_audit held now ⟨rfl, rfl, rfl⟩) fun _ world quiet => ?_
    exact ensures_pure (quiet.sound held)
  | false =>
    have body : Ensures (do let _ ← step config; return .inl () : Process (Unit ⊕ Unit)) world
        (fun _ => Sound config opened) (Sound config opened) :=
      ensures_bind (ensures_step held) fun _ _ held => ensures_pure held
    refine ensures_handle body (fun _ held => held) fun error later held => ?_
    split
    · exact ensures_pure held
    · exact ensures_throw held

theorem ensures_run : Ensures (run config) start (fun _ => Sound config opened)
    (Sound config opened) := by
  refine ensures_bind (ensures_initial sound) fun _ world held => ?_
  refine ensures_bind (ensures_clock held) fun now world idle => ?_
  have held := idle.toQuiet.sound held
  refine ensures_bind (ensures_audit held now ⟨rfl, rfl, rfl⟩) fun _ world quiet => ?_
  refine ensures_loop (I := fun _ => Sound config opened) (fun _ _ held => held)
    (fun _ later held => ?_) (quiet.sound held)
  refine ensures_weaken (ensures_round held) (fun outcome _ held => ?_) fun _ held => held
  cases outcome <;> exact held

end Stepping

/-- A database without rows, and nothing sent. -/
def World.initial : World where
  store := .empty
  memory := .new 0
  reread := none
  stopFile := none
  sent := []
  adopted := []

/-- The world after a process that got so many turns. -/
def World.live (config : Config) (world : World) (turns : List Turn) : World :=
  ((run config).run turns world).2.2

/-- The world after processes that followed each other, each with its turns. -/
def World.lives (config : Config) (world : World) (lives : List (List Turn)) : World :=
  lives.foldl (World.live config) world

theorem sound_initial : Sound config .initial .initial where
  policy := fun _ none => by cases none
  numbered := rfl
  heads := rfl
  reserves := fun _ none => by cases none
  results := fun _ none => by cases none
  resultIds := fun _ none => by cases none
  localized := fun _ none => by cases none
  allowed := fun _ => eachAfter_nil
  placed := fun _ none => by cases none
  progress := fun _ _ _ none => by cases none
  evidenced := eachAfter_nil
  justified := fun _ none => by cases none
  claimed := fun _ none => by cases none
  once := List.nodup_nil
  kept := fun _ none => by cases none
  later := List.prefix_refl _
  resent := ⟨[], rfl, fun _ none => by cases none⟩

/-- A sound world is one to look back to. -/
theorem Sound.reopen {world : World} (sound : Sound config opened world) :
    Sound config world world :=
  { sound with
    later := List.prefix_refl _
    resent := ⟨[], (List.append_nil _).symm, fun _ none => by cases none⟩ }

/-- What one life preserves. -/
theorem Sound.live {world : World} (sound : Sound config opened world) (turns : List Turn) :
    Sound config opened (world.live config turns) := by
  have left := ensures_run sound turns
  unfold World.live
  rcases ended : (run config).run turns world with ⟨value | error | _, remaining, after⟩ <;>
    rw [ended] at left <;> exact left

/-- What any number of lives preserve. -/
theorem Sound.lives {world : World} (sound : Sound config opened world)
    (lives : List (List Turn)) : Sound config opened (world.lives config lives) := by
  unfold World.lives
  induction lives generalizing world with
  | nil => exact sound
  | cons turns rest inductionHypothesis => exact inductionHypothesis (sound.live turns)

end LiveStream.Recovery

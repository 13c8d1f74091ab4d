import LiveStream.Recovery.Actions

/-! `_verify` keeps a world sound: every result that claims a delivery rests on samples that the
log bears out. -/

namespace LiveStream.Recovery

open LiveStream.Support Script Process

variable {config : Config} {opened start : World}

theorem alike_route {first second : DeliverySample} (alike : first.alike second = true) :
    first.deliveryRoute.equal second.deliveryRoute = true ∧
      first.deliveryRouteGeneration.equal second.deliveryRouteGeneration = true := by
  simp only [DeliverySample.alike, Bool.and_eq_true] at alike
  exact ⟨alike.1.2, alike.2⟩

section Judging

variable {policy : Policy} {row : Action} {obs : Observation} {now : Instant}
  {previous : Option DeliverySample} {progress : Option (DeliverySample × DeliverySample)}
  {first second : DeliverySample}

/-- Only a response with a request has samples after it. -/
theorem request_of_afterRequest {sample : Option DeliverySample} {response : Response}
    (after : afterRequest sample response = true) : ∃ request, response.request = some request := by
  cases answered : response.request with
  | some request => exact ⟨request, rfl⟩
  | none =>
    unfold afterRequest at after
    rw [answered] at after
    cases sample <;> cases after

/-- The progress that counts is of the route that is observed. -/
def Alike (obs : Observation) (pair : DeliverySample × DeliverySample) : Prop :=
  pair.2.alike (deliverySample obs) = true ∨ pair.2 = deliverySample obs

theorem advanceProgress_some
    (advanced : advanceProgress config policy row (deliverySample obs) previous progress =
      some (first, second)) :
    progress = some (first, second) ∨
      second = deliverySample obs ∧ ∃ request, Progressed config row.loaded request first second := by
  unfold advanceProgress at advanced
  dsimp only at advanced
  split at advanced
  · rename_i sends
    simp only [Bool.and_eq_true] at sends
    obtain ⟨⟨later, earlier⟩, sending⟩ := sends
    obtain ⟨found, present, same⟩ := Option.map_eq_some_iff.mp advanced
    cases same
    rw [present] at earlier sending
    obtain ⟨request, answered⟩ := request_of_afterRequest later
    rw [answered] at sending
    exact .inr ⟨rfl, request, answered, earlier, later, sending⟩
  · exact .inl advanced

/-- What the branch for enforced actions finds. -/
theorem judgeEnforced_progress
    (found : (judgeEnforced config policy row obs now previous progress).progress =
      some (first, second)) :
    progress = some (first, second) ∨
      second = deliverySample obs ∧ ∃ request, Progressed config row.loaded request first second := by
  unfold judgeEnforced at found
  dsimp only at found
  split at found
  · split at found
    · exact .inl found
    · split at found
      · exact advanceProgress_some found
      · split at found <;> exact advanceProgress_some found
  · split at found <;> exact .inl found

/-- A result that claims a delivery comes from a progress and the observed runtime. -/
theorem judgeEnforced_resumed {result : VerifyResult}
    (judged : (judgeEnforced config policy row obs now previous progress).result = some result)
    (resumed : result.resumed = true) :
    sameRuntime row.loaded obs = true ∧
      (judgeEnforced config policy row obs now previous progress).progress.isSome = true ∧
        (if result = .deliveryResumed then row.state = .effectObserved
          else row.state ≠ .effectObserved) := by
  unfold judgeEnforced at judged ⊢
  dsimp only at judged ⊢
  split at judged
  · rename_i changed
    rw [if_pos changed]
    split at judged
    · cases judged
      cases resumed
    · rename_i same
      rw [if_neg same]
      have runtime : sameRuntime row.loaded obs = true := by
        by_contra other
        exact same (.inl (by simpa using other))
      split at judged
      · rename_i observed
        rw [if_pos observed]
        cases judged
        exact ⟨runtime, observed.1, by simp [observed.2]⟩
      · rename_i unobserved
        rw [if_neg unobserved]
        split at judged
        · rename_i late
          rw [if_pos late]
          cases judged
          unfold lateResult at resumed ⊢
          split at resumed
          · rename_i progressed
            refine ⟨runtime, progressed, ?_⟩
            simp only [progressed, if_true, reduceCtorEq, if_false]
            exact fun observed => unobserved ⟨progressed, observed⟩
          · split at resumed <;> cases resumed
        · cases judged
  · split at judged
    · cases judged
      unfold lateResult at resumed
      simp only [Bool.false_eq_true, if_false] at resumed
      split at resumed <;> cases resumed
    · cases judged

theorem judgeDryRun_facts (result : VerifyResult) :
    (judgeDryRun policy row obs now progress).progress = progress ∧
      ((judgeDryRun policy row obs now progress).result = some result →
        result.resumed = false ∧ result ≠ .recovered) := by
  unfold judgeDryRun
  dsimp only
  split
  · exact ⟨rfl, fun judged => by cases judged; simp [VerifyResult.resumed]⟩
  · split
    · exact ⟨rfl, fun judged => by cases judged; simp [VerifyResult.resumed]⟩
    · split
      · exact ⟨rfl, fun judged => by cases judged; simp [VerifyResult.resumed]⟩
      · exact ⟨rfl, fun judged => by cases judged⟩

/-- The label of older agents is never used. -/
theorem judgeEnforced_current :
    (judgeEnforced config policy row obs now previous progress).result ≠ some .recovered := by
  have late : ∀ progressed, lateResult row progressed ≠ .recovered := by
    intro progressed
    unfold lateResult
    split
    · simp
    · split <;> simp
  unfold judgeEnforced
  dsimp only
  split
  · split
    · simp
    · split
      · simp
      · split
        · simpa using late _
        · simp
  · split
    · simpa using late _
    · simp

/-- The progress that a judgment keeps is one of the row, and of the observed route. -/
theorem judge_progress
    (known : ∀ first second, progress = some (first, second) →
      ∃ request, Progressed config row.loaded request first second)
    (found : (judge config policy row obs now previous progress).progress = some (first, second)) :
    (∃ request, Progressed config row.loaded request first second) ∧ Alike obs (first, second) := by
  have current : ∀ first second,
      progress.filter (fun pair => pair.2.alike (deliverySample obs)) = some (first, second) →
        (∃ request, Progressed config row.loaded request first second) ∧
          Alike obs (first, second) := by
    intro first second kept
    obtain ⟨present, alike⟩ := Option.filter_eq_some_iff.mp kept
    exact ⟨known first second present, .inl alike⟩
  unfold judge at found
  dsimp only at found
  split at found
  · exact current first second found
  · split at found
    · rcases judgeEnforced_progress found with kept | ⟨sampled, progressed⟩
      · exact current first second kept
      · exact ⟨progressed, .inr sampled⟩
    · rw [(judgeDryRun_facts .recovered).1] at found
      exact current first second found

theorem judge_result {result : VerifyResult}
    (judged : (judge config policy row obs now previous progress).result = some result) :
    result ≠ .recovered ∧ (result.resumed = true →
      row.mode = .enforce ∧ row.state ≠ .rejected ∧ row.state ≠ .effectFailed ∧
        row.state ≠ .cancelledBeforeSend ∧ sameRuntime row.loaded obs = true ∧
        (judge config policy row obs now previous progress).progress.isSome = true ∧
        (if result = .deliveryResumed then row.state = .effectObserved
          else row.state ≠ .effectObserved)) := by
  unfold judge at judged ⊢
  dsimp only at judged ⊢
  split at judged
  · cases judged
    exact ⟨by simp, fun resumed => by cases resumed⟩
  · rename_i executed
    rw [if_neg executed]
    push Not at executed
    split at judged
    · rename_i enforced
      rw [if_pos enforced]
      refine ⟨fun same => judgeEnforced_current (same ▸ judged), fun resumed => ?_⟩
      obtain ⟨runtime, progressed, state⟩ := judgeEnforced_resumed judged resumed
      exact ⟨enforced, executed.1, executed.2.1, executed.2.2, runtime, progressed, state⟩
    · obtain ⟨unresumed, current⟩ := (judgeDryRun_facts _).2 judged
      exact ⟨current, fun resumed => by rw [unresumed] at resumed; cases resumed⟩

end Judging

/-- The rows other than one are still there. -/
def Spares (actionId : Nat) (start world : World) : Prop :=
  ∀ other ∈ start.store.actions, other.id ≠ actionId → other ∈ world.store.actions

theorem Quiet.spares {world : World} (quiet : Quiet start world) (actionId : Nat) :
    Spares actionId start world :=
  fun _ member _ => quiet.actions.symm ▸ member

theorem Spares.trans {actionId : Nat} {first second third : World}
    (spares : Spares actionId first second) (later : Spares actionId second third) :
    Spares actionId first third :=
  fun other member apart => later other (spares other member apart) apart

theorem mem_of_spared {store : AgentStore} {actionId : Nat} {condition : Action → Bool}
    {change : Action → Action} {other : Action} (member : other ∈ store.actions)
    (apart : other.id ≠ actionId) :
    other ∈ (store.updateAction actionId condition change).actions :=
  mem_updateAction.mpr ⟨other, member, (if_neg fun both => apart both.1).symm⟩

/-- The verification that `_verify` records is borne out by the log. -/
theorem Sound.evidence {world : World} (sound : Sound config opened world) {policy : Policy}
    {row : Action} {obs : Observation} {now : Instant} {previous : Option DeliverySample}
    {progress : Option (DeliverySample × DeliverySample)} {result : VerifyResult}
    (member : row ∈ world.store.actions)
    (known : ∀ first second, progress = some (first, second) →
      ∃ request, Progressed config row.loaded request first second)
    (judged : (judge config policy row obs now previous progress).result = some result) :
    Evidenced config world.adopted world.store.audit ⟨stamp now, .actionVerified
      (verification row obs (judge config policy row obs now previous progress) result)⟩ := by
  intro verification verified
  cases verified
  obtain ⟨current, facts⟩ := judge_result judged
  refine ⟨current, fun resumed => ?_⟩
  obtain ⟨enforced, rejected, failed, cancelled, runtime, progressed, state⟩ := facts resumed
  obtain ⟨⟨first, second⟩, found⟩ := Option.isSome_iff_exists.mp progressed
  obtain ⟨⟨request, sends⟩, alike⟩ := judge_progress known found
  have placed := sound.placed row member request sends.answered
  have routes : second.deliveryRoute.equal (obs.get "delivery_route") = true ∧
      second.deliveryRouteGeneration.equal (obs.get "delivery_route_generation") = true := by
    rcases alike with alike | rfl
    · exact alike_route alike
    · have again := sends.sending
      simp only [sendingProgress, Bool.and_eq_true] at again
      obtain ⟨route, generation⟩ := alike_route again.1.1.1.1.1.1
      exact ⟨Value.equal_trans (Value.equal_symm route) route,
        Value.equal_trans (Value.equal_symm generation) generation⟩
  have bound : request.deliveryRoute.equal (obs.get "delivery_route") = true ∧
      request.deliveryRouteGeneration.equal (obs.get "delivery_route_generation") = true := by
    rw [sameRuntime, sends.answered] at runtime
    simp only [Option.any_some, Bool.and_eq_true] at runtime
    exact ⟨runtime.1.2, runtime.2⟩
  have expected : row.state = result.expected := by
    unfold VerifyResult.expected
    split
    · rename_i label
      simpa [label] using state
    · rename_i label
      rw [if_neg label] at state
      obtain ⟨open_, dry⟩ := placed.ended
      cases shape : row.state <;> simp_all
  refine ⟨row.head, row.loaded, request, first, ?_⟩
  refine ⟨sound.reserves row member, ?_, expected, enforced, placed.key, placed.gap, placed.issued,
    ?_, ?_, ?_, ?_⟩
  · refine (sound.results row member).trans ?_
    rw [Action.outcome, if_neg placed.ended.1]
    rfl
  · simp [LiveStream.Recovery.verification, found]
  · simpa [LiveStream.Recovery.verification, found] using sends
  · simpa [LiveStream.Recovery.verification, found] using
      Value.equal_trans routes.1 (Value.equal_symm bound.1)
  · simpa [LiveStream.Recovery.verification, found] using
      Value.equal_trans routes.2 (Value.equal_symm bound.2)

section Verifying

variable (sound : Sound config opened start)
include sound

theorem ensures_verifyRow (policy : Policy) {row : Action} (obs : Observation) (now : Instant)
    (member : row ∈ start.store.actions) :
    Ensures (verifyRow config policy row obs now) start
      (fun _ world => Sound config opened world ∧ Spares row.id start world)
      (Sound config opened) := by
  have known : ∀ first second, start.memory.deliveryProgress row.id = some (first, second) →
      ∃ request, Progressed config row.loaded request first second := by
    intro first second found
    obtain ⟨action, owned, same, progressed⟩ := sound.progress row.id first second found
    exact (sound.unique owned member same) ▸ progressed
  refine ensures_seq (ensures_memory ?_)
  refine ensures_seq (ensures_modify ?_)
  set judgment := judge config policy row obs now (start.memory.recoverySamples row.id)
    (start.memory.deliveryProgress row.id) with judgment_def
  set memory : Memory := { start.memory with
    deliveryProgress := Function.update start.memory.deliveryProgress row.id judgment.progress
    recoverySamples :=
      if judgment.sampled then
        Function.update start.memory.recoverySamples row.id (some (deliverySample obs))
      else start.memory.recoverySamples } with memory_def
  have held : Sound config opened { start with memory } := by
    refine sound.remember fun actionId first second found => ?_
    by_cases here : actionId = row.id
    · subst here
      rw [memory_def] at found
      simp only [Function.update_self] at found
      obtain ⟨progressed, _⟩ := judge_progress known found
      exact ⟨row, member, rfl, progressed⟩
    · rw [memory_def] at found
      simp only [Function.update_of_ne here] at found
      exact sound.progress actionId first second found
  have spares : Spares row.id start { start with memory } := fun _ found _ => found
  cases judged : judgment.result with
  | none => exact ensures_pure ⟨held, spares⟩
  | some result =>
    refine ensures_bind (M := fun _ world => Sound config opened world ∧ Spares row.id start world)
      (ensures_transact held fun world idle => ?_) fun _ world left => ?_
    · have later := idle.toQuiet.sound held
      have owned : row ∈ world.store.actions := idle.actions.symm ▸ member
      refine ⟨later.verify now (later.evidence owned known judged), fun other found apart => ?_⟩
      exact mem_of_spared (idle.actions.symm ▸ found) apart
    · refine ensures_modify ⟨left.1.remember fun actionId first second found => ?_, left.2⟩
      by_cases here : actionId = row.id
      · subst here
        simp only [Function.update_self] at found
        cases found
      · simp only [Function.update_of_ne here] at found
        exact left.1.progress actionId first second found

theorem ensures_readStatus : Ensures readStatus start (fun _ world => Idle start world)
    (Sound config opened) := by
  refine ensures_handled sound fun error => ?_
  by_cases caught : isExchangeError error = true
  · exact .inl ⟨[], by simp [caught]⟩
  · exact .inr (by simp [caught])

/-- The executor is asked, and the row is reconciled if its status proves the effect. -/
theorem ensures_askExecutor {row : Action} (obs : Observation)
    (member : row ∈ start.store.actions) (unknown : row.state = .outcomeUnknown) :
    Ensures (askExecutor config row obs) start
      (fun answer world => Sound config opened world ∧ Spares row.id start world ∧
        ∀ next, answer = some next → next.1 ∈ world.store.actions ∧ next.1.id = row.id)
      (Sound config opened) := by
  refine ensures_bind (ensures_readStatus sound) fun status first idle => ?_
  have quiet := idle.toQuiet
  refine ensures_bind (ensures_clock (quiet.sound sound)) fun readAt second idle => ?_
  have quiet := quiet.trans idle.toQuiet
  refine ensures_bind (ensures_readObservation (quiet.sound sound) readAt)
    fun observed third idle => ?_
  have quiet := quiet.trans idle.toQuiet
  have held := quiet.sound sound
  have nothing : ∀ next : Action × Observation × Instant, none = some next →
      next.1 ∈ third.store.actions ∧ next.1.id = row.id := fun _ same => by cases same
  cases observed with
  | error why => exact ensures_pure ⟨held, quiet.spares _, nothing⟩
  | ok latest =>
    dsimp only
    split
    · exact ensures_pure ⟨held, quiet.spares _, nothing⟩
    · refine ensures_bind (ensures_clock held) fun now fourth idle => ?_
      have quiet := quiet.trans idle.toQuiet
      have held := quiet.sound sound
      refine ensures_seq (ensures_lift (fun proves _ => ?_) held)
      cases proves with
      | false =>
        refine ensures_pure ⟨held, quiet.spares _, fun next same => ?_⟩
        cases same
        exact ⟨quiet.actions.symm ▸ member, rfl⟩
      | true =>
        refine ensures_bind (ensures_clock held) fun reconciledAt fifth idle => ?_
        have quiet := quiet.trans idle.toQuiet
        have held := quiet.sound sound
        refine ensures_bind (M := fun _ world => Sound config opened world ∧
            Spares row.id start world ∧
            ({ row with
              state := .effectObserved
              response := some { row.loaded with executorReconciliation := some status } } :
                Action) ∈ world.store.actions)
          (ensures_transact held fun world idle => ?_) fun _ world left => ?_
        · have quiet := quiet.trans idle.toQuiet
          have owned : row ∈ world.store.actions := quiet.actions.symm ▸ member
          have some_row : (world.store.actions.any fun other =>
              other.id = row.id && other.state = .outcomeUnknown) = true :=
            List.any_eq_true.mpr ⟨row, owned, by simp [unknown]⟩
          refine ⟨(quiet.sound sound).reconcile owned unknown reconciledAt status,
            fun other found apart => ?_, ?_⟩
          · dsimp only
            rw [AgentStore.reconcileObservedAction, if_pos some_row]
            exact mem_of_spared (quiet.actions.symm ▸ found) apart
          · dsimp only
            rw [AgentStore.reconcileObservedAction, if_pos some_row]
            exact mem_updateAction.mpr ⟨row, owned, (if_pos ⟨rfl, decide_eq_true unknown⟩).symm⟩
        · refine ensures_pure ⟨left.1, left.2.1, fun next same => ?_⟩
          cases same
          exact ⟨left.2.2, rfl⟩

end Verifying

theorem unknown_of_asks {row : Action} {obs : Observation} {queried : Bool}
    (asked : asks row obs queried = true) : row.state = .outcomeUnknown := by
  simp only [asks, Bool.and_eq_true, decide_eq_true_eq] at asked
  exact asked.1.1.2

/-- The loop over rows with different ids. -/
theorem ensures_verifyRows (policy : Policy) (rows : List Action) (queried : Bool)
    (obs : Observation) (now : Instant) {start : World} (sound : Sound config opened start)
    (members : ∀ row ∈ rows, row ∈ start.store.actions) (distinct : (rows.map (·.id)).Nodup) :
    Ensures (verifyRows config policy rows queried obs now) start
      (fun _ => Sound config opened) (Sound config opened) := by
  induction rows generalizing start queried obs now with
  | nil => exact ensures_pure sound
  | cons row rest inductionHypothesis =>
    rw [List.map_cons, List.nodup_cons] at distinct
    have apart : ∀ other ∈ rest, other.id ≠ row.id := fun other member same =>
      distinct.1 (same ▸ List.mem_map_of_mem member)
    have owned := members row List.mem_cons_self
    have others : ∀ {world : World}, Spares row.id start world →
        ∀ other ∈ rest, other ∈ world.store.actions := fun spares other member =>
      spares other (members other (List.mem_cons_of_mem _ member)) (apart other member)
    unfold verifyRows
    split
    · rename_i asked
      refine ensures_bind (ensures_askExecutor sound obs owned (unknown_of_asks asked))
        fun answer world left => ?_
      obtain ⟨held, spares, next⟩ := left
      cases answer with
      | none =>
        refine ensures_bind (ensures_remember (by rfl)) fun _ later idle => ?_
        exact inductionHypothesis _ _ _ (idle.toQuiet.sound held)
          (others (spares.trans (idle.toQuiet.spares _))) distinct.2
      | some found =>
        obtain ⟨current, latest, later⟩ := found
        obtain ⟨present, same⟩ := next _ rfl
        refine ensures_bind (ensures_verifyRow held policy latest later present)
          fun _ last left => ?_
        exact inductionHypothesis _ _ _ left.1 (others (spares.trans (same ▸ left.2))) distinct.2
    · refine ensures_bind (ensures_verifyRow sound policy obs now owned) fun _ last left => ?_
      exact inductionHypothesis _ _ _ left.1 (others left.2) distinct.2

/-- `_verify`. -/
theorem ensures_verifyActions {start : World} (sound : Sound config opened start) (now : Instant)
    (policy : Policy) (obs : Observation) :
    Ensures (verifyActions config now policy obs) start (fun _ => Sound config opened)
      (Sound config opened) := by
  refine ensures_bind (ensures_query sound _) fun rows world found => ?_
  obtain ⟨idle, rfl⟩ := found
  have held := idle.toQuiet.sound sound
  have distinct : (world.store.actions.map (·.id)).Nodup := held.numbered ▸ List.nodup_range'
  refine ensures_verifyRows policy _ false obs now held (fun row member => ?_) ?_
  · exact (List.mem_filter.mp member).1
  · exact distinct.sublist (List.filter_sublist.map _)

end LiveStream.Recovery

import LiveStream.Delivery.RouteSwitch

/-! When a rejected route switch has done nothing: the checks that can reject are told apart
from the parts that cannot, and only a check behind the stop of the primary publisher can
reject a switch that has already acted. -/

namespace LiveStream.Delivery

open LiveStream.Support LiveStream.Boundary

variable {α β : Type}

/-- Left by `EffectRejected`, which the executor records with no physical effect. -/
def Rejected : Exit Raised α → Prop
  | .raised (.effectRejected _) => True
  | .raised (.outcomeUnknown _ _) | .raised (.error _) | .done _ | .killed => False

/-- A part that never raises `EffectRejected`. -/
def NeverRejects (part : Part α) : Prop := ∀ turns engine, ¬ Rejected (part.run turns engine).1

theorem neverRejects_pure (value : α) : NeverRejects (pure value) := fun _ _ => id

theorem neverRejects_ask (answer : Except PyError α) : NeverRejects (ask answer) := by
  cases answer <;> exact fun _ _ => id

theorem neverRejects_unknown (reason : String) (result : Fields) :
    NeverRejects (unknown reason result : Part α) := fun _ _ => id

theorem neverRejects_error (error : PyError) :
    NeverRejects (Script.throw (.error error) : Part α) := fun _ _ => id

theorem neverRejects_raiseWhen (condition : Bool) {raised : Raised}
    (other : ∀ reason, raised ≠ .effectRejected reason) : NeverRejects (raiseWhen condition raised) := by
  unfold raiseWhen
  split_ifs
  · intro turns engine
    cases raised with
    | effectRejected reason => exact absurd rfl (other reason)
    | outcomeUnknown reason result => exact id
    | error error => exact id
  · exact neverRejects_pure ()

theorem neverRejects_modify (change : Engine → Engine) : NeverRejects (Script.modify change) :=
  fun _ _ => id

theorem neverRejects_get : NeverRejects Script.get := fun _ _ => id

theorem neverRejects_bind {part : Part α} {next : α → Part β} (first : NeverRejects part)
    (rest : ∀ value, NeverRejects (next value)) : NeverRejects (part >>= next) := by
  intro turns engine
  have left := first turns engine
  rw [Script.run_bind]
  rcases ended : part.run turns engine with ⟨value | error | _, remaining, after⟩ <;>
    rw [ended] at left
  · exact rest value remaining after
  · cases error with
    | effectRejected reason => exact fun _ => left trivial
    | outcomeUnknown reason result => exact id
    | error error => exact id
  · exact id

theorem neverRejects_issue (act : Issued) (answer : Except PyError α) :
    NeverRejects (issue act answer) :=
  neverRejects_bind (neverRejects_modify _) fun _ => neverRejects_ask answer

/-- What the handler raises is what counts. -/
theorem neverRejects_handle {part : Part α} {handler : Raised → Part α}
    (handled : ∀ error, (∀ reason, error ≠ .effectRejected reason) → NeverRejects (handler error))
    (first : NeverRejects part) : NeverRejects (Script.handle part handler) := by
  intro turns engine
  have left := first turns engine
  simp only [Script.handle]
  rcases ended : part.run turns engine with ⟨value | error | _, remaining, after⟩ <;>
    rw [ended] at left
  · exact id
  · refine handled error ?_ remaining after
    rintro reason rfl
    exact left trivial
  · exact id

theorem neverRejects_terminate (meets : Encounter) (request : EffectRequest) (pid : Int)
    (result : Fields) : NeverRejects (terminate meets request pid result) := by
  apply neverRejects_bind (neverRejects_issue _ _)
  intro _
  apply neverRejects_bind (neverRejects_modify _)
  intro _
  apply neverRejects_bind (neverRejects_ask _)
  intro exit
  cases exit with
  | some exitCode => exact neverRejects_pure _
  | none =>
    apply neverRejects_bind neverRejects_get
    intro engine
    dsimp only
    split_ifs
    · exact neverRejects_unknown _ _
    · exact neverRejects_unknown _ _
    · exact neverRejects_unknown _ _
    · exact neverRejects_unknown _ _
    · apply neverRejects_bind (neverRejects_modify _)
      intro _
      apply neverRejects_bind (neverRejects_issue _ _)
      intro _
      apply neverRejects_bind (neverRejects_ask _)
      intro exit
      cases exit with
      | some exitCode => exact neverRejects_pure _
      | none => exact neverRejects_unknown _ _

theorem neverRejects_closingPidfd (meets : Encounter) {part : Part Fields}
    (inside : NeverRejects part) : NeverRejects (closingPidfd meets part) := by
  unfold closingPidfd
  split_ifs
  · apply neverRejects_bind
    · apply neverRejects_handle _ inside
      intro error other
      apply neverRejects_bind (neverRejects_ask _)
      intro _ turns engine
      cases error with
      | effectRejected reason => exact absurd rfl (other reason)
      | outcomeUnknown reason result => exact id
      | error error => exact id
    · intro result
      exact neverRejects_bind (neverRejects_ask _) fun _ => neverRejects_pure _
  · exact inside

theorem neverRejects_openExactFfmpegPidfd (meets : Encounter) (pid : Int) :
    NeverRejects (openExactFfmpegPidfd meets pid) := by
  unfold openExactFfmpegPidfd
  cases meets.pidfd with
  | unsupported => exact neverRejects_pure _
  | opened => exact neverRejects_pure _
  | failed errno exited =>
    dsimp only
    split_ifs
    · exact neverRejects_pure _
    · exact neverRejects_unknown _ _

theorem run_get {next : Engine → Part α} {turns : List Empty} {engine : Engine} :
    (Script.get >>= next).run turns engine = (next engine).run turns engine := rfl

theorem run_raiseWhen_true {next : Unit → Part α} {condition : Bool} {raised : Raised}
    {turns : List Empty} {engine : Engine} (holds : condition = true) :
    (raiseWhen condition raised >>= next).run turns engine = (.raised raised, turns, engine) := by
  subst holds
  rfl

theorem run_raiseWhen_false {next : Unit → Part α} {condition : Bool} {raised : Raised}
    {turns : List Empty} {engine : Engine} (fails : condition = false) :
    (raiseWhen condition raised >>= next).run turns engine = (next ()).run turns engine := by
  subst fails
  rfl

section Switch

variable (float : String → Option Double)

/-- The restart effect finds something that it rejects before it acts. -/
def RestartRejected (meets : Encounter) (runId : String) (request : EffectRequest) : Prop :=
  match meets.runningPid with
  | none => True
  | some pid =>
    runId ++ ":" ++ toString meets.restartCount ++ ":" ++ toString pid ≠
        request.expectedFfmpegGeneration ∨
      (boundedEffectWait float meets "FR_FFMPEG_TERM_GRACE_SEC" "2.0").isOk = false ∨
      (boundedEffectWait float meets "FR_FFMPEG_KILL_WAIT_SEC" "1.0").isOk = false

variable {float} {meets : Encounter} {request : EffectRequest}

theorem boundedEffectWait_error {name default : String}
    (failed : (boundedEffectWait float meets name default).isOk = false) :
    ∃ reason, boundedEffectWait float meets name default = .error (.effectRejected reason) := by
  unfold boundedEffectWait at failed ⊢
  cases read : float (strip ((meets.environ name).getD default)) with
  | none => exact ⟨_, rfl⟩
  | some value =>
    simp only [read] at failed ⊢
    by_cases outside : waitOutOfRange value = true
    · exact ⟨_, if_pos outside⟩
    · simp [outside, Except.isOk, Except.toBool] at failed

theorem boundedEffectWait_ok {name default : String}
    (passed : (boundedEffectWait float meets name default).isOk = true) :
    ∃ value, boundedEffectWait float meets name default = .ok value := by
  cases read : boundedEffectWait float meets name default with
  | ok value => exact ⟨value, rfl⟩
  | error error =>
    rw [read] at passed
    cases passed

/-- A restart that is rejected leaves the engine as it was. -/
theorem restart_rejected {engine : Engine} (turns : List Empty)
    (rejected : RestartRejected float meets engine.runId request) :
    ∃ reason, (restartFfmpeg float meets request).run turns engine =
      (.raised (.effectRejected reason), turns, engine) := by
  unfold RestartRejected at rejected
  unfold restartFfmpeg
  cases running : meets.runningPid with
  | none => exact ⟨_, rfl⟩
  | some pid =>
    rw [running] at rejected
    dsimp only at rejected ⊢
    rw [run_get]
    by_cases drift : engine.ffmpegGeneration meets.restartCount pid ≠ request.expectedFfmpegGeneration
    · exact ⟨_, run_raiseWhen_true (decide_eq_true drift)⟩
    · have settings := rejected.resolve_left drift
      rw [run_raiseWhen_false (decide_eq_false drift), Script.run_bind]
      cases term : (boundedEffectWait float meets "FR_FFMPEG_TERM_GRACE_SEC" "2.0").isOk with
      | false =>
        obtain ⟨reason, raised⟩ := boundedEffectWait_error term
        refine ⟨reason, ?_⟩
        rw [Script.run_lift, raised]
      | true =>
        obtain ⟨reason, raised⟩ :=
          boundedEffectWait_error (settings.resolve_left (by simp [term]))
        obtain ⟨value, returned⟩ := boundedEffectWait_ok term
        refine ⟨reason, ?_⟩
        rw [Script.run_lift, returned]
        dsimp only
        rw [Script.run_bind, Script.run_lift, raised]

/-- Past its checks the restart effect never raises `EffectRejected`. -/
theorem restart_accepted {engine : Engine} (turns : List Empty)
    (accepted : ¬ RestartRejected float meets engine.runId request) :
    ¬ Rejected ((restartFfmpeg float meets request).run turns engine).1 := by
  unfold RestartRejected at accepted
  unfold restartFfmpeg
  cases running : meets.runningPid with
  | none =>
    rw [running] at accepted
    exact absurd trivial accepted
  | some pid =>
    rw [running] at accepted
    dsimp only at accepted ⊢
    rw [not_or, not_or, not_not, Bool.not_eq_false, Bool.not_eq_false] at accepted
    obtain ⟨same, term, kill⟩ := accepted
    obtain ⟨termGraceSec, termRead⟩ := boundedEffectWait_ok term
    obtain ⟨killWaitSec, killRead⟩ := boundedEffectWait_ok kill
    have current : engine.ffmpegGeneration meets.restartCount pid = request.expectedFfmpegGeneration :=
      same
    rw [run_get, run_raiseWhen_false (decide_eq_false (not_not.mpr current)), termRead, killRead]
    refine neverRejects_bind (neverRejects_pure _) (fun _ => ?_) turns engine
    refine neverRejects_bind (neverRejects_pure _) fun _ => ?_
    refine neverRejects_bind (neverRejects_openExactFfmpegPidfd _ _) fun _ => ?_
    refine neverRejects_bind (neverRejects_modify _) fun _ => ?_
    refine neverRejects_bind (neverRejects_ask _) fun _ => ?_
    exact neverRejects_closingPidfd meets (neverRejects_terminate _ _ _ _)

/-- The part behind the stop is rejected if and only if the grant has expired or the restart is
rejected, and then it leaves the engine as it found it. -/
theorem replaceSender_rejected (engine : Engine) (turns : List Empty) (pipeline : DeliveryPipeline)
    (route : RouteTransition) {config : DeliveryConfig}
    (rejected : config.grantExpiresAt ≤ meets.now ∨ RestartRejected float meets engine.runId request) :
    ∃ reason, (replaceSender float meets request pipeline config route).run turns engine =
      (.raised (.effectRejected reason), turns, engine) := by
  unfold replaceSender
  by_cases expired : config.grantExpiresAt ≤ meets.now
  · exact ⟨_, run_raiseWhen_true (decide_eq_true expired)⟩
  · obtain ⟨reason, raised⟩ := restart_rejected turns (rejected.resolve_left expired)
    refine ⟨reason, ?_⟩
    rw [run_raiseWhen_false (decide_eq_false expired), Script.run_bind_raised raised]

theorem replaceSender_accepted {engine : Engine} {turns : List Empty} {pipeline : DeliveryPipeline}
    {config : DeliveryConfig} {route : RouteTransition}
    (accepted : ¬ (config.grantExpiresAt ≤ meets.now ∨
      RestartRejected float meets engine.runId request)) :
    ¬ Rejected ((replaceSender float meets request pipeline config route).run turns engine).1 := by
  obtain ⟨current, restarts⟩ := not_or.mp accepted
  unfold replaceSender
  rw [run_raiseWhen_false (decide_eq_false current)]
  have left := restart_accepted turns restarts
  rw [Script.run_bind]
  rcases ended : (restartFfmpeg float meets request).run turns engine with
    ⟨result | error | _, remaining, after⟩ <;> rw [ended] at left
  · refine neverRejects_bind (neverRejects_raiseWhen _ fun _ => Raised.noConfusion) (fun _ => ?_)
      remaining after
    refine neverRejects_bind (neverRejects_issue _ _) fun _ => ?_
    refine neverRejects_bind (neverRejects_modify _) fun _ => ?_
    refine neverRejects_bind (neverRejects_ask _) fun _ => ?_
    refine neverRejects_bind (neverRejects_ask _) fun _ => ?_
    exact neverRejects_bind neverRejects_get fun _ => neverRejects_pure _
  · cases error with
    | effectRejected reason => exact fun _ => left trivial
    | outcomeUnknown reason result => exact id
    | error error => exact id
  · exact id

end Switch

/-- The relay acknowledges the stop with its receipt, which is written down. -/
def StopAcknowledged (meets : Encounter) (client : RelayLeaseClient) : Prop :=
  meets.renewalEnds = true ∧ meets.receiptAppended = .ok () ∧
    ∃ reply, meets.stopReply = .ok reply ∧ (field reply "instance").isText client.relayInstance = true ∧
      (field reply "halted").isTrue = true ∧ (field reply "process_exit_observed").isTrue = true ∧
        (field reply "enabled").isFalse = true

/-- The engine once the primary publisher has been stopped. -/
def Engine.withoutPrimary (engine : Engine) (client : RelayLeaseClient) : Engine :=
  { engine with
    issued := engine.issued ++ [.publisherStop client.relayInstance], relayLeaseClient := none }

section Stop

variable {meets : Encounter} {client : RelayLeaseClient} {engine : Engine} {turns : List Empty}

theorem stopReceipt_acknowledged (engine : Engine) (turns : List Empty)
    (acknowledged : StopAcknowledged meets client) :
    ∃ reply, (client.stopReceipt meets).run turns engine =
      (.done reply, turns,
        { engine with issued := engine.issued ++ [.publisherStop client.relayInstance] }) := by
  obtain ⟨ends, _, reply, replied, same, halted, exited, disabled⟩ := acknowledged
  refine ⟨reply, ?_⟩
  unfold RelayLeaseClient.stopReceipt
  rw [run_raiseWhen_false (by simp [ends]), replied, Script.run_bind]
  change (raiseWhen _ _ >>= fun _ => _).run turns _ = _
  rw [run_raiseWhen_false (by simp [same]), run_raiseWhen_false (by simp [halted, exited, disabled])]
  rfl

/-- A receipt is returned for an acknowledged stop only. -/
theorem stopReceipt_done {reply : Fields} {rest : List Empty} {after : Engine}
    (done : (client.stopReceipt meets).run turns engine = (.done reply, rest, after)) :
    meets.renewalEnds = true ∧
      ∃ reply, meets.stopReply = .ok reply ∧ (field reply "instance").isText client.relayInstance = true ∧
        (field reply "halted").isTrue = true ∧ (field reply "process_exit_observed").isTrue = true ∧
          (field reply "enabled").isFalse = true := by
  unfold RelayLeaseClient.stopReceipt at done
  by_cases ends : meets.renewalEnds = true
  · rw [run_raiseWhen_false (by simp [ends])] at done
    cases replied : meets.stopReply with
    | error error =>
      rw [replied, Script.run_bind] at done
      cases done
    | ok reply =>
      rw [replied, Script.run_bind] at done
      change (raiseWhen _ _ >>= fun _ => _).run turns _ = _ at done
      by_cases same : (field reply "instance").isText client.relayInstance = true
      · rw [run_raiseWhen_false (by simp [same])] at done
        refine ⟨ends, reply, rfl, same, ?_⟩
        by_contra incomplete
        rw [run_raiseWhen_true] at done
        · cases done
        · simp only [Bool.decide_or, Bool.or_eq_true, decide_eq_true_eq]
          by_contra complete
          apply incomplete
          simpa [not_or] using complete
      · rw [run_raiseWhen_true (by simp [same])] at done
        cases done
  · rw [run_raiseWhen_true (by simp [ends])] at done
    cases done

theorem neverRejects_stopReceipt : NeverRejects (client.stopReceipt meets) := by
  apply neverRejects_bind (neverRejects_raiseWhen _ fun _ => Raised.noConfusion)
  intro _
  apply neverRejects_bind (neverRejects_issue _ _)
  intro reply
  apply neverRejects_bind (neverRejects_raiseWhen _ fun _ => Raised.noConfusion)
  intro _
  apply neverRejects_bind (neverRejects_raiseWhen _ fun _ => Raised.noConfusion)
  intro _
  exact neverRejects_pure reply

/-- With a client there, the stop of the publisher is never rejected. -/
theorem stopPrimary_not_rejected (meets : Encounter) (turns : List Empty)
    (bound : engine.relayLeaseClient = some client) :
    ¬ Rejected ((stopPrimary meets).run turns engine).1 := by
  unfold stopPrimary
  rw [run_get, bound]
  dsimp only
  refine neverRejects_bind (neverRejects_handle ?_ neverRejects_stopReceipt) (fun _ => ?_) turns engine
  · exact fun _ _ => neverRejects_unknown _ _
  · exact neverRejects_bind (neverRejects_ask _) fun _ => neverRejects_modify _

theorem stopPrimary_done {rest : List Empty} {after : Engine}
    (bound : engine.relayLeaseClient = some client)
    (done : (stopPrimary meets).run turns engine = (.done (), rest, after)) :
    StopAcknowledged meets client := by
  unfold stopPrimary at done
  rw [run_get, bound] at done
  dsimp only at done
  obtain ⟨reply, middle, between, received, recorded⟩ := Script.done_of_bind done
  have appended : meets.receiptAppended = .ok () := by
    cases appending : meets.receiptAppended with
    | ok _ => rfl
    | error error =>
      rw [appending, Script.run_bind] at recorded
      cases recorded
  rcases stopped : (client.stopReceipt meets).run turns engine with ⟨reply' | error | _, later, left⟩
  · obtain ⟨ends, acknowledged⟩ := stopReceipt_done stopped
    exact ⟨ends, appended, acknowledged⟩
  · rw [Script.run_handle_raised stopped] at received
    cases received
  · simp only [Script.handle, stopped] at received
    cases received

theorem stopPrimary_acknowledged (bound : engine.relayLeaseClient = some client)
    (acknowledged : StopAcknowledged meets client) :
    (stopPrimary meets).run turns engine = (.done (), turns, engine.withoutPrimary client) := by
  obtain ⟨reply, returned⟩ := stopReceipt_acknowledged engine turns acknowledged
  unfold stopPrimary
  rw [run_get, bound]
  dsimp only
  rw [Script.run_bind, Script.run_handle_done returned]
  dsimp only
  rw [acknowledged.2.1]
  rfl

end Stop

section Switch

variable (float : String → Option Double)

/-- A rejected switch has issued nothing, and has left the route, its generation and the lease
client as they were. -/
def RejectedDidNothing (meets : Encounter) (request : EffectRequest) (engine : Engine) : Prop :=
  let left := (switchDeliveryRoute float meets request).run [] engine
  Rejected left.1 → left.2.2.issued = engine.issued ∧
    left.2.2.deliveryRoute = engine.deliveryRoute ∧
      left.2.2.deliveryRouteGeneration = engine.deliveryRouteGeneration ∧
        left.2.2.relayLeaseClient = engine.relayLeaseClient

/-- The request goes back to the fallback by the configuration that the engine has, and there is
a client to stop. -/
def StopsPrimary (engine : Engine) (request : EffectRequest) (config : DeliveryConfig)
    (client : RelayLeaseClient) : Prop :=
  engine.deliveryPipeline.isSome ∧ engine.deliveryConfig = some config ∧
    engine.relayLeaseClient = some client ∧ ∃ route, request.routeTransition = some route ∧
      route.operatorGrantId = config.grantId ∧ route.fromRoute = engine.deliveryRoute ∧
        route.expectedRouteGeneration = engine.deliveryRouteGeneration ∧ route.toRoute = .fallback

/-- The primary publisher is stopped, and only then is there something to reject. -/
def RejectedAfterStop (meets : Encounter) (request : EffectRequest) (engine : Engine) : Prop :=
  ∃ config client, StopsPrimary engine request config client ∧ StopAcknowledged meets client ∧
    (config.grantExpiresAt ≤ meets.now ∨ RestartRejected float meets engine.runId request)

variable {float} {meets : Encounter} {request : EffectRequest} {engine : Engine}

/-- Such a switch is rejected with the publisher stopped. -/
theorem rejected_of_afterStop (after : RejectedAfterStop float meets request engine) :
    ∃ reason client, (switchDeliveryRoute float meets request).run [] engine =
      (.raised (.effectRejected reason), [], engine.withoutPrimary client) := by
  obtain ⟨config, client, ⟨split, configured, bound, route, asked, granted, current, expected, back⟩,
    acknowledged, rejected⟩ := after
  obtain ⟨pipeline, piped⟩ := Option.isSome_iff_exists.mp split
  obtain ⟨reason, raised⟩ := replaceSender_rejected (engine.withoutPrimary client) [] pipeline
    route rejected
  refine ⟨reason, client, ?_⟩
  unfold switchDeliveryRoute
  rw [run_get, piped, configured, asked]
  dsimp only
  rw [run_raiseWhen_false (by simp [granted]), run_raiseWhen_false (by simp [current, expected]),
    if_pos back, Script.run_bind_done (stopPrimary_acknowledged bound acknowledged), raised]

/-- Behind the stop of a publisher a switch is rejected only by what the theorem above names. -/
theorem stopped_not_rejected {pipeline : DeliveryPipeline} {config : DeliveryConfig}
    {route : RouteTransition} {client : RelayLeaseClient} (bound : engine.relayLeaseClient = some client)
    (early : ¬ (StopAcknowledged meets client ∧
      (config.grantExpiresAt ≤ meets.now ∨ RestartRejected float meets engine.runId request))) :
    ¬ Rejected ((stopPrimary meets >>= fun _ =>
      replaceSender float meets request pipeline config route).run [] engine).1 := by
  have stop := stopPrimary_not_rejected meets [] bound
  rw [Script.run_bind]
  rcases stopped : (stopPrimary meets).run [] engine with ⟨_ | error | _, rest, after⟩ <;>
    rw [stopped] at stop
  · have acknowledged := stopPrimary_done bound stopped
    rw [stopPrimary_acknowledged bound acknowledged] at stopped
    cases stopped
    apply replaceSender_accepted
    intro refused
    exact early ⟨acknowledged, refused⟩
  · exact fun rejected => stop (by cases error <;> trivial)
  · exact id

theorem stopPrimary_without_client (unbound : engine.relayLeaseClient = none) :
    (stopPrimary meets).run [] engine =
      (.raised (.effectRejected "PRIMARY_STOP_RECEIPT_REQUIRED"), [], engine) := by
  unfold stopPrimary
  rw [run_get, unbound]
  rfl

/-- Any other rejected switch leaves the engine as it was. -/
theorem unchanged_of_not_afterStop (early : ¬ RejectedAfterStop float meets request engine)
    (rejected : Rejected ((switchDeliveryRoute float meets request).run [] engine).1) :
    ((switchDeliveryRoute float meets request).run [] engine).2.2 = engine := by
  unfold switchDeliveryRoute at rejected ⊢
  rw [run_get] at rejected ⊢
  cases piped : engine.deliveryPipeline with
  | none => rfl
  | some pipeline =>
    cases configured : engine.deliveryConfig with
    | none => rfl
    | some config =>
      cases asked : request.routeTransition with
      | none => rfl
      | some route =>
        rw [piped, configured, asked] at rejected
        dsimp only at rejected ⊢
        by_cases granted : route.operatorGrantId ≠ config.grantId
        · rw [run_raiseWhen_true (decide_eq_true granted)]
        by_cases drift : route.fromRoute ≠ engine.deliveryRoute ∨
            route.expectedRouteGeneration ≠ engine.deliveryRouteGeneration
        · rw [run_raiseWhen_false (decide_eq_false granted), run_raiseWhen_true (decide_eq_true drift)]
        rw [run_raiseWhen_false (decide_eq_false granted), run_raiseWhen_false (decide_eq_false drift)]
          at rejected ⊢
        obtain ⟨current, expected⟩ := not_or.mp drift
        by_cases back : route.toRoute = .fallback
        · rw [if_pos back] at rejected ⊢
          cases bound : engine.relayLeaseClient with
          | none => rw [Script.run_bind_raised (stopPrimary_without_client bound)]
          | some client =>
            refine absurd rejected (stopped_not_rejected bound fun later => early ?_)
            exact ⟨config, client, ⟨by rw [piped]; rfl, configured, bound, route, asked,
              not_not.mp granted, not_not.mp current, not_not.mp expected, back⟩, later⟩
        · rw [if_neg back] at rejected ⊢
          by_cases refused : config.grantExpiresAt ≤ meets.now ∨
              RestartRejected float meets engine.runId request
          · obtain ⟨reason, raised⟩ := replaceSender_rejected engine [] pipeline route refused
            rw [raised]
          · exact absurd rejected (replaceSender_accepted refused)

/-- A rejected switch has done nothing unless it was rejected after the stop of the primary
publisher. -/
theorem rejected_switch_idle_iff (float : String → Option Double) (meets : Encounter)
    (request : EffectRequest) (engine : Engine) :
    RejectedDidNothing float meets request engine ↔ ¬ RejectedAfterStop float meets request engine := by
  constructor
  · intro idle after
    obtain ⟨reason, client, raised⟩ := rejected_of_afterStop after
    unfold RejectedDidNothing at idle
    rw [raised] at idle
    have longer := (idle trivial).1
    simp [Engine.withoutPrimary] at longer
  · intro early rejected
    rw [unchanged_of_not_afterStop early rejected]
    exact ⟨rfl, rfl, rfl, rfl⟩

end Switch

/-- An engine on the primary route, with a grant until the time 100. -/
def primaryEngine : Engine where
  runId := "run"
  deliveryPipeline := some ⟨some 41⟩
  deliveryConfig := some ⟨"grant", 100, "relay"⟩
  relayLeaseClient := some ⟨"relay"⟩
  deliveryRoute := .primary
  deliveryRouteGeneration := 2
  ffmpegStopContext := []
  issued := []

/-- The request to go back to the fallback. -/
def returnRequest : EffectRequest where
  schemaVersion := .typedEffectRequestV3
  requestId := "request"
  producerId := "operator"
  producerGeneration := 1
  intentType := .switchStreamRoute
  reason := "return"
  failureDomain := "DELIVERY"
  issuedAt := ⟨"1970-01-01T00:01:40Z", .instant 100000000⟩
  expiresAt := ⟨"1970-01-01T00:01:45Z", .instant 105000000⟩
  ffmpegTargetIdentity := some ⟨"host", "boot", "default", "pod", "stream-engine", "container", "run:0:40", 40⟩
  runtimeIdentity := none
  expectedFfmpegGeneration := "run:0:40"
  idempotencyKey := "key"
  correlationId := "correlation"
  targetSnapshotId := "target"
  runtimeSnapshotId := ""
  runtimeObservationId := "observation"
  expectedExecutorInstanceId := "executor"
  maintenanceEvidenceStatus := .unknown
  projectionId := ""
  projectionSequence := 0
  routeTransition := some ⟨.primary, 2, "grant"⟩

/-- The relay stops at once, but the time is 100. -/
def lateEncounter : Encounter where
  environ := fun _ => none
  renewalEnds := true
  stopReply := .ok [("instance", .str "relay"), ("halted", .bool true),
    ("process_exit_observed", .bool true), ("enabled", .bool false)]
  receiptAppended := .ok ()
  now := 100
  runningPid := some 40
  restartCount := 0
  pidfd := .opened
  termSent := .ok ()
  termExit := .ok (some 0)
  sameProcess := true
  laterRestartCount := 0
  killSent := .ok ()
  killExit := .ok (some 0)
  pidfdClosed := .ok ()
  pumpStopped := .ok ()
  changeAppended := .ok ()

/-- The publisher is stopped and its client forgotten, and then the switch is rejected. -/
theorem late_switch_not_idle :
    ¬ RejectedDidNothing (fun _ => some (.finite 1)) lateEncounter returnRequest primaryEngine := by
  intro idle
  have later : RejectedAfterStop (fun _ => some (.finite 1)) lateEncounter returnRequest
      primaryEngine :=
    ⟨⟨"grant", 100, "relay"⟩, ⟨"relay"⟩, ⟨rfl, rfl, rfl, _, rfl, rfl, rfl, rfl, rfl⟩,
      ⟨rfl, rfl, _, rfl, by decide, rfl, rfl, rfl⟩, Or.inl (le_refl 100)⟩
  obtain ⟨reason, client, raised⟩ := rejected_of_afterStop later
  unfold RejectedDidNothing at idle
  rw [raised] at idle
  have same := (idle trivial).1
  cases same

end LiveStream.Delivery

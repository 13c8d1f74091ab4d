import LiveStream.Boundary.Request

/-! What a parsed request satisfies, and that its canonical form parses back to
the same request up to the schema version. -/

namespace LiveStream.Boundary

open LiveStream.Support

/-- The checks of `_common`, read off the fields it returns. -/
structure CommonFields.Formed (common : CommonFields) : Prop where
  lifetime : ∃ issued expires, common.issuedAt.reading = .instant issued ∧
    common.expiresAt.reading = .instant expires ∧ issued < expires ∧
    expires - issued ≤ maxEffectRequestLifetime
  producerGeneration : 0 < common.producerGeneration
  projectionSequence : 0 ≤ common.projectionSequence
  reason : strip common.reason = common.reason
  reasonValid : reasonInvalid common.reason = false
  projectionId : strip common.projectionId = common.projectionId
  evidence : common.maintenanceEvidenceStatus = .available →
    common.projectionId ≠ "" ∧ 0 < common.projectionSequence
  requestId : Stripped common.requestId
  producerId : Stripped common.producerId
  idempotencyKey : Stripped common.idempotencyKey
  correlationId : Stripped common.correlationId
  expectedExecutorInstanceId : Stripped common.expectedExecutorInstanceId

/-- The fields of a request that `_common` read. -/
def EffectRequest.common (request : EffectRequest) : CommonFields where
  requestId := request.requestId
  producerId := request.producerId
  producerGeneration := request.producerGeneration
  reason := request.reason
  issuedAt := request.issuedAt
  expiresAt := request.expiresAt
  idempotencyKey := request.idempotencyKey
  correlationId := request.correlationId
  expectedExecutorInstanceId := request.expectedExecutorInstanceId
  maintenanceEvidenceStatus := request.maintenanceEvidenceStatus
  projectionId := request.projectionId
  projectionSequence := request.projectionSequence

/-- The identity of a request with a delivery intent. -/
structure EffectRequest.DeliveryFormed (request : EffectRequest) : Prop where
  target : ∃ target, request.ffmpegTargetIdentity = some target ∧ target.WellFormed
  noRuntime : request.runtimeIdentity = none
  expectedFfmpegGeneration : Stripped request.expectedFfmpegGeneration
  targetSnapshotId : Stripped request.targetSnapshotId
  runtimeObservationId : Stripped request.runtimeObservationId

/-- The identity of a request with a runtime intent. -/
structure EffectRequest.RuntimeFormed (request : EffectRequest) : Prop where
  identity : ∃ identity, request.runtimeIdentity = some identity ∧ identity.WellFormed
  noTarget : request.ffmpegTargetIdentity = none
  expectedFfmpegGeneration : request.expectedFfmpegGeneration = ""
  runtimeSnapshotId : request.runtimeSnapshotId ≠ ""
  observation : request.intentType = .reconcileFfmpeg → request.runtimeObservationId ≠ ""

/-- Everything `from_mapping` establishes of the request it returns. -/
structure EffectRequest.WellFormed (request : EffectRequest) : Prop where
  common : request.common.Formed
  failureDomain : Stripped request.failureDomain
  expectedFfmpegGeneration : strip request.expectedFfmpegGeneration = request.expectedFfmpegGeneration
  targetSnapshotId : strip request.targetSnapshotId = request.targetSnapshotId
  runtimeSnapshotId : strip request.runtimeSnapshotId = request.runtimeSnapshotId
  runtimeObservationId : strip request.runtimeObservationId = request.runtimeObservationId
  delivery : request.intentType.isDelivery = true → request.DeliveryFormed
  runtime : request.intentType.isDelivery = false → request.RuntimeFormed
  route : request.intentType = .switchStreamRoute ↔ request.routeTransition.isSome = true
  routeFormed : ∀ transition, request.routeTransition = some transition → transition.WellFormed

/-- A request that `from_mapping` returned; the executor sees no others. -/
abbrev ParsedRequest := { request : EffectRequest // request.WellFormed }

theorem requiredText_of_stripped {text : String} (formed : Stripped text) :
    requiredText text = .ok text := by
  simp [requiredText, formed.stripped, formed.nonempty]

private theorem stripped_of_requiredText {text result : String}
    (accepted : requiredText text = .ok result) : Stripped result := by
  unfold requiredText at accepted
  split at accepted
  · cases accepted
  · rename_i present
    obtain rfl := Except.ok.inj accepted
    exact ⟨strip_strip text, present⟩

/-- `_common` accepts the canonical form of a formed request and reads it back. -/
theorem commonFields_canonical {request : EffectRequest} (formed : request.common.Formed) :
    commonFields request.canonical = .ok request.common := by
  obtain ⟨issued, expires, issuedAt, expiresAt, later, short⟩ := formed.lifetime
  have status : strip request.maintenanceEvidenceStatus.text =
      request.maintenanceEvidenceStatus.text := by
    cases request.maintenanceEvidenceStatus <;> decide
  have generations : ¬ (request.producerGeneration ≤ 0 ∨ request.projectionSequence < 0) :=
    not_or.mpr ⟨not_le.mpr formed.producerGeneration, not_lt.mpr formed.projectionSequence⟩
  have evidence : ¬ (request.maintenanceEvidenceStatus = .available ∧
      (request.projectionId = "" ∨ request.projectionSequence ≤ 0)) := by
    rintro ⟨available, missing⟩
    obtain ⟨present, positive⟩ := formed.evidence available
    exact missing.elim present (not_le.mpr positive)
  simp only [EffectRequest.common] at issuedAt expiresAt
  have reason : strip request.reason = request.reason := formed.reason
  have reasonValid : ¬ reasonInvalid request.reason = true := by
    simpa [EffectRequest.common] using formed.reasonValid
  have projectionId : strip request.projectionId = request.projectionId := formed.projectionId
  have requestId := requiredText_of_stripped formed.requestId
  have producerId := requiredText_of_stripped formed.producerId
  have idempotencyKey := requiredText_of_stripped formed.idempotencyKey
  have correlationId := requiredText_of_stripped formed.correlationId
  have executor := requiredText_of_stripped formed.expectedExecutorInstanceId
  simp only [EffectRequest.common] at requestId producerId idempotencyKey correlationId executor
  simp only [commonFields, EffectRequest.canonical, parseUtc, issuedAt, expiresAt, ok_bind,
    rejectIf_of_not (not_le.mpr later), rejectIf_of_not (not_lt.mpr short),
    IntReading.read_value, rejectIf_of_not generations, reason, rejectIf_of_not reasonValid,
    status, EvidenceStatus.ofText?_text, orReject_some, projectionId,
    rejectIf_of_not evidence, requestId, producerId, idempotencyKey, correlationId, executor]
  rfl

private theorem typedIdentity_canonical {request : EffectRequest} (formed : request.WellFormed) :
    typedIdentity request.canonical request.intentType =
      .ok ⟨request.ffmpegTargetIdentity, request.runtimeIdentity⟩ := by
  unfold typedIdentity
  cases kind : request.intentType.isDelivery with
  | true =>
    have delivery := formed.delivery kind
    obtain ⟨target, carried, exact⟩ := delivery.target
    have texts : ¬ (strip request.expectedFfmpegGeneration = "" ∨
        strip request.targetSnapshotId = "" ∨ strip request.runtimeObservationId = "") := by
      rw [formed.expectedFfmpegGeneration, formed.targetSnapshotId, formed.runtimeObservationId]
      simp [delivery.expectedFfmpegGeneration.nonempty, delivery.targetSnapshotId.nonempty,
        delivery.runtimeObservationId.nonempty]
    simp only [if_true, deliveryIdentity, EffectRequest.canonical, carried, delivery.noRuntime,
      validateTarget_fields exact, ok_bind, MappingField.isPresent, rejectIf_of_not texts]
    rfl
  | false =>
    have runtime := formed.runtime kind
    obtain ⟨identity, carried, exact⟩ := runtime.identity
    have texts : ¬ (strip request.expectedFfmpegGeneration ≠ "" ∨
        strip request.runtimeSnapshotId = "") := by
      rw [formed.expectedFfmpegGeneration, formed.runtimeSnapshotId]
      simp [runtime.expectedFfmpegGeneration, runtime.runtimeSnapshotId]
    have observation : ¬ (request.intentType = .reconcileFfmpeg ∧
        strip request.runtimeObservationId = "") := by
      rw [formed.runtimeObservationId]
      exact fun both => runtime.observation both.1 both.2
    simp only [Bool.false_eq_true, if_false, runtimeIntentIdentity, EffectRequest.canonical,
      carried, runtime.noTarget, validateRuntimeIdentity_self exact, ok_bind,
      MappingField.isPresent, rejectIf_of_not texts, rejectIf_of_not observation]
    rfl

private theorem routeTransitionField_canonical {request : EffectRequest}
    (formed : request.WellFormed) :
    routeTransitionField request.canonical request.intentType = .ok request.routeTransition := by
  unfold routeTransitionField
  by_cases switch : request.intentType = .switchStreamRoute
  · obtain ⟨transition, carried⟩ := Option.isSome_iff_exists.mp (formed.route.mp switch)
    have schema : request.canonical.schemaVersion = SchemaVersion.typedEffectRequestV3.text := by
      simp [EffectRequest.canonical, carried]
    have field : request.canonical.routeTransition = .exact transition.fields := by
      simp [EffectRequest.canonical, carried]
    rw [if_pos switch, if_neg (not_not.mpr schema), field,
      validateRouteTransition_fields (formed.routeFormed transition carried), carried]
    rfl
  · have absent : request.routeTransition = none := by
      simpa using mt formed.route.mpr switch
    have field : request.canonical.routeTransition = .none := by
      simp [EffectRequest.canonical, absent]
    rw [if_neg switch, if_pos field, absent]

/-- Re-reading a stored request gives the request back; a v1 request comes back
under the v2 schema, which is the schema it was stored with. -/
theorem fromMapping_canonical {request : EffectRequest} (formed : request.WellFormed) :
    EffectRequest.fromMapping request.canonical = .ok
      { request with
        schemaVersion :=
          if request.routeTransition.isSome then .typedEffectRequestV3
          else .typedEffectRequestV2 } := by
  have intentText : strip request.intentType.text = request.intentType.text := by
    cases request.intentType <;> decide
  have schemas : request.canonical.schemaVersion ≠ SchemaVersion.effectRequestV1.text ∧
      (request.canonical.schemaVersion = SchemaVersion.typedEffectRequestV2.text ∨
        request.canonical.schemaVersion = SchemaVersion.typedEffectRequestV3.text) := by
    cases carried : request.routeTransition <;>
      simp [EffectRequest.canonical, carried, SchemaVersion.text]
  have v3 : ¬ (request.canonical.schemaVersion = SchemaVersion.typedEffectRequestV3.text ∧
      request.intentType ≠ .switchStreamRoute) := by
    rintro ⟨schema, other⟩
    have absent : request.routeTransition = none := by
      simpa using mt formed.route.mpr other
    simp [EffectRequest.canonical, absent, SchemaVersion.text] at schema
  have common := commonFields_canonical formed.common
  have intent : Intent.ofText? (strip request.canonical.intentType) = some request.intentType := by
    change Intent.ofText? (strip request.intentType.text) = _
    rw [intentText, Intent.ofText?_text]
  have domain : ¬ strip request.canonical.failureDomain = "" := by
    change ¬ strip request.failureDomain = ""
    rw [formed.failureDomain.stripped]
    exact formed.failureDomain.nonempty
  rw [EffectRequest.fromMapping, if_neg schemas.1, if_pos schemas.2]
  simp only [fromV2, common, ok_bind, intent, orReject_some, rejectIf_of_not v3,
    routeTransitionField_canonical formed, rejectIf_of_not domain, typedIdentity_canonical formed]
  simp only [EffectRequest.canonical, formed.failureDomain.stripped,
    formed.expectedFfmpegGeneration, formed.targetSnapshotId, formed.runtimeSnapshotId,
    formed.runtimeObservationId, pure, Except.pure]
  rfl

private theorem targetText_ok {field text result : String}
    (accepted : targetText field text = .ok result) : result = text ∧ strip text ≠ "" := by
  unfold targetText at accepted
  split at accepted
  · cases accepted
  · rename_i present
    exact ⟨(Except.ok.inj accepted).symm, present⟩

private theorem runtimeText_ok {field text result : String}
    (accepted : runtimeText field text = .ok result) : Stripped result := by
  unfold runtimeText at accepted
  split at accepted
  · cases accepted
  · rename_i present
    obtain rfl := Except.ok.inj accepted
    exact ⟨strip_strip text, present⟩

theorem validateTarget_wellFormed {value : MappingField TargetFields} {target : TargetIdentity}
    (accepted : validateTarget value = .ok target) : target.WellFormed := by
  cases value with
  | none | emptyText | inexact => cases accepted
  | exact fields =>
    simp only [validateTarget, bind_eq_ok, rejectIf_eq_ok, pure_eq_ok] at accepted
    obtain ⟨_, host, _, boot, _, space, _, pod, _, name, _, container, _, generation, _, _,
      _, pid, _, engine, rfl⟩ := accepted
    obtain ⟨rfl, hostId⟩ := targetText_ok host
    obtain ⟨rfl, hostBootId⟩ := targetText_ok boot
    obtain ⟨rfl, podNamespace⟩ := targetText_ok space
    obtain ⟨rfl, podUid⟩ := targetText_ok pod
    obtain ⟨rfl, containerId⟩ := targetText_ok container
    obtain ⟨rfl, ffmpegGeneration⟩ := targetText_ok generation
    exact ⟨hostId, hostBootId, podNamespace, podUid, not_not.mp engine, containerId,
      ffmpegGeneration, not_le.mp pid⟩

theorem validateRuntimeIdentity_wellFormed {value : MappingField RuntimeIdentity}
    {identity : RuntimeIdentity} (accepted : validateRuntimeIdentity value = .ok identity) :
    identity.WellFormed := by
  cases value with
  | none | emptyText | inexact => cases accepted
  | exact fields =>
    simp only [validateRuntimeIdentity, bind_eq_ok, rejectIf_eq_ok, pure_eq_ok] at accepted
    obtain ⟨_, host, _, boot, _, space, _, pod, _, name, _, container, _, generation,
      _, engine, _, containerd, rfl⟩ := accepted
    exact ⟨runtimeText_ok host, runtimeText_ok boot, runtimeText_ok space, runtimeText_ok pod,
      not_not.mp engine, runtimeText_ok container, by simpa using containerd,
      runtimeText_ok generation⟩

theorem validateRouteTransition_wellFormed {value : MappingField RouteFields}
    {transition : RouteTransition} (accepted : validateRouteTransition value = .ok transition) :
    transition.WellFormed := by
  cases value with
  | none | emptyText | inexact => cases accepted
  | exact fields =>
    simp only [validateRouteTransition, bind_eq_ok, orReject_eq_ok, pure_eq_ok,
      Option.filter_eq_some_iff, decide_eq_true_eq] at accepted
    obtain ⟨_, _, _, ⟨_, positive⟩, _, ⟨_, length⟩, rfl⟩ := accepted
    exact ⟨positive, length⟩

private theorem parseUtc_ok {value : TimestampText} {micros : Int}
    (accepted : parseUtc value = .ok micros) : value.reading = .instant micros := by
  unfold parseUtc at accepted
  split at accepted
  · cases accepted
  · cases accepted
  · rename_i reading
    rw [reading, Except.ok.inj accepted]

private theorem commonFields_formed {value : RequestFields} {common : CommonFields}
    (accepted : commonFields value = .ok common) : common.Formed := by
  simp only [commonFields, bind_eq_ok, rejectIf_eq_ok, orReject_eq_ok, pure_eq_ok] at accepted
  obtain ⟨issued, issuedAt, expires, expiresAt, _, later, _, short, generation, _, sequence, _,
    _, generations, _, reason, status, _, _, evidence, _, requestId, _, producerId, _, key,
    _, correlation, _, executor, rfl⟩ := accepted
  refine ⟨⟨issued, expires, parseUtc_ok issuedAt, parseUtc_ok expiresAt, not_le.mp later,
    not_lt.mp short⟩, ?_, ?_, strip_strip _, by simpa using reason, strip_strip _, ?_,
    stripped_of_requiredText requestId, stripped_of_requiredText producerId,
    stripped_of_requiredText key, stripped_of_requiredText correlation,
    stripped_of_requiredText executor⟩
  · show 0 < generation
    omega
  · show 0 ≤ sequence
    omega
  · intro available
    have missing := fun absent => evidence ⟨available, absent⟩
    exact ⟨fun empty => missing (.inl empty), not_le.mp fun low => missing (.inr low)⟩

private theorem fromV1_wellFormed {value : RequestFields} {request : EffectRequest}
    (accepted : fromV1 value = .ok request) : request.WellFormed := by
  simp only [fromV1, bind_eq_ok, rejectIf_eq_ok, pure_eq_ok] at accepted
  obtain ⟨_, _, common, read, generation, expected, target, exact, snapshot, snapshotText,
    observation, observationText, rfl⟩ := accepted
  have formed := commonFields_formed read
  have expected := stripped_of_requiredText expected
  have snapshotText := stripped_of_requiredText snapshotText
  have observationText := stripped_of_requiredText observationText
  have domain : Stripped "FFMPEG_LOCAL" := ⟨by decide, by decide⟩
  have blank : strip "" = "" := by decide
  refine ⟨formed, domain, expected.stripped, snapshotText.stripped, blank,
    observationText.stripped, fun _ => ?_, fun other => ?_, by simp, by simp⟩
  · exact ⟨⟨target, rfl, validateTarget_wellFormed exact⟩, rfl, expected, snapshotText,
      observationText⟩
  · simp [Intent.isDelivery] at other

private theorem routeTransitionField_ok {value : RequestFields} {intent : Intent}
    {transition : Option RouteTransition}
    (accepted : routeTransitionField value intent = .ok transition) :
    (intent = .switchStreamRoute ↔ transition.isSome = true) ∧
      ∀ carried, transition = some carried → carried.WellFormed := by
  unfold routeTransitionField at accepted
  split at accepted
  · rename_i switch
    split at accepted
    · cases accepted
    · cases checked : validateRouteTransition value.routeTransition with
      | error _ => simp [checked, Except.map] at accepted
      | ok carried =>
        obtain rfl : some carried = transition := by simpa [checked, Except.map] using accepted
        refine ⟨by simp [switch], fun other same => ?_⟩
        obtain rfl := Option.some.inj same
        exact validateRouteTransition_wellFormed checked
  · rename_i other
    split at accepted
    · obtain rfl := Except.ok.inj accepted
      simp [other]
    · cases accepted

private theorem fromV2_wellFormed {value : RequestFields} {request : EffectRequest}
    (accepted : fromV2 value = .ok request) : request.WellFormed := by
  simp only [fromV2, bind_eq_ok, rejectIf_eq_ok, orReject_eq_ok, pure_eq_ok] at accepted
  obtain ⟨common, read, intent, _, _, _, transition, routed, _, domain, identity, typed, rfl⟩ :=
    accepted
  have formed := commonFields_formed read
  obtain ⟨switch, routeFormed⟩ := routeTransitionField_ok routed
  refine ⟨formed, ⟨strip_strip _, domain⟩, strip_strip _, strip_strip _, strip_strip _,
    strip_strip _, fun delivery => ?_, fun runtime => ?_, switch, routeFormed⟩
  · change intent.isDelivery = true at delivery
    simp only [typedIdentity, delivery, if_true, deliveryIdentity, bind_eq_ok, rejectIf_eq_ok,
      pure_eq_ok, not_or] at typed
    obtain ⟨target, exact, _, _, _, ⟨expected, snapshot, observation⟩, rfl⟩ := typed
    exact ⟨⟨target, rfl, validateTarget_wellFormed exact⟩, rfl, ⟨strip_strip _, expected⟩,
      ⟨strip_strip _, snapshot⟩, ⟨strip_strip _, observation⟩⟩
  · change intent.isDelivery = false at runtime
    simp only [typedIdentity, runtime, Bool.false_eq_true, if_false, runtimeIntentIdentity,
      bind_eq_ok, rejectIf_eq_ok, pure_eq_ok, not_or, not_not] at typed
    obtain ⟨carried, exact, _, _, _, ⟨expected, snapshot⟩, _, observation, rfl⟩ := typed
    exact ⟨⟨carried, rfl, validateRuntimeIdentity_wellFormed exact⟩, rfl, expected, snapshot,
      fun reconcile empty => observation ⟨reconcile, empty⟩⟩

/-- `from_mapping` only returns well-formed requests. -/
theorem fromMapping_wellFormed {value : RequestFields} {request : EffectRequest}
    (accepted : EffectRequest.fromMapping value = .ok request) : request.WellFormed := by
  unfold EffectRequest.fromMapping at accepted
  split at accepted
  · exact fromV1_wellFormed accepted
  · split at accepted
    · exact fromV2_wellFormed accepted
    · cases accepted

theorem wellFormed_of_mem {value : RequestFields} {request : EffectRequest}
    (parsed : (EffectRequest.fromMapping value).toOption = some request) :
    request.WellFormed := by
  cases outcome : EffectRequest.fromMapping value with
  | error error => simp [outcome, Except.toOption] at parsed
  | ok other =>
    obtain rfl : other = request := by simpa [outcome, Except.toOption] using parsed
    exact fromMapping_wellFormed outcome

/-- The request that a mapping parses to. -/
def ParsedRequest.ofMapping (value : RequestFields)
    (accepted : (EffectRequest.fromMapping value).toOption.isSome = true) : ParsedRequest :=
  ⟨(EffectRequest.fromMapping value).toOption.get accepted,
    wellFormed_of_mem (Option.some_get accepted).symm⟩

theorem ParsedRequest.fromMapping_ofMapping {value : RequestFields}
    (accepted : (EffectRequest.fromMapping value).toOption.isSome = true) :
    EffectRequest.fromMapping value = .ok (ofMapping value accepted).1 := by
  cases outcome : EffectRequest.fromMapping value with
  | error error => simp [outcome, Except.toOption] at accepted
  | ok request => simp [ofMapping, outcome, Except.toOption]

/-- The target of a restart request for one FFmpeg generation. -/
def restartTarget (generation : String) : TargetIdentity where
  hostId := "host"
  hostBootId := "boot"
  podNamespace := "stream"
  podUid := "pod"
  containerName := "stream-engine"
  containerId := "containerd://1"
  ffmpegGeneration := generation
  ffmpegPid := 7

/-- A restart request for one FFmpeg generation. -/
def restartFields (requestId producerId generation : String) : RequestFields where
  schemaVersion := SchemaVersion.typedEffectRequestV2.text
  operation := ""
  requestId := requestId
  producerId := producerId
  producerGeneration := .value 1
  intentType := Intent.restartFfmpeg.text
  reason := "stalled"
  failureDomain := "FFMPEG_LOCAL"
  issuedAt := ⟨"2026-01-01T00:00:00Z", .instant 0⟩
  expiresAt := ⟨"2026-01-01T00:00:05Z", .instant 5000000⟩
  targetIdentity := .none
  ffmpegTargetIdentity := .exact (restartTarget generation).fields
  runtimeIdentity := .none
  expectedFfmpegGeneration := generation
  idempotencyKey := requestId
  correlationId := requestId
  targetSnapshotId := "snapshot"
  runtimeSnapshotId := ""
  runtimeObservationId := "observation"
  expectedExecutorInstanceId := "executor"
  maintenanceEvidenceStatus := EvidenceStatus.unknown.text
  projectionId := ""
  projectionSequence := .value 0
  routeTransition := .none

end LiveStream.Boundary

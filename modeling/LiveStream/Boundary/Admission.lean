import LiveStream.Boundary.Handoff

/-! `accept` inserts one request with one fence or nothing at all, and a stored request reads
back as itself. -/

namespace LiveStream.Boundary

open LiveStream.Support

/-- One ACCEPTED request row and one ACCEPTED fence were inserted, the high water was raised, and
nothing else changed. -/
structure Admits (ledger after : EffectLedger) (request : EffectRequest) : Prop where
  row : ∃ row, row.state = .accepted ∧ row.requestId = request.requestId ∧
    row.requestDigest = request.digest ∧
    after.typedEffectRequests = ledger.typedEffectRequests ++ [row]
  fence : ∃ fence, fence.state = .accepted ∧ fence.ownerRequestId = request.requestId ∧
    after.effectScopeFences = ledger.effectScopeFences ++ [fence]
  highWater : ∃ before authority, ledger.runtimeAuthority = some before ∧
    after.runtimeAuthority = some authority ∧
    authority.projectionHighWater = max before.projectionHighWater request.projectionSequence ∧
    (authority.producerId, authority.producerGeneration, authority.authorityVersion) =
      (before.producerId, before.producerGeneration, before.authorityVersion)
  legacy : after.effectRequests = ledger.effectRequests
  reconciliations : after.effectReconciliations = ledger.effectReconciliations
  retirements : after.effectScopeRetirements = ledger.effectScopeRetirements

/-- What `accept` may do and answer. -/
inductive Accepts (ledger : EffectLedger) (request : EffectRequest) :
    EffectLedger × Except PyError AcceptReply → Prop
  | admitted (after : EffectLedger) (reply : AcceptReply) :
      reply.reason = .acceptedDurable → reply.accepted = true → Admits ledger after request →
      Accepts ledger request (after, .ok reply)
  | answered (reply : AcceptReply) :
      reply.reason ≠ .acceptedDurable → Accepts ledger request (ledger, .ok reply)
  | raised (error : PyError) :
      error.kind ≠ .database → Accepts ledger request (ledger, .error error)

section Accepting

variable {ledger : EffectLedger} {effects : List Effect} (holds : Holds ledger effects)
include holds

/-- Without an existing row the request has a new id and a new idempotency key. -/
theorem Holds.unrecorded {request : EffectRequest}
    (absent : (ledger.existingLegacy? request).or (ledger.existingTyped? request) = none) :
    ∀ effect ∈ effects, effect.requestId ≠ request.requestId ∧
      effect.idempotencyKey ≠ request.idempotencyKey := by
  obtain ⟨_, typed⟩ := Option.or_eq_none_iff.mp absent
  simp only [EffectLedger.existingTyped?, Option.map_eq_none_iff, Option.or_eq_none_iff,
    holds.requests, List.find?_map, List.find?_eq_none] at typed
  intro effect member
  obtain ⟨ids, keys⟩ := typed
  exact ⟨fun same => ids effect member (decide_eq_true same),
    fun same => keys effect member (decide_eq_true same)⟩

/-- The checks before the inserts imply every unique constraint. -/
theorem Holds.admissible {request : EffectRequest} {scopeId : ScopeId}
    (absent : (ledger.existingLegacy? request).or (ledger.existingTyped? request) = none)
    (unclaimed : ledger.claimingFence? request scopeId = none) :
    ledger.checkAdmission request scopeId = .ok () ∨
      ledger.checkAdmission request scopeId = .error sqliteOverflow := by
  have fresh := holds.unrecorded absent
  have rows : ledger.typedEffectRequests.any (fun row => row.requestId = request.requestId ||
      row.idempotencyKey = request.idempotencyKey) = false := by
    rw [holds.requests, List.any_map, List.any_eq_false]
    intro effect member
    obtain ⟨id, key⟩ := fresh effect member
    have key : (Effect.request effect).idempotencyKey ≠ request.idempotencyKey := key
    simp [id, key]
  have fences : ledger.fenceConflict scopeId request.logicalGenerationScopeId
      request.requestId = false := by
    obtain ⟨generation, scope⟩ := Option.or_eq_none_iff.mp unclaimed
    rw [EffectLedger.fenceConflict, List.any_eq_false]
    intro fence member
    have owned := member
    rw [holds.fences] at owned
    obtain ⟨effect, listed, rfl⟩ := List.mem_map.mp owned
    have apart : effect.scopeId ≠ scopeId := fun same =>
      List.find?_eq_none.mp scope effect.fence member (decide_eq_true same)
    have owner := (fresh effect listed).1
    cases logical : request.logicalGenerationScopeId with
    | none => simp [apart, owner]
    | some logicalId =>
      rw [logical, Option.bind_some] at generation
      have other : effect.generationId ≠ some logicalId := fun same =>
        List.find?_eq_none.mp generation effect.fence member (decide_eq_true same)
      simp [apart, owner, other]
  by_cases overflow : maxSqliteInteger < request.producerGeneration ∨
      maxSqliteInteger < request.projectionSequence
  · refine .inr ?_
    simp [EffectLedger.checkAdmission, rejectIf, overflow]
  · refine .inl ?_
    rw [EffectLedger.checkAdmission, rejectIf_of_not overflow, rows, fences]
    rfl

/-- What `accept` does on a ledger that holds effects. -/
theorem Holds.accepts (source : ParsedRequest) (now : Nat) :
    Accepts ledger source.1 (ledger.accept source.1 now) := by
  unfold EffectLedger.accept
  cases office : ledger.runtimeAuthority with
  | none => exact .raised _ (by decide)
  | some authority =>
    cases existing : (ledger.existingLegacy? source.1).or (ledger.existingTyped? source.1) with
    | some row =>
      refine .answered _ ?_
      rw [ExistingRequest.reply]
      split <;> simp
    | none =>
      dsimp only
      split_ifs with inactive outdated
      · exact .answered _ (by simp)
      · exact .answered _ (by simp)
      · unfold EffectLedger.claim
        cases derived : source.1.effectScopeId with
        | error error =>
          refine .raised _ ?_
          rw [EffectRequest.effectScopeId] at derived
          split at derived
          · rw [TargetIdentity.effectScopeId] at derived
            split at derived
            · cases derived
              decide
            · cases derived
          · cases derived
        | ok scopeId =>
          dsimp only
          cases unclaimed : ledger.claimingFence? source.1 scopeId with
          | some fence =>
            refine .answered _ ?_
            rw [EffectScopeFence.claimedReply]
            split <;> simp
          | none =>
            dsimp only
            cases ledger.unresolvedScopes.head? with
            | some fence => exact .answered _ (by simp [EffectScopeFence.claimedReply])
            | none =>
              dsimp only
              rcases holds.admissible existing unclaimed with admissible | overflow
              · rw [admissible]
                refine .admitted _ _ rfl rfl ?_
                exact
                  { row := ⟨_, rfl, rfl, rfl, rfl⟩
                    fence := ⟨_, rfl, rfl, rfl⟩
                    highWater :=
                      ⟨authority, { authority with
                        projectionHighWater :=
                          max authority.projectionHighWater source.1.projectionSequence
                        updatedAt := now }, office, by
                          rw [EffectLedger.insertRequest, office]
                          rfl, rfl, rfl⟩
                    legacy := rfl
                    reconciliations := rfl
                    retirements := rfl }
              · rw [overflow]
                exact .raised _ (by decide)

/-- A request that reuses an id or a key under another content is a conflict. -/
theorem Holds.conflicts {source : ParsedRequest} (now : Nat) {row : TypedEffectRequest}
    (office : ledger.runtimeAuthority.isSome = true) (member : row ∈ ledger.typedEffectRequests)
    (reused : row.requestId = source.1.requestId ∨ row.idempotencyKey = source.1.idempotencyKey)
    (other : row.requestDigest ≠ source.1.digest) :
    ∃ reply, (ledger.accept source.1 now).2 = .ok reply ∧
      reply.reason = .idempotencyConflict := by
  obtain ⟨authority, office⟩ := Option.isSome_iff_exists.mp office
  rw [EffectLedger.accept, office]
  cases existing : (ledger.existingLegacy? source.1).or (ledger.existingTyped? source.1) with
  | none =>
    have fresh := holds.unrecorded existing
    rw [holds.requests] at member
    obtain ⟨effect, listed, rfl⟩ := List.mem_map.mp member
    obtain ⟨id, key⟩ := fresh effect listed
    exact absurd reused (not_or.mpr ⟨id, key⟩)
  | some found =>
    refine ⟨_, rfl, ?_⟩
    rw [ExistingRequest.reply]
    split
    · rfl
    · rename_i same
      have same := not_not.mp same
      -- the row that was found has the id and the key of the request, so it is `row`
      have typed : ledger.existingTyped? source.1 = some found := by
        simpa [EffectLedger.existingLegacy?, holds.legacy] using existing
      obtain ⟨found_row, located, rfl⟩ := Option.map_eq_some_iff.mp typed
      have listed : found_row ∈ ledger.typedEffectRequests := by
        rcases Option.or_eq_some_iff.mp located with first | ⟨_, second⟩
        · exact List.mem_of_find?_eq_some first
        · exact List.mem_of_find?_eq_some second
      rw [holds.requests] at listed member
      obtain ⟨effect, owned, rfl⟩ := List.mem_map.mp listed
      obtain ⟨another, kept, rfl⟩ := List.mem_map.mp member
      have id : effect.requestId = source.1.requestId := congrArg RequestFields.requestId same
      have key : effect.idempotencyKey = source.1.idempotencyKey :=
        congrArg RequestFields.idempotencyKey same
      have equal : another = effect := by
        rcases reused with again | again
        · exact List.inj_on_of_nodup_map holds.requestIds kept owned (again.trans id.symm)
        · exact List.inj_on_of_nodup_map holds.idempotencyKeys kept owned (again.trans key.symm)
      exact absurd (equal ▸ same) other

end Accepting

/-- In every reachable state `accept` admits one request with its fence, or answers or raises
without a change and without a uniqueness error; ids and keys are unique, and whoever reuses one
under another content gets a conflict. -/
theorem EffectLedger.accept_atomic (events : List (LedgerOp × Nat)) (source : ParsedRequest)
    (now : Nat) :
    Accepts (final EffectLedger.step .empty events) source.1
        ((final EffectLedger.step .empty events).accept source.1 now) ∧
      (final EffectLedger.step .empty events).effectRequests = [] ∧
      ((final EffectLedger.step .empty events).typedEffectRequests.map (·.requestId)).Nodup ∧
      ((final EffectLedger.step .empty events).typedEffectRequests.map
        (·.idempotencyKey)).Nodup ∧
      ∀ row ∈ (final EffectLedger.step .empty events).typedEffectRequests,
        row.requestId = source.1.requestId ∨ row.idempotencyKey = source.1.idempotencyKey →
        row.requestDigest ≠ source.1.digest →
        ∃ reply, ((final EffectLedger.step .empty events).accept source.1 now).2 = .ok reply ∧
          reply.reason = .idempotencyConflict := by
  obtain ⟨effects, holds, office⟩ := EffectLedger.served_of_run events
  have keys : ((final EffectLedger.step .empty events).typedEffectRequests.map
      (·.idempotencyKey)).Nodup := by
    rw [holds.requests, List.map_map]
    exact holds.idempotencyKeys
  refine ⟨holds.accepts source now, holds.legacy, holds.requestIds_rows, keys, ?_⟩
  intro row member reused other
  refine holds.conflicts now ?_ member reused other
  rcases office with rfl | office
  · rw [holds.requests] at member
    cases member
  · rw [EffectLedger.producer?, Option.isSome_map] at office
    exact office

/-- The id of an accepted request, in a request with another reason. -/
def renamedRequest : ParsedRequest :=
  .ofMapping { restartFields "restart-1" "detector" "generation-1" with reason := "other" }
    (by decide +kernel)

theorem EffectLedger.accept_atomic_renamed :
    ((final EffectLedger.step .empty [(.reopen "detector" 1, 0),
        (.accept detectorRequest, 1)]).typedEffectRequests.map (·.requestId)) = ["restart-1"] ∧
      ∃ reply, ((final EffectLedger.step .empty [(.reopen "detector" 1, 0),
          (.accept detectorRequest, 1)]).accept renamedRequest.1 2).2 = .ok reply ∧
        reply.reason = .idempotencyConflict := by
  refine ⟨by decide +kernel, ?_⟩
  have atomic := accept_atomic [(.reopen "detector" 1, 0), (.accept detectorRequest, 1)]
    renamedRequest 2
  exact atomic.2.2.2.2 (.admitted detectorRequest.1 1) (by exact List.mem_cons_self)
    (.inl (by decide +kernel)) (by decide +kernel)

/-- What a request and its stored form have in common. -/
structure ReadsBack (request again : EffectRequest) : Prop where
  digest : again.digest = request.digest
  canonical : again.canonical = request.canonical
  effectScopeId : again.effectScopeId = request.effectScopeId
  logicalGenerationScopeId : again.logicalGenerationScopeId = request.logicalGenerationScopeId
  operation : again.operation = request.operation
  fenceIdentity : again.fenceIdentity = request.fenceIdentity

/-- The canonical form of an accepted mapping is accepted, as the same request. -/
theorem readsBack_of_formed {request : EffectRequest} (formed : request.WellFormed) :
    ∃ again, EffectRequest.fromMapping request.canonical = .ok again ∧ ReadsBack request again :=
  ⟨_, fromMapping_canonical formed, ⟨rfl, rfl, rfl, rfl, rfl, rfl⟩⟩

/-- Every accepted mapping parses back from its canonical form as the same request; so no stored
request is skipped at start-up, and each derives the fence that it owns. -/
theorem EffectLedger.stored_requests_decode :
    (∀ value request, EffectRequest.fromMapping value = .ok request →
      ∃ again, EffectRequest.fromMapping request.canonical = .ok again ∧
        ReadsBack request again) ∧
    ∀ events : List (LedgerOp × Nat),
      ∀ row ∈ (final EffectLedger.step .empty events).typedEffectRequests,
        ∃ again fence, EffectRequest.fromMapping row.requestJson = .ok again ∧
          (final EffectLedger.step .empty events).fenceOf? row.requestId = some fence ∧
          again.digest = row.requestDigest ∧ again.effectScopeId = .ok fence.effectScopeId ∧
          again.logicalGenerationScopeId = fence.logicalGenerationScopeId ∧
          again.operation = fence.action ∧ again.fenceIdentity = fence.identity := by
  refine ⟨fun value request accepted => readsBack_of_formed (fromMapping_wellFormed accepted),
    fun events row member => ?_⟩
  obtain ⟨effects, holds⟩ := EffectLedger.consistent_of_run events
  rw [holds.requests] at member
  obtain ⟨effect, owned, rfl⟩ := List.mem_map.mp member
  obtain ⟨again, parsed, same⟩ := readsBack_of_formed effect.source.2
  refine ⟨again, effect.fence, parsed, holds.fenceOf?_eq owned, same.digest, ?_,
    same.logicalGenerationScopeId, same.operation, same.fenceIdentity⟩
  exact same.effectScopeId.trans effect.derived

theorem EffectLedger.stored_requests_decode_restart :
    ∃ again, EffectRequest.fromMapping detectorRequest.1.canonical = .ok again ∧
      ReadsBack detectorRequest.1 again :=
  stored_requests_decode.1 (restartFields "restart-1" "detector" "generation-1") _
    (ParsedRequest.fromMapping_ofMapping _)

end LiveStream.Boundary

import LiveStream.Boundary.Refinement

/-! Opening a database that holds effects: the backfills find every fence in
place, spend the attempts of requests that were started, and add nothing. -/

namespace LiveStream.Boundary

open LiveStream.Support

/-- The scope id does not depend on the schema version, so the stored request
gives the scope id that the effect was admitted with. -/
theorem Effect.candidate_eq (effect : Effect) :
    effect.request.candidate = .ok (some
      { effectScopeId := effect.scopeId
        action := effect.source.1.operation
        identity := effect.source.1.fenceIdentity
        requestId := effect.requestId
        requestDigest := effect.source.1.digest
        boundary := effect.state ≠ .accepted
        resultJson := effect.result
        state := effect.state }) := by
  have stored : effect.request.requestJson = effect.source.1.canonical := rfl
  have derived := effect.derived
  simp only [TypedEffectRequest.candidate, stored, fromMapping_canonical effect.source.2]
  change (EffectRequest.effectScopeId _).map _ = _
  have same : ∀ schemaVersion : SchemaVersion,
      EffectRequest.effectScopeId { effect.source.1 with schemaVersion } =
        effect.source.1.effectScopeId := fun _ => rfl
  rw [same, derived]
  rfl

theorem mapM_eq_ok {ε α β : Type} {items : List α} {read : α → Except ε β} {value : α → β}
    (reads : ∀ item ∈ items, read item = .ok (value item)) :
    items.mapM read = .ok (items.map value) := by
  induction items with
  | nil => rfl
  | cons item rest inductionHypothesis =>
    have tail := inductionHypothesis fun other member => reads other (by simp [member])
    simp [List.mapM_cons, reads item (by simp), tail]

@[simp] theorem EffectScopeFence.consumed_scope (fence : EffectScopeFence) (now : Nat) :
    (fence.consumed now).effectScopeId = fence.effectScopeId := rfl

theorem EffectScopeFence.consumed_consumed (fence : EffectScopeFence) (now : Nat) :
    (fence.consumed now).consumed now = fence.consumed now := by
  by_cases accepted : fence.state = .accepted <;> simp [EffectScopeFence.consumed, accepted]

/-- Where every candidate finds its fence, the backfill only spends the fences of
the candidates that are past the boundary. -/
theorem foldl_backfillFence (now : Nat) (candidates : List BackfillCandidate)
    (fences : List EffectScopeFence)
    (present : ∀ candidate ∈ candidates, ∃ fence ∈ fences,
      fence.effectScopeId = candidate.effectScopeId) :
    candidates.foldl (backfillFence now) fences =
      fences.map fun fence =>
        if candidates.any (fun candidate =>
            candidate.boundary && candidate.effectScopeId = fence.effectScopeId) then
          fence.consumed now
        else fence := by
  induction candidates generalizing fences with
  | nil => simp
  | cons candidate rest inductionHypothesis =>
    obtain ⟨fence, member, same⟩ := present candidate (by simp)
    have found : (fences.any fun fence => fence.effectScopeId = candidate.effectScopeId ||
        fence.ownerRequestId = candidate.requestId) = true :=
      List.any_eq_true.mpr ⟨fence, member, by simp [same]⟩
    have first : backfillFence now fences candidate =
        fences.map fun fence =>
          if (candidate.boundary && fence.effectScopeId = candidate.effectScopeId) = true then
            fence.consumed now else fence := by
      simp only [backfillFence, found, if_true]
      cases candidate.boundary <;> simp [updateWhere]
    rw [List.foldl_cons, first, inductionHypothesis]
    · rw [List.map_map]
      refine List.map_congr_left fun fence _ => ?_
      simp only [Function.comp_apply, List.any_cons]
      have swap : decide (fence.effectScopeId = candidate.effectScopeId) =
          decide (candidate.effectScopeId = fence.effectScopeId) :=
        decide_eq_decide.mpr eq_comm
      rw [swap]
      by_cases spent : (candidate.boundary &&
          decide (candidate.effectScopeId = fence.effectScopeId)) = true
      · simp only [spent, if_true, Bool.true_or, EffectScopeFence.consumed_scope]
        split
        · exact fence.consumed_consumed now
        · rfl
      · simp only [spent, Bool.false_eq_true, if_false, Bool.false_or]
    · intro other later
      obtain ⟨fence, member, same⟩ := present other (by simp [later])
      refine ⟨_, List.mem_map_of_mem member, ?_⟩
      split <;> exact same

theorem Effect.restarted_fence (effect : Effect) (now : Nat) :
    (effect.restarted now).fence =
      if (effect.state = .executionStarted ∨ effect.state = .outcomeUnknown) ∧
          effect.fenceState.interrupted = true then effect.fence.restarted now
      else effect.fence := by
  unfold Effect.restarted
  split_ifs with running interrupted _ _ given _ _ <;> first | rfl | simp_all

/-- A fence belongs to the generation that its request was admitted with. -/
theorem Effect.generation?_eq (effect : Effect) :
    effect.fence.generation? = effect.generationId.map fun logicalId =>
      (logicalId, effect.scopeId, effect.source.1.fenceIdentity) := by
  have action : effect.fence.action.isDelivery = effect.source.1.intentType.isDelivery := by
    change effect.source.1.operation.isDelivery = _
    unfold EffectRequest.operation
    cases effect.source.1.intentType <;> rfl
  have identity : effect.fence.identity = effect.source.1.fenceIdentity := rfl
  simp only [EffectScopeFence.generation?, action, identity, Effect.generationId,
    EffectRequest.logicalGenerationScopeId, EffectRequest.fenceIdentity]
  cases delivery : effect.source.1.intentType.isDelivery with
  | false => rfl
  | true =>
    obtain ⟨target, carried, _⟩ := (effect.source.2.delivery delivery).target
    simp only [carried, if_true, Option.map_some]
    rfl

/-- Distinct generations have no second owner. -/
theorem checkGenerations_eq_ok (planned : List (LogicalScopeId × ScopeId × FenceIdentity))
    (owners : List (LogicalScopeId × ScopeId × FenceIdentity))
    (distinct : (planned.map Prod.fst).Nodup)
    (fresh : ∀ entry ∈ planned, owners.lookup entry.1 = none) :
    checkGenerations owners planned = .ok () := by
  induction planned generalizing owners with
  | nil => rfl
  | cons entry rest inductionHypothesis =>
    obtain ⟨logicalId, owner⟩ := entry
    have ⟨apart, distinctRest⟩ := List.nodup_cons.mp distinct
    rw [checkGenerations, fresh (logicalId, owner) (by simp)]
    refine inductionHypothesis _ distinctRest fun other member => ?_
    have differs : other.1 ≠ logicalId := fun same =>
      apart (List.mem_map.mpr ⟨other, member, same⟩)
    rw [List.lookup_cons, beq_false_of_ne differs]
    exact fresh other (by simp [member])

/-- Fences that have their generation are not assigned one. -/
theorem assignGenerations_of_assigned (fences : List EffectScopeFence)
    (planned : List (LogicalScopeId × ScopeId × FenceIdentity))
    (assigned : ∀ entry ∈ planned, ∀ fence ∈ fences, fence.effectScopeId = entry.2.1 →
      fence.logicalGenerationScopeId ≠ none) :
    assignGenerations fences planned = (fences, .ok ()) := by
  induction planned with
  | nil => rfl
  | cons entry rest inductionHypothesis =>
    obtain ⟨logicalId, scopeId, identity⟩ := entry
    have missed : ∀ fence ∈ fences, (decide (fence.effectScopeId = scopeId) &&
        decide (fence.logicalGenerationScopeId = none)) = false := by
      intro fence member
      by_cases same : fence.effectScopeId = scopeId
      · simp [assigned _ (List.mem_cons_self ..) fence member same]
      · simp [same]
    have noHit : (fences.any fun fence => decide (fence.effectScopeId = scopeId) &&
        decide (fence.logicalGenerationScopeId = none)) = false :=
      List.any_eq_false.mpr fun fence member => by simp [missed fence member]
    rw [assignGenerations, noHit]
    simp only [Bool.false_and, Bool.false_eq_true, if_false, updateWhere_of_none missed]
    exact inductionHypothesis fun other member => assigned other (by simp [member])

section Backfills

variable {ledger : EffectLedger} {effects : List Effect} (holds : Holds ledger effects)
include holds

/-- The candidates are those of the effects, in the order of admission. -/
private theorem backfillCandidates_effects :
    ∃ candidates, ledger.backfillCandidates = .ok candidates ∧
      ∀ candidate, candidate ∈ candidates ↔
        ∃ effect ∈ effects, effect.request.candidate = .ok (some candidate) := by
  let rows := ledger.typedEffectRequests.insertionSort
    fun left right => left.acceptedAt ≤ right.acceptedAt
  have origin : ∀ row, row ∈ rows ↔ ∃ effect ∈ effects, effect.request = row := by
    intro row
    rw [(List.perm_insertionSort _ _).mem_iff, holds.requests, List.mem_map]
  have read : ∀ row ∈ rows, row.candidate = .ok (row.candidate.toOption.getD none) := by
    intro row member
    obtain ⟨effect, _, rfl⟩ := (origin row).mp member
    rw [effect.candidate_eq]
    rfl
  refine ⟨(rows.map fun row => row.candidate.toOption.getD none).reduceOption, ?_, ?_⟩
  · have readAll := mapM_eq_ok read
    simp only [EffectLedger.backfillCandidates, holds.legacy]
    simp only [rows] at readAll ⊢
    rw [readAll]
    simp [List.insertionSort]
  · intro candidate
    simp only [List.reduceOption, List.filterMap_map, List.mem_filterMap, Function.comp_apply,
      id_eq]
    constructor
    · rintro ⟨row, member, value⟩
      obtain ⟨effect, owned, rfl⟩ := (origin row).mp member
      exact ⟨effect, owned, by rw [read _ member, value]⟩
    · rintro ⟨effect, owned, value⟩
      exact ⟨effect.request, (origin _).mpr ⟨effect, owned, rfl⟩, by rw [value]; rfl⟩

/-- `_backfill_effect_scope_fences` spends the attempt of every effect whose
request is no longer `ACCEPTED`. -/
theorem EffectLedger.backfillEffectScopeFences_effects (now : Nat) :
    ledger.backfillEffectScopeFences now =
      (ledger.withEffects (effects.map (·.consumed now)), .ok ()) := by
  obtain ⟨candidates, read, origin⟩ := backfillCandidates_effects holds
  simp only [EffectLedger.backfillEffectScopeFences, read]
  have shape : ∀ {candidate : BackfillCandidate} {effect : Effect},
      effect.request.candidate = .ok (some candidate) →
        candidate.effectScopeId = effect.scopeId ∧ candidate.boundary = (effect.state ≠ .accepted) := by
    intro candidate effect value
    rw [effect.candidate_eq] at value
    obtain rfl := Option.some.inj (Except.ok.inj value)
    exact ⟨rfl, by simp⟩
  have present : ∀ candidate ∈ candidates, ∃ fence ∈ ledger.effectScopeFences,
      fence.effectScopeId = candidate.effectScopeId := by
    intro candidate member
    obtain ⟨effect, owned, value⟩ := (origin candidate).mp member
    rw [holds.fences]
    exact ⟨effect.fence, List.mem_map_of_mem owned, (shape value).1.symm⟩
  have spent : ∀ effect ∈ effects, (candidates.any fun candidate =>
      candidate.boundary && candidate.effectScopeId = effect.scopeId) =
        decide (effect.state ≠ .accepted) := by
    intro effect owned
    rw [Bool.eq_iff_iff, List.any_eq_true, decide_eq_true_iff]
    constructor
    · rintro ⟨candidate, member, both⟩
      obtain ⟨other, otherOwned, value⟩ := (origin candidate).mp member
      have ⟨boundary, same⟩ := Bool.and_eq_true_iff.mp both
      have alone : other = effect := eq_of_key holds.scopeIds otherOwned owned
        ((shape value).1.symm.trans (of_decide_eq_true same))
      exact alone ▸ (shape value).2.mp boundary
    · intro moved
      have member := (origin _).mpr ⟨effect, owned, effect.candidate_eq⟩
      exact ⟨_, member, by simp [moved]⟩
  rw [foldl_backfillFence now candidates _ present]
  have fences : (ledger.effectScopeFences.map fun fence =>
      if candidates.any (fun candidate =>
          candidate.boundary && candidate.effectScopeId = fence.effectScopeId) then
        fence.consumed now
      else fence) = (effects.map (·.consumed now)).map Effect.fence := by
    rw [holds.fences, List.map_map, List.map_map]
    refine List.map_congr_left fun effect owned => ?_
    change (if (candidates.any fun candidate =>
        candidate.boundary && decide (candidate.effectScopeId = effect.scopeId)) = true then _
      else _) = (effect.consumed now).fence
    rw [spent effect owned, Effect.consumed]
    by_cases accepted : effect.state = .accepted
    · simp [accepted]
    · rw [if_pos (decide_eq_true accepted), if_neg accepted]
      rfl
  have requests : (effects.map (·.consumed now)).map Effect.request =
      ledger.typedEffectRequests := by
    rw [holds.requests, List.map_map]
    refine List.map_congr_left fun effect _ => ?_
    simp only [Function.comp_apply, Effect.consumed]
    split <;> rfl
  simp only [EffectLedger.withEffects, fences, requests]

/-- `_backfill_logical_generation_scopes` finds every generation assigned. -/
theorem EffectLedger.backfillLogicalGenerationScopes_effects :
    ledger.backfillLogicalGenerationScopes = (ledger, .ok ()) := by
  let sorted := ledger.effectScopeFences.insertionSort
    fun left right => left.createdAt ≤ right.createdAt
  have perm : sorted.Perm (effects.map Effect.fence) :=
    (List.perm_insertionSort _ _).trans (by rw [holds.fences])
  have distinct : ((sorted.filterMap (·.generation?)).map Prod.fst).Nodup := by
    rw [((perm.filterMap _).map Prod.fst).nodup_iff, List.filterMap_map, List.map_filterMap]
    refine (List.filterMap_congr fun effect _ => ?_) ▸ holds.generationIds
    simp [effect.generation?_eq, Option.map_map, Function.comp_def]
  have assigned : ∀ entry ∈ sorted.filterMap (·.generation?), ∀ fence ∈ ledger.effectScopeFences,
      fence.effectScopeId = entry.2.1 → fence.logicalGenerationScopeId ≠ none := by
    intro entry planned fence member same
    obtain ⟨row, sortedRow, generation⟩ := List.mem_filterMap.mp planned
    obtain ⟨effect, owned, rfl⟩ := List.mem_map.mp (perm.mem_iff.mp sortedRow)
    rw [holds.fences] at member
    obtain ⟨other, otherOwned, rfl⟩ := List.mem_map.mp member
    rw [effect.generation?_eq] at generation
    obtain ⟨logicalId, known, rfl⟩ := Option.map_eq_some_iff.mp generation
    have alone : other = effect := eq_of_key holds.scopeIds otherOwned owned same
    subst alone
    simp [known]
  simp only [EffectLedger.backfillLogicalGenerationScopes]
  rw [checkGenerations_eq_ok ledger.plannedGenerations [] distinct (by simp)]
  simp only [assignGenerations_of_assigned _ ledger.plannedGenerations assigned]

/-- `reconcile_started` ends every interrupted effect as unknown. -/
theorem EffectLedger.reconcileStarted_effects (now : Nat) :
    ledger.reconcileStarted now = ledger.withEffects (effects.map (·.restarted now)) := by
  have requests : updateWhere (fun row : TypedEffectRequest => row.state = .executionStarted)
      (·.restarted now) ledger.typedEffectRequests =
        (effects.map (·.restarted now)).map Effect.request := by
    rw [holds.requests]
    refine updateWhere_map Effect.request _ effects fun effect _ => ?_
    change (if decide (effect.state = _) = true then _ else _) = _
    simp only [Effect.restarted, decide_eq_true_eq]
    split_ifs <;> rfl
  have unknown : ∀ effect ∈ effects, ((effects.map (·.restarted now)).map Effect.request).any
      (fun row => row.requestId = effect.requestId && row.state = .outcomeUnknown) =
        decide (effect.state = .executionStarted ∨ effect.state = .outcomeUnknown) := by
    intro effect owned
    rw [Bool.eq_iff_iff, decide_eq_true_iff, List.map_map, List.any_map, List.any_eq_true]
    constructor
    · rintro ⟨other, otherOwned, both⟩
      obtain ⟨sameId, state⟩ := Bool.and_eq_true_iff.mp both
      have kept : (other.restarted now).requestId = other.requestId := by
        simp [Effect.requestId, other.restarted_source now]
      have alone : other = effect := eq_of_key holds.requestIds otherOwned owned
        (kept.symm.trans (of_decide_eq_true sameId))
      have unknown : (other.restarted now).state = .outcomeUnknown := of_decide_eq_true state
      rw [alone, effect.restarted_state now] at unknown
      split at unknown
      · exact .inl ‹_›
      · exact .inr unknown
    · intro state
      refine ⟨effect, owned, Bool.and_eq_true_iff.mpr ⟨?_, ?_⟩⟩
      · exact decide_eq_true (by simp [Effect.requestId, effect.restarted_source now])
      · refine decide_eq_true ((effect.restarted_state now).trans ?_)
        split
        · rfl
        · exact state.resolve_left ‹_›
  have fences : updateWhere (fun fence : EffectScopeFence =>
      (((effects.map (·.restarted now)).map Effect.request).any (fun row =>
        row.requestId = fence.ownerRequestId && row.state = .outcomeUnknown) ||
        false) && fence.state.interrupted)
      (·.restarted now) ledger.effectScopeFences =
        (effects.map (·.restarted now)).map Effect.fence := by
    rw [holds.fences]
    refine updateWhere_map Effect.fence _ effects fun effect owned => ?_
    rw [Effect.fence_ownerRequestId, unknown effect owned, Bool.or_false, effect.restarted_fence now]
    simp
  simp only [EffectLedger.reconcileStarted, holds.legacy]
  have none : updateWhere (fun row : LegacyEffectRequest => row.state = .executionStarted)
      (·.restarted now) [] = [] := rfl
  simp only [none, requests, List.any_nil, fences, EffectLedger.withEffects]
  rw [holds.legacy]

/-- Opening the database moves every effect and adds none. -/
theorem EffectLedger.reopen_effects (producerId : String) (generation : Int) (now : Nat)
    (bindable : -maxSqliteInteger - 1 ≤ generation ∧ generation ≤ maxSqliteInteger) :
    ledger.reopen producerId generation now =
      ((ledger.insertAuthority producerId generation now).withEffects
        (effects.map (·.reopened now)), .ok ()) := by
  have inserted : Holds (ledger.insertAuthority producerId generation now) effects :=
    holds.of_tables rfl rfl rfl
  have consumed := inserted.withEffects_moved (·.consumed now) (·.consumed_source now)
    fun _ phase => phase.consumed now
  rw [EffectLedger.reopen, if_neg (by omega), backfillEffectScopeFences_effects inserted]
  simp only [EffectLedger.finishOpening, backfillLogicalGenerationScopes_effects consumed]
  have distinct : (((ledger.insertAuthority producerId generation now).withEffects
      (effects.map (·.consumed now))).effectScopeFences.filterMap
        (·.logicalGenerationScopeId)).Nodup := by
    rw [consumed.fences, List.filterMap_map]
    exact consumed.generationIds
  rw [if_pos distinct, reconcileStarted_effects consumed]
  simp only [EffectLedger.withEffects, List.map_map]
  rfl

end Backfills

end LiveStream.Boundary

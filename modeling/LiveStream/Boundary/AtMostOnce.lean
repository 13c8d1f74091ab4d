import LiveStream.Boundary.Advance

/-! One physical attempt for each scope and each generation: a fence that was
reserved never becomes reservable again, and its keys are never reused. -/

namespace LiveStream.Boundary

open LiveStream.Support

/-- The fence row that a successful `mark_effect_boundary` updated. -/
def reservedFence
    (taken : Taken EffectLedger (LedgerOp × Nat) (Except PyError LedgerReply)) :
    Option EffectScopeFence :=
  match taken.event.1, taken.output with
  | .markEffectBoundary requestId, .ok (.updated true) =>
    taken.before.effectScopeFences.find? fun fence =>
      fence.ownerRequestId = requestId && fence.reservable
  | _, _ => none

/-- The effect is past the point where its attempt could be reserved. -/
def Effect.Spent (effect : Effect) : Prop :=
  effect.state ≠ .accepted ∧ effect.fenceState ≠ .executionStarted

theorem Effect.Spent.concluded {effect : Effect} (spent : effect.Spent) {state : EffectState}
    {attempted : Bool} {evidence : Fields} {now : Nat} (resolved : state.resolved = true) :
    (effect.concluded state attempted evidence now).Spent :=
  ⟨spent.1, by rintro rfl; cases resolved⟩

theorem Effect.Spent.consumed {effect : Effect} (spent : effect.Spent) (now : Nat) :
    (effect.consumed now).Spent := by
  rw [Effect.consumed, if_neg spent.1]
  refine ⟨spent.1, ?_⟩
  change (if effect.fenceState = .accepted then EffectState.outcomeUnknown
    else effect.fenceState) ≠ _
  split
  · simp
  · exact spent.2

theorem Effect.Spent.restarted {effect : Effect} (spent : effect.Spent) (now : Nat) :
    (effect.restarted now).Spent := by
  unfold Effect.restarted
  split_ifs with running
  · exact ⟨by simp, by simp⟩
  · exact ⟨by simp, spent.2⟩
  · exact ⟨spent.1, by simp⟩
  · exact spent

/-- No operation makes a spent effect reservable again. -/
theorem LedgerOp.move_spent (op : LedgerOp) (now : Nat) {effect : Effect}
    (spent : effect.Spent) : (op.move now effect).Spent := by
  cases op with
  | accept _ | switchAuthority _ => exact spent
  | start requestId =>
    rw [LedgerOp.move, if_neg fun hit => spent.1 hit.2]
    exact spent
  | finish requestId ending result =>
    simp only [LedgerOp.move]
    split
    · cases ending <;> exact ⟨EffectState.noConfusion, EffectState.noConfusion⟩
    · exact spent
  | markEffectBoundary requestId =>
    rw [LedgerOp.move, if_neg fun hit => spent.2 hit.2.1]
    exact spent
  | recordReconciliation arguments =>
    simp only [LedgerOp.move]
    split
    · rename_i resolution _
      split
      · cases resolution with
        | effectObserved | noEffectProven => exact spent.concluded rfl
        | remainsUnknown => exact spent
      · exact spent
    · exact spent
  | recordTargetRetirement arguments =>
    simp only [LedgerOp.move]
    split
    · exact spent.concluded rfl
    · exact spent
  | reopen _ _ => exact (spent.consumed now).restarted now

section Keys

variable {κ : Type} (key : EffectScopeFence → Option κ)

/-- The key of some spent effect of the ledger. -/
def SpentKey (ledger : EffectLedger) (token : κ) : Prop :=
  ∃ effects, Holds ledger effects ∧ ∃ effect ∈ effects, key effect.fence = some token ∧
    effect.Spent

variable {ledger : EffectLedger}

/-- A reserved fence is the fence of an effect that was not spent. -/
theorem effect_of_reservedFence {event : LedgerOp × Nat} {fence : EffectScopeFence}
    {effects : List Effect} (holds : Holds ledger effects)
    (reserved : reservedFence (take EffectLedger.step ledger event) = some fence) :
    ∃ requestId, event.1 = .markEffectBoundary requestId ∧ ∃ effect ∈ effects,
      effect.fence = fence ∧ effect.requestId = requestId ∧
        effect.fenceState = .executionStarted ∧ effect.attempted = false := by
  obtain ⟨op, now⟩ := event
  cases op with
  | markEffectBoundary requestId =>
    simp only [reservedFence, take] at reserved
    split at reserved
    · rename_i named _ same _
      obtain rfl := LedgerOp.markEffectBoundary.inj same
      have member := List.mem_of_find?_eq_some reserved
      rw [holds.fences] at member
      obtain ⟨effect, owned, rfl⟩ := List.mem_map.mp member
      have hit := List.find?_some reserved
      obtain ⟨owner, reservable⟩ := Bool.and_eq_true_iff.mp hit
      exact ⟨_, rfl, effect, owned, rfl, of_decide_eq_true owner,
        effect.reservable_iff.mp reservable⟩
    · cases reserved
  | accept _ | start _ | finish _ _ _ | recordReconciliation _ | recordTargetRetirement _
  | switchAuthority _ | reopen _ _ => simp [reservedFence, take] at reserved

/-- For a key that no two effects share and no operation changes, no value is
reserved twice. -/
theorem reservedKeys_nodup
    (unique : ∀ {ledger effects}, Holds ledger effects →
      (effects.filterMap fun effect => key effect.fence).Nodup)
    (kept : ∀ (op : LedgerOp) (now : Nat) (effect : Effect),
      key (op.move now effect).fence = key effect.fence)
    (events : List (LedgerOp × Nat)) :
    ((trace EffectLedger.step .empty events).filterMap fun taken =>
      (reservedFence taken).bind key).Nodup := by
  have same : ∀ {ledger effects}, Holds ledger effects → ∀ {left right : Effect} {token : κ},
      left ∈ effects → right ∈ effects → key left.fence = some token →
        key right.fence = some token → left = right := by
    intro ledger effects holds left right token leftMember rightMember leftKey rightKey
    exact eq_of_optionalKey (unique holds) leftMember rightMember leftKey rightKey
  refine (emitted_nodup EffectLedger.Consistent (SpentKey key) _ (fun ledger event consistent => consistent.step event) ?_ ?_ ?_ ⟨[], holds_empty⟩).1
  · rintro ledger event token _ emitted ⟨effects, holds, other, otherMember, otherKey, spent⟩
    obtain ⟨fence, reserved, carried⟩ := Option.bind_eq_some_iff.mp emitted
    obtain ⟨_, _, effect, member, rfl, _, running, _⟩ := effect_of_reservedFence holds reserved
    obtain rfl := same holds otherMember member otherKey carried
    exact spent.2 running
  · rintro ledger ⟨op, now⟩ token ⟨effects, holds⟩ emitted
    obtain ⟨fence, reserved, carried⟩ := Option.bind_eq_some_iff.mp emitted
    obtain ⟨requestId, rfl, effect, member, rfl, owner, running, unattempted⟩ :=
      effect_of_reservedFence holds reserved
    refine ⟨_, ?_, (LedgerOp.markEffectBoundary requestId).move now effect,
      List.mem_map_of_mem member, (kept _ _ _).trans carried, ?_⟩
    · simp only [EffectLedger.step, EffectLedger.markEffectBoundary_effects holds]
      exact holds.withEffects_moved _ (LedgerOp.move_source _ now) fun _ =>
        LedgerOp.move_phase _ now
    · rw [LedgerOp.move, if_pos ⟨owner, running, unattempted⟩]
      refine ⟨fun accepted => ?_, by simp [Effect.reserved]⟩
      have allowed := (holds.phases effect member).allowed
      rw [running, show effect.state = .accepted from accepted] at allowed
      cases allowed
  · rintro ledger event token _ ⟨effects, holds, effect, member, carried, spent⟩
    obtain ⟨after, advance, holdsAfter⟩ := EffectLedger.step_advances holds event
    cases advance with
    | refused => exact ⟨_, holdsAfter, effect, member, carried, spent⟩
    | moved _ =>
      exact ⟨_, holdsAfter, _, List.mem_map_of_mem member, (kept _ _ _).trans carried,
        event.1.move_spent event.2 spent⟩
    | admitted =>
      exact ⟨_, holdsAfter, effect, List.mem_append_left _ member, carried, spent⟩

end Keys

/-- However the operations are ordered, and across restarts, at most one attempt
is reserved for each scope and for each generation. -/
theorem EffectLedger.effect_boundary_at_most_once (events : List (LedgerOp × Nat)) :
    ((trace EffectLedger.step .empty events).filterMap fun taken =>
        (reservedFence taken).map (·.effectScopeId)).Nodup ∧
      ((trace EffectLedger.step .empty events).filterMap fun taken =>
        (reservedFence taken).bind (·.logicalGenerationScopeId)).Nodup := by
  constructor
  · have once := reservedKeys_nodup (fun fence => some fence.effectScopeId) ?_ ?_ events
    · simpa only [Option.map_eq_bind, Function.comp_def] using once
    · intro ledger effects holds
      simpa using holds.scopeIds
    · intro op now effect
      simp
  · refine reservedKeys_nodup (·.logicalGenerationScopeId) ?_ ?_ events
    · intro ledger effects holds
      exact holds.generationIds
    · intro op now effect
      simp

end LiveStream.Boundary

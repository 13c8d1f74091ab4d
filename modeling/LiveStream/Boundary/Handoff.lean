import LiveStream.Boundary.AtMostOnce

/-! Which producer crosses the effect boundary. A handoff waits for every effect
that counts as unresolved, but a request whose fence was released does not count
and can still be started. -/

namespace LiveStream.Boundary

open LiveStream.Support

def Effect.producer (effect : Effect) : String × Int :=
  (effect.source.1.producerId, effect.source.1.producerGeneration)

/-- The request that an operation moves to `EXECUTION_STARTED`. -/
def LedgerOp.started? : LedgerOp → Option String
  | .start requestId => some requestId
  | .accept _ | .finish _ _ _ | .markEffectBoundary _ | .recordReconciliation _
  | .recordTargetRetirement _ | .switchAuthority _ | .reopen _ _ => none

/-- The producer that a request row records. -/
def EffectLedger.requestProducer? (ledger : EffectLedger) (requestId : String) :
    Option (String × Int) :=
  (ledger.typedEffectRequests.find? fun row => row.requestId = requestId).map
    fun row => (row.producerId, row.producerGeneration)

/-- The step reserved no attempt, or one for the producer in office. -/
def CrossesInOffice
    (taken : Taken EffectLedger (LedgerOp × Nat) (Except PyError LedgerReply)) : Prop :=
  ∀ fence, reservedFence taken = some fence →
    (taken.before.requestProducer? fence.ownerRequestId).isSome = true ∧
      taken.before.requestProducer? fence.ownerRequestId = taken.before.producer?

/-- A request whose fence was released is only started for the producer in office. -/
def StartsInOffice (ledger : EffectLedger) (event : LedgerOp × Nat) : Prop :=
  ∀ requestId ∈ event.1.started?, ledger.requestState? requestId = some .accepted →
    (ledger.fenceOf? requestId).map (·.state) = some .releasedNoEffect →
    ledger.requestProducer? requestId = ledger.producer?

instance (ledger : EffectLedger) (event : LedgerOp × Nat) :
    Decidable (StartsInOffice ledger event) :=
  inferInstanceAs (Decidable (∀ requestId ∈ event.1.started?, _ → _ → _))

theorem Holds.requestProducer?_eq {ledger : EffectLedger} {effects : List Effect}
    (holds : Holds ledger effects) {effect : Effect} (member : effect ∈ effects) :
    ledger.requestProducer? effect.requestId = some effect.producer := by
  have row : effect.request ∈ ledger.typedEffectRequests := by
    rw [holds.requests]
    exact List.mem_map_of_mem member
  have found := find?_key holds.requestIds_rows row
  change ledger.typedEffectRequests.find? (fun row => row.requestId = effect.requestId) = _ at found
  rw [EffectLedger.requestProducer?, found]
  rfl

/-- The attempt of the effect can still be reserved, now or after it is started. -/
def Effect.Reservable (effect : Effect) : Prop :=
  effect.fenceState = .accepted ∨
    effect.fenceState = .executionStarted ∧ effect.attempted = false

/-- A reservable effect counts as unresolved, so no handoff passes it. -/
theorem Effect.Reservable.counts {effect : Effect} (phase : effect.Phase)
    (reservable : effect.Reservable) :
    countsUnresolved effect.state (some effect.fence) = true := by
  have allowed := phase.allowed
  rcases reservable with admitted | ⟨started, _⟩
  · rw [admitted] at allowed
    cases state : effect.state <;>
      simp_all [phaseAllowed, EffectState.resolved, countsUnresolved]
  · rw [started] at allowed
    cases state : effect.state <;>
      simp_all [phaseAllowed, EffectState.resolved, countsUnresolved]

private theorem concluded_not_reservable {effect : Effect} {state : EffectState}
    {attempted : Bool} {evidence : Fields} {now : Nat} (resolved : state.resolved = true) :
    ¬ (effect.concluded state attempted evidence now).Reservable := by
  rintro (rfl | ⟨rfl, _⟩) <;> cases resolved

private theorem reservable_of_reopened {effect : Effect} (phase : effect.Phase) {now : Nat}
    (reservable : (effect.reopened now).Reservable) : effect.Reservable := by
  have ⟨_, fence, attempted⟩ := phase.reopened_states now
  unfold Effect.Reservable at reservable ⊢
  rw [fence, attempted] at reservable
  have allowed := phase.allowed
  rcases reservable with admitted | ⟨started, unattempted⟩
  · split at admitted
    · cases admitted
    · exact .inl admitted
  · split at started
    · cases started
    · split at unattempted
      · exact .inr ⟨started, unattempted⟩
      · cases unattempted

/-- An effect becomes reservable only by starting a request whose fence was released. -/
theorem LedgerOp.reservable_of_move (op : LedgerOp) (now : Nat) {effect : Effect}
    (phase : effect.Phase) (reservable : (op.move now effect).Reservable) :
    effect.Reservable ∨ op = .start effect.requestId ∧ effect.state = .accepted ∧
      effect.fenceState = .releasedNoEffect := by
  cases op with
  | accept _ | switchAuthority _ => exact .inl reservable
  | start requestId =>
    simp only [LedgerOp.move] at reservable
    split at reservable
    · rename_i hit
      obtain ⟨rfl, accepted⟩ := hit
      have allowed := phase.allowed
      rw [accepted] at allowed
      have unattempted : effect.attempted = false := by
        rcases reservable with impossible | ⟨_, unattempted⟩
        · cases impossible
        · exact unattempted
      cases fence : effect.fenceState <;>
        simp_all [phaseAllowed, Effect.Reservable]
      exact absurd (phase.attempt (by simp [fence, EffectState.implyAttempt])) (by simp [unattempted])
    · exact .inl reservable
  | finish requestId ending result =>
    simp only [LedgerOp.move] at reservable
    split at reservable
    · rcases reservable with impossible | ⟨impossible, _⟩ <;> cases ending <;> cases impossible
    · exact .inl reservable
  | markEffectBoundary requestId =>
    simp only [LedgerOp.move] at reservable
    split at reservable
    · rcases reservable with impossible | ⟨impossible, _⟩ <;> cases impossible
    · exact .inl reservable
  | recordReconciliation arguments =>
    simp only [LedgerOp.move] at reservable
    split at reservable
    · rename_i resolution _
      split at reservable
      · cases resolution with
        | effectObserved | noEffectProven =>
          exact absurd reservable (concluded_not_reservable rfl)
        | remainsUnknown => exact .inl reservable
      · exact .inl reservable
    · exact .inl reservable
  | recordTargetRetirement arguments =>
    simp only [LedgerOp.move] at reservable
    split at reservable
    · exact absurd reservable (concluded_not_reservable rfl)
    · exact .inl reservable
  | reopen _ _ => exact .inl (reservable_of_reopened phase reservable)

/-- Every reservable effect belongs to the producer in office. -/
def InOffice (ledger : EffectLedger) : Prop :=
  ∃ effects, Holds ledger effects ∧
    ∀ effect ∈ effects, effect.Reservable → ledger.producer? = some effect.producer

theorem InOffice.step {ledger : EffectLedger} (event : LedgerOp × Nat)
    (inOffice : InOffice ledger) (guarded : StartsInOffice ledger event) :
    InOffice (ledger.step event).1 := by
  obtain ⟨effects, holds, office⟩ := inOffice
  obtain ⟨after, advance, holdsAfter⟩ := EffectLedger.step_advances holds event
  have kept : ∀ effect ∈ effects, effect.Reservable →
      (ledger.step event).1.producer? = some effect.producer := fun effect member reservable =>
    EffectLedger.step_producer holds event (office effect member reservable)
      fun _ _ => ⟨effect, member, reservable.counts (holds.phases effect member)⟩
  refine ⟨after, holdsAfter, ?_⟩
  cases advance with
  | refused => exact kept
  | moved _ =>
    intro moved member reservable
    obtain ⟨effect, owned, rfl⟩ := List.mem_map.mp member
    have same : (event.1.move event.2 effect).producer = effect.producer := by
      simp [Effect.producer, (event.1.move_source event.2 effect).1]
    rw [same]
    rcases event.1.reservable_of_move event.2 (holds.phases effect owned) reservable with
      already | ⟨started, accepted, released⟩
    · exact kept effect owned already
    · have started' := guarded effect.requestId (by rw [started]; rfl)
        (by rw [holds.requestState?_eq owned, accepted])
        (by rw [holds.fenceOf?_eq owned]; simp [released])
      rw [holds.requestProducer?_eq owned] at started'
      exact EffectLedger.step_producer holds event started'.symm fun arguments switch => by
        rw [started] at switch
        cases switch
  | admitted source scopeId derived active accepted authority producer generation quiet =>
    have current : ledger.producer? =
        some (Effect.admitted source scopeId derived event.2).producer := by
      simp [EffectLedger.producer?, authority, producer, generation, Effect.producer,
        Effect.admitted]
    intro effect member reservable
    rcases List.mem_append.mp member with old | new
    · exact kept effect old reservable
    · obtain rfl := List.mem_singleton.mp new
      exact EffectLedger.step_producer holds event current fun arguments switch => by
        rw [accepted] at switch
        cases switch

/-- In every run in which no request with a released fence is started out of
office, only the producer in office crosses the effect boundary. -/
theorem EffectLedger.crosses_in_office (events : List (LedgerOp × Nat))
    (guarded : Guarded EffectLedger.step StartsInOffice .empty events) :
    ∀ taken ∈ trace EffectLedger.step .empty events, CrossesInOffice taken := by
  intro taken member fence reserved
  have initially : InOffice .empty := ⟨[], holds_empty, by simp⟩
  obtain ⟨⟨effects, holds, office⟩, same⟩ := trace_invariant InOffice
    (fun ledger event inOffice => inOffice.step event) initially guarded taken member
  rw [same] at reserved
  obtain ⟨_, _, effect, owned, rfl, _, started, unattempted⟩ :=
    effect_of_reservedFence holds reserved
  rw [Effect.fence_ownerRequestId, holds.requestProducer?_eq owned]
  exact ⟨rfl, (office effect owned (.inr ⟨started, unattempted⟩)).symm⟩

/-- A restart request of the first producer. -/
def detectorRequest : ParsedRequest :=
  .ofMapping (restartFields "restart-1" "detector" "generation-1") (by decide +kernel)

/-- A request that is admitted, started and carried to the boundary. -/
def ordinaryRun : List (LedgerOp × Nat) :=
  [(.reopen "detector" 1, 0), (.accept detectorRequest, 1), (.start "restart-1", 2),
    (.markEffectBoundary "restart-1", 3)]

theorem EffectLedger.crosses_in_office_ordinary :
    ((trace EffectLedger.step .empty ordinaryRun).any fun taken =>
        (reservedFence taken).isSome) = true ∧
      (trace EffectLedger.step .empty ordinaryRun).Forall CrossesInOffice := by
  refine ⟨by decide +kernel, ?_⟩
  apply List.forall_iff_forall_mem.mpr
  exact crosses_in_office ordinaryRun (by decide +kernel)

/-- The request that a step accepted, replays included. -/
def acceptedRequest?
    (taken : Taken EffectLedger (LedgerOp × Nat) (Except PyError LedgerReply)) : Option String :=
  match taken.event.1, taken.output with
  | .accept request, .ok (.accepted reply) =>
    if reply.accepted then some request.1.requestId else none
  | _, _ => none

/-- Requests are started only after an `accept` that returned `accepted=True`. -/
def startsAfterAccept (accepted : List String) :
    List (Taken EffectLedger (LedgerOp × Nat) (Except PyError LedgerReply)) → Bool
  | [] => true
  | taken :: rest =>
    taken.event.1.started?.all accepted.contains &&
      startsAfterAccept ((acceptedRequest? taken).toList ++ accepted) rest

/-- The request is released, the producer is switched away, and a replay of the
request starts it. -/
def releasedRun : List (LedgerOp × Nat) :=
  [(.reopen "detector" 1, 0),
    (.accept detectorRequest, 1),
    (.recordReconciliation
      { reconciliationId := "reconciliation-1"
        effectScopeId := .exactTarget (restartTarget "generation-1")
        resolution := Resolution.noEffectProven.text
        evidence := [("physical_effect_count", .int 0)]
        ownerRequestId := none
        ownerRequestDigest := none }, 2),
    (.switchAuthority ⟨"detector", 1, "operator", 1⟩, 3),
    (.accept detectorRequest, 4),
    (.start "restart-1", 5),
    (.markEffectBoundary "restart-1", 6)]

/-- A producer that was switched away can still cross the boundary by a replay. -/
theorem EffectLedger.crosses_out_of_office :
    ¬ ∀ events : List (LedgerOp × Nat),
      startsAfterAccept [] (trace EffectLedger.step .empty events) = true →
      ∀ taken ∈ trace EffectLedger.step .empty events, CrossesInOffice taken := by
  intro every
  have crossing : (trace EffectLedger.step .empty releasedRun).any (fun taken =>
      (reservedFence taken).any fun fence =>
        taken.before.requestProducer? fence.ownerRequestId ≠ taken.before.producer?) = true := by
    decide +kernel
  obtain ⟨taken, member, crossed⟩ := List.any_eq_true.mp crossing
  obtain ⟨fence, reserved, other⟩ := (Option.any_eq_true ..).mp crossed
  have inOffice := every releasedRun (by decide +kernel) taken member fence reserved
  exact of_decide_eq_true other inOffice.2

end LiveStream.Boundary

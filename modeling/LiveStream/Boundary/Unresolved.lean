import LiveStream.Boundary.Handoff

/-! What is unresolved, in the words of three queries: the count of the ledger, its list of
open fences, and the sum that a maintenance host reports. -/

namespace LiveStream.Boundary

open LiveStream.Support

/-- What `ledger` of the maintenance host reports. -/
structure HostReport where
  producerId : String
  generation : Int
  authorityVersion : Nat
  unresolved : Nat

/-- The request states that the host counts as pending. -/
def EffectState.pending : EffectState → Bool
  | .accepted | .executionStarted | .outcomeUnknown => true
  | .effectBoundaryReached | .effectObserved | .effectFailed | .effectObservedAwaitingVerification
  | .reconciledEffectObserved | .releasedNoEffect | .retiredTargetOutcomeUnknown
  | .rejected => false

/-- Whether the host counts a request with its joined fence. -/
def countsPending (requestState : EffectState) (fence : Option EffectScopeFence) : Bool :=
  requestState.pending && !(fence.any fun fence => fence.state.resolved)

/-- `pending`, over both request tables. -/
def EffectLedger.hostPending (ledger : EffectLedger) : Nat :=
  ledger.effectRequests.countP
      (fun row => countsPending row.state (ledger.fenceOf? row.requestId)) +
    ledger.typedEffectRequests.countP
      (fun row => countsPending row.state (ledger.fenceOf? row.requestId))

/-- `ledger` of the maintenance host, on a database that is there. -/
def EffectLedger.hostReport (ledger : EffectLedger) : Except String HostReport :=
  match ledger.runtimeAuthority with
  | none => .error "authority_missing"
  | some authority =>
    let fences := ledger.effectScopeFences.countP (·.state.unresolved)
    .ok ⟨authority.producerId, authority.producerGeneration, authority.authorityVersion,
      fences + ledger.hostPending⟩

/-- A request counts as unresolved if and only if its fence is open. -/
theorem countsUnresolved_eq {request : EffectState} {fence : EffectScopeFence}
    (allowed : phaseAllowed request fence.state = true) :
    countsUnresolved request (some fence) = fence.state.unresolved := by
  cases request <;> cases state : fence.state <;>
    simp_all [countsUnresolved, phaseAllowed, EffectState.resolved, EffectState.unresolved]

/-- A pending request has an open fence. -/
theorem unresolved_of_pending {request : EffectState} {fence : EffectScopeFence}
    (allowed : phaseAllowed request fence.state = true)
    (pending : countsPending request (some fence) = true) : fence.state.unresolved = true := by
  cases request <;> cases state : fence.state <;>
    simp_all [countsPending, phaseAllowed, EffectState.pending, EffectState.resolved,
      EffectState.unresolved]

section Views

variable {ledger : EffectLedger} {effects : List Effect} (holds : Holds ledger effects)
include holds

theorem Holds.unresolvedCount_fences :
    ledger.unresolvedCount = effects.countP (·.fenceState.unresolved) := by
  rw [holds.unresolvedCount_eq]
  refine List.countP_congr fun effect member => ?_
  rw [countsUnresolved_eq (holds.phases effect member).allowed, Effect.fence_state]

theorem Holds.openFences_eq :
    ledger.effectScopeFences.countP (·.state.unresolved) =
      effects.countP (·.fenceState.unresolved) := by
  rw [holds.fences, List.countP_map]
  rfl

theorem Holds.length_unresolvedScopes :
    ledger.unresolvedScopes.length = effects.countP (·.fenceState.unresolved) := by
  rw [EffectLedger.unresolvedScopes, List.length_insertionSort, ← List.countP_eq_length_filter,
    holds.openFences_eq]

theorem Holds.hostPending_eq_zero (quiet : effects.countP (·.fenceState.unresolved) = 0) :
    ledger.hostPending = 0 := by
  rw [EffectLedger.hostPending, holds.legacy, List.countP_nil, Nat.zero_add, holds.requests,
    List.countP_map, List.countP_eq_zero]
  intro effect member pending
  rw [Function.comp_apply, Effect.request_state, Effect.request_requestId,
    holds.fenceOf?_eq member] at pending
  exact List.countP_eq_zero.mp quiet effect member
    (unresolved_of_pending (holds.phases effect member).allowed pending)

theorem Holds.hostReport_unresolved {report : HostReport}
    (reported : ledger.hostReport = .ok report) :
    report.unresolved = 0 ↔ ledger.unresolvedCount = 0 := by
  rw [EffectLedger.hostReport] at reported
  split at reported
  · cases reported
  · obtain rfl := Except.ok.inj reported
    dsimp only
    rw [holds.openFences_eq, holds.unresolvedCount_fences]
    constructor
    · intro none
      exact (Nat.add_eq_zero_iff.mp none).1
    · intro quiet
      rw [quiet, holds.hostPending_eq_zero quiet]

end Views

/-- In every reachable state the count is the number of open fences, and the host, which reports
wherever there is an authority, reports nothing unresolved exactly when the count is 0. -/
theorem EffectLedger.unresolved_views_agree (events : List (LedgerOp × Nat)) :
    (final EffectLedger.step .empty events).unresolvedCount =
        (final EffectLedger.step .empty events).unresolvedScopes.length ∧
      ((final EffectLedger.step .empty events).runtimeAuthority.isSome =
        (final EffectLedger.step .empty events).hostReport.isOk) ∧
      ∀ report, (final EffectLedger.step .empty events).hostReport = .ok report →
        (report.unresolved = 0 ↔
          (final EffectLedger.step .empty events).unresolvedCount = 0) := by
  obtain ⟨effects, holds⟩ := EffectLedger.consistent_of_run events
  refine ⟨?_, ?_, fun report reported => holds.hostReport_unresolved reported⟩
  · rw [holds.unresolvedCount_fences, holds.length_unresolvedScopes]
  · rw [EffectLedger.hostReport]
    split <;> rename_i office <;> rw [office] <;> rfl

theorem EffectLedger.unresolved_views_agree_running :
    ∃ report, (final EffectLedger.step .empty ordinaryRun).hostReport = .ok report ∧
      report.unresolved = 2 ∧
      (report.unresolved = 0 ↔
        (final EffectLedger.step .empty ordinaryRun).unresolvedCount = 0) :=
  ⟨⟨"detector", 1, 1, 2⟩, by rfl, rfl, (unresolved_views_agree ordinaryRun).2.2 _ (by rfl)⟩

end LiveStream.Boundary

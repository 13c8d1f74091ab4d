import LiveStream.Recovery.Steps

/-! What a decision to act rests on: the probe, the mode of the policy, and the history of the
database as the limits of the policy see it. -/

namespace LiveStream.Recovery

open LiveStream.Support

theorem blockedIf_eq_nil {condition : Bool} {name : String} :
    blockedIf condition name = [] ↔ condition = false := by
  cases condition <;> simp [blockedIf]

theorem networkBlockers_eq_nil {network : Option Network} (free : networkBlockers network = []) :
    Localized network := by
  cases network with
  | none => cases free
  | some found =>
    simp only [networkBlockers] at free
    split at free
    · cases free
    · split at free
      · cases free
      · split at free
        · cases free
        · exact ⟨found, rfl, by simp_all, by simp_all, by simp_all⟩

/-- What holds when a decision is to restart, or would be. -/
structure Grounds (policy : Policy) (network : Option Network) (history : History) (now : Instant)
    (outcome : Outcome) : Prop where
  localized : Localized network
  first : history.generationAlreadyActed = false
  cooldown : ∀ last, history.lastActionAt = some last → (policy.cooldownSec : ℚ) ≤ seconds (now - last)
  hourly : history.actionsLastHour < policy.maxPerHour
  daily : history.actionsLastDay < policy.maxPerDay
  mode : outcome = .restart ↔ policy.mode = .enforce

theorem decide_grounds {now : Instant} {obs : Observation} {streak : Nat} {duration : ℚ}
    {network : Option Network} {history : History} {policy : Policy} {producerId : String}
    {producerGeneration : Int} {stop : Bool}
    (acts : (decide now obs streak duration network history policy producerId producerGeneration
      stop).outcome ≠ .none) :
    Grounds policy network history now (decide now obs streak duration network history policy
      producerId producerGeneration stop).outcome := by
  unfold decide at acts ⊢
  split at acts
  · exfalso
    apply acts
    unfold unconfirmed
    split
    · rfl
    · split <;> rfl
  · split at acts
    · exact absurd rfl acts
    · rename_i confirmed late
      rw [if_neg confirmed, if_neg late]
      dsimp only at acts ⊢
      split at acts
      · exact absurd rfl acts
      · rename_i free
        rw [if_neg free]
        have free := of_not_not free
        simp only [List.append_eq_nil_iff] at free
        obtain ⟨⟨⟨network_free, _⟩, history_free⟩, _⟩ := free
        simp only [historyBlockers, List.append_eq_nil_iff, blockedIf_eq_nil,
          decide_eq_false_iff_not, not_le] at history_free
        obtain ⟨⟨⟨first, cooldown⟩, hourly⟩, daily⟩ := history_free
        refine ⟨networkBlockers_eq_nil network_free, first, fun last found => ?_, hourly, daily, ?_⟩
        · rw [found] at cooldown
          simpa using cooldown
        · dsimp only
          by_cases enforce : policy.mode = .enforce
          · simp [enforce]
          · simp [enforce]

theorem le_seconds {span : Int} {bound : Nat} :
    (bound : ℚ) ≤ seconds span ↔ (bound : Int) * 1000000 ≤ span := by
  unfold seconds
  rw [le_div_iff₀ (by norm_num)]
  exact_mod_cast Iff.rfl

/-- The rows of a mode, as the history counts them and as their reservations say. -/
theorem heads_inMode (store : AgentStore) (mode : ActionMode) :
    (store.actions.map Action.head).filter (·.mode = mode) =
      (store.inMode mode).map Action.head := by
  rw [AgentStore.inMode, List.filter_map]
  rfl

theorem ts_head_le_lastCreated {store : AgentStore} {mode : ActionMode} {last : Int}
    (newest : store.lastCreated mode = some last) {action : Action}
    (member : action ∈ store.inMode mode) : action.createdAt ≤ last :=
  (List.max?_eq_some_iff.mp newest).2 _ (List.mem_map_of_mem member)

theorem countSince_eq (store : AgentStore) (mode : ActionMode) (now : Instant) (millis : Int) :
    store.countSince mode now (millis * 1000) =
      ((store.inMode mode).map Action.head).countP fun head => stamp now - millis ≤ head.ts := by
  have shifted : stamp (now - millis * 1000) = stamp now - millis := by
    unfold stamp
    omega
  rw [AgentStore.countSince, List.countP_map, shifted]
  rfl

/-- A decision on the history of the database allows the reservation. -/
theorem Grounds.allowed {store : AgentStore} {adopted : List Policy} {policy : Policy}
    {network : Option Network} {now : Instant} {generationKey : String} {outcome : Outcome}
    (known : Known adopted policy) (actionId : Nat)
    (grounds : Grounds policy network (store.history now generationKey policy.actionMode) now
      outcome) :
    Allowed adopted ((store.actions.map Action.head).filter (·.mode = policy.actionMode))
      ⟨stamp now, actionId, generationKey, policy.actionMode, policy.version⟩ := by
  refine ⟨policy, known, rfl, fun enforced => ?_, fun earlier member => ?_,
    fun earlier member => ?_, ?_, ?_⟩
  · by_contra other
    dsimp only at enforced
    rw [Policy.actionMode, if_neg other] at enforced
    cases enforced
  · intro same
    rw [heads_inMode] at member
    obtain ⟨action, found, rfl⟩ := List.mem_map.mp member
    obtain ⟨owned, mode⟩ := List.mem_filter.mp found
    have claimed := claimed_iff.mpr ⟨action, owned, same, of_decide_eq_true mode⟩
    rw [show store.claimed generationKey policy.actionMode = false from grounds.first] at claimed
    cases claimed
  · rw [heads_inMode] at member
    obtain ⟨action, found, rfl⟩ := List.mem_map.mp member
    cases newest : store.lastCreated policy.actionMode with
    | none =>
      have empty := List.max?_eq_none_iff.mp newest
      rw [List.map_eq_nil_iff] at empty
      rw [empty] at found
      cases found
    | some last =>
      have old := ts_head_le_lastCreated newest found
      have cooled := le_seconds.mp (grounds.cooldown (ofStamp last) (by
        simp [AgentStore.history, newest]))
      change action.createdAt + _ ≤ now / 1000
      unfold ofStamp at cooled
      omega
  · rw [heads_inMode]
    exact (countSince_eq store policy.actionMode now 3600000) ▸ grounds.hourly
  · rw [heads_inMode]
    exact (countSince_eq store policy.actionMode now 86400000) ▸ grounds.daily

end LiveStream.Recovery

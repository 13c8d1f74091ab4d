import LiveStream.Recovery.Decide
import LiveStream.Support.Run

/-! What a streak of the stall tracker rests on, over every history of its calls. -/

namespace LiveStream.Recovery

open LiveStream.Support

/-- A call of `update`. -/
structure Call where
  obs : Observation
  policy : Policy
  maxGapSec : ℚ

inductive TrackerEvent where
  | reset
  | update (call : Call)

/-- A call of the tracker, with what `update` returns: `stalled_now` and the streak. -/
def track (tracker : StallTracker) : TrackerEvent → StallTracker × Option (Bool × Nat)
  | .reset => (.new, none)
  | .update call =>
    let updated := tracker.update call.obs call.policy call.maxGapSec
    (updated.1, some updated.2)

/-- The observation repeats the sequence that was seen last; it is not counted. -/
def StallTracker.repeats (tracker : StallTracker) (call : Call) : Prop :=
  ¬ tracker.breaks call.obs call.policy call.maxGapSec ∧ call.obs.sequence = tracker.lastSequence

instance (tracker : StallTracker) (call : Call) : Decidable (tracker.repeats call) :=
  inferInstanceAs (Decidable (_ ∧ _))

def countedCall (taken : Taken StallTracker TrackerEvent (Option (Bool × Nat))) : Option Call :=
  match taken.event with
  | .reset => none
  | .update call => if taken.before.repeats call then none else some call

/-- The calls of a history whose observations are counted. -/
def counted (events : List TrackerEvent) : List Call :=
  (trace track .new events).filterMap countedCall

/-- Between two samples no byte was acknowledged. Where one of them does not report that, none
was sent and the last sending is long ago. -/
def Unmoved (policy : Policy) (last tcp : TcpMetrics) : Prop :=
  match tcp.bytesAcked, last.bytesAcked with
  | some acked, some before => acked = before
  | some _, none | none, some _ | none, none =>
    tcp.bytesSent = last.bytesSent ∧ (policy.stallLastsndMs : Int) ≤ tcp.lastsndMs

/-- Data is queued at or above a threshold. -/
def Queued (policy : Policy) (tcp : TcpMetrics) : Prop :=
  (policy.stallNotsentBytes : Int) ≤ tcp.notsent ∨ (policy.stallUnacked : Int) ≤ tcp.unacked

/-- A counted observation shows a stall since the one before. -/
structure Stalls (earlier later : Call) : Prop where
  advances : earlier.obs.sequence < later.obs.sequence
  forward : earlier.obs.observedAt ≤ later.obs.observedAt
  near : seconds (later.obs.observedAt - earlier.obs.observedAt) ≤ later.maxGapSec
  stands : ∃ tcp ∈ later.obs.tcp, ∃ last ∈ earlier.obs.tcp,
    Queued later.policy tcp ∧ Unmoved later.policy last tcp

/-- What a streak rests on, with the observation before it. -/
structure StallEvidence (before : Call) (streak : List Call) : Prop where
  /-- Every observation stalls since its predecessor, the first one since `before`. -/
  chain : (before :: streak).IsChain Stalls
  identity : ∃ identity, (before.obs.transportIdentity = identity ∨
      before.obs.transportIdentity.same identity) ∧
    ∀ call ∈ streak, call.obs.transportIdentity.same identity
  criteria : ∀ call ∈ streak, call.policy.criteria = before.policy.criteria

/-- The last counted call of a streak, or the one before it. -/
def latest (before : Call) (streak : List Call) : Call := streak.getLast?.getD before

@[simp] theorem latest_nil (before : Call) : latest before [] = before := rfl

@[simp] theorem latest_append (before : Call) (streak : List Call) (call : Call) :
    latest before (streak ++ [call]) = call := by
  simp [latest]

/-- What a tracker remembers of the calls that it counted. -/
structure Follows (tracker : StallTracker) (before : Call) (streak : List Call) : Prop where
  length : tracker.streak = streak.length
  chain : (before :: streak).IsChain Stalls
  identity : ∃ identity, tracker.identity = some identity ∧
    (before.obs.transportIdentity = identity ∨ before.obs.transportIdentity.same identity) ∧
    ∀ call ∈ streak, call.obs.transportIdentity.same identity
  criteria : ∀ call ∈ before :: streak, tracker.criteria = some call.policy.criteria
  started : tracker.stallStartedAt = if streak = [] then none else some before.obs.observedAt
  sequence : tracker.lastSequence = (latest before streak).obs.sequence
  observed : tracker.lastObservedAt = some (latest before streak).obs.observedAt
  sent : tracker.lastBytesSent = ((latest before streak).obs.tcp.map (·.bytesSent)).getD (-1)
  acked : tracker.lastBytesAcked = (latest before streak).obs.tcp.bind (·.bytesAcked)

variable {tracker : StallTracker} {before call : Call} {streak calls : List Call}

theorem follows_restart (tracker : StallTracker) (call : Call) :
    Follows (tracker.restart call.obs call.policy) call [] where
  length := rfl
  chain := .singleton call
  identity := ⟨call.obs.transportIdentity, rfl, Or.inl rfl, by simp⟩
  criteria := by simp [StallTracker.restart]
  started := rfl
  sequence := rfl
  observed := rfl
  sent := rfl
  acked := rfl

/-- What an observation that does not break with the one before agrees with. -/
structure Continues (tracker : StallTracker) (last call : Call) : Prop where
  identity : ∃ identity, tracker.identity = some identity ∧
    call.obs.transportIdentity.same identity = true
  sequence : last.obs.sequence ≤ call.obs.sequence
  forward : last.obs.observedAt ≤ call.obs.observedAt
  near : seconds (call.obs.observedAt - last.obs.observedAt) ≤ call.maxGapSec
  criteria : tracker.criteria = some call.policy.criteria

theorem seconds_nonneg {span : Int} : 0 ≤ seconds span ↔ 0 ≤ span := by
  unfold seconds
  rw [le_div_iff₀ (by norm_num), zero_mul]
  exact Int.cast_nonneg_iff

theorem continues_of_not_breaks (follows : Follows tracker before streak)
    (unbroken : ¬ tracker.breaks call.obs call.policy call.maxGapSec) :
    Continues tracker (latest before streak) call := by
  have gap : tracker.gap call.obs =
      seconds (call.obs.observedAt - (latest before streak).obs.observedAt) := by
    rw [StallTracker.gap, follows.observed]
  simp only [StallTracker.breaks, gap, Bool.or_eq_true, Bool.not_eq_true', decide_eq_true_eq,
    not_or, Bool.not_eq_false, not_lt, ne_eq, not_not] at unbroken
  obtain ⟨⟨⟨⟨identity, sequence⟩, forward⟩, near⟩, criteria⟩ := unbroken
  constructor
  · exact (Option.any_eq_true _ _).mp identity
  · exact follows.sequence ▸ sequence
  · exact Int.sub_nonneg.mp (seconds_nonneg.mp forward)
  · exact near
  · exact criteria

/-- Without a sample before, nothing stalls. -/
theorem stallSample_first (tcp : TcpMetrics) (policy : Policy) :
    stallSample tcp (-1) none policy = false := by
  unfold stallSample
  cases tcp.bytesAcked with
  | none => simp
  | some acked => simp

theorem stallSample_sound (tcp last : TcpMetrics) (policy : Policy) :
    stallSample tcp last.bytesSent last.bytesAcked policy = true →
      Queued policy tcp ∧ Unmoved policy last tcp := by
  unfold stallSample Queued Unmoved
  rcases tcp.bytesAcked with _ | acked <;> rcases last.bytesAcked with _ | before <;>
    simp only [Bool.and_eq_true, Bool.or_eq_true, decide_eq_true_eq]
  case some.some => exact id
  all_goals
    rintro ⟨⟨⟨queued, _⟩, unsent⟩, longAgo⟩
    exact ⟨queued, unsent, longAgo⟩

/-- The stall test compares a sample with the last one that was counted. -/
theorem stands_of_stalls (follows : Follows tracker before streak)
    (stalls : tracker.stalls call.obs call.policy = true) :
    ∃ tcp ∈ call.obs.tcp, ∃ last ∈ (latest before streak).obs.tcp,
      Queued call.policy tcp ∧ Unmoved call.policy last tcp := by
  obtain ⟨tcp, sampled, sample⟩ := (Option.any_eq_true _ _).mp stalls
  rw [follows.sent, follows.acked] at sample
  refine ⟨tcp, sampled, ?_⟩
  cases lastSample : (latest before streak).obs.tcp with
  | none =>
    rw [lastSample] at sample
    cases (stallSample_first tcp call.policy).symm.trans sample
  | some last =>
    rw [lastSample] at sample
    exact ⟨last, rfl, stallSample_sound tcp last call.policy sample⟩

/-- A counted observation that stalls lengthens the streak. -/
theorem follows_stalled (follows : Follows tracker before streak)
    (continues : Continues tracker (latest before streak) call)
    (fresh : call.obs.sequence ≠ tracker.lastSequence)
    (stalls : tracker.stalls call.obs call.policy = true) :
    Follows (tracker.count call.obs true) before (streak ++ [call]) := by
  have advances : (latest before streak).obs.sequence < call.obs.sequence :=
    lt_of_le_of_ne continues.sequence (follows.sequence ▸ fresh.symm)
  obtain ⟨identity, known, matching⟩ := follows.identity
  constructor
  · simp [StallTracker.count, follows.length]
  · rw [← List.cons_append]
    refine follows.chain.append (.singleton call) ?_
    intro last is_last next is_next
    cases is_next
    have same : last = latest before streak := by
      rw [List.getLast?_cons, Option.mem_some_iff] at is_last
      exact is_last.symm
    subst same
    exact ⟨advances, continues.forward, continues.near, stands_of_stalls follows stalls⟩
  · refine ⟨identity, known, matching.1, ?_⟩
    intro other member
    rcases List.mem_append.mp member with older | newest
    · exact matching.2 other older
    · obtain ⟨same_known, known_again, agrees⟩ := continues.identity
      cases known.symm.trans known_again
      cases List.mem_singleton.mp newest
      exact agrees
  · intro other member
    rw [← List.cons_append] at member
    rcases List.mem_append.mp member with older | newest
    · exact follows.criteria other older
    · cases List.mem_singleton.mp newest
      exact continues.criteria
  · have empty : tracker.streak = 0 ↔ streak = [] := by
      rw [follows.length, List.length_eq_zero_iff]
    by_cases first : streak = []
    · subst first
      simp [StallTracker.count, empty, follows.observed]
    · simp [StallTracker.count, empty, first, follows.started]
  · simp [StallTracker.count]
  · simp [StallTracker.count]
  · simp [StallTracker.count]
  · simp [StallTracker.count]

/-- One that does not stall begins the next streak. -/
theorem follows_healthy {last : Call} (continues : Continues tracker last call) :
    Follows (tracker.count call.obs false) call [] := by
  obtain ⟨identity, known, agrees⟩ := continues.identity
  constructor
  · rfl
  · exact .singleton call
  · exact ⟨identity, known, Or.inr agrees, by simp⟩
  · intro other member
    cases List.mem_singleton.mp member
    exact continues.criteria
  · rfl
  · rfl
  · rfl
  · rfl
  · rfl

/-- A tracker is new, or it remembers the end of the counted calls. -/
def Remembers (tracker : StallTracker) (calls : List Call) : Prop :=
  tracker = .new ∨ ∃ front before streak, calls = front ++ before :: streak ∧
    Follows tracker before streak

theorem new_breaks (call : Call) :
    StallTracker.new.breaks call.obs call.policy call.maxGapSec = true := by
  simp [StallTracker.breaks, StallTracker.new]

theorem before_le_latest (chain : (before :: streak).IsChain Stalls) :
    before.obs.observedAt ≤ (latest before streak).obs.observedAt := by
  induction streak generalizing before with
  | nil => exact le_refl _
  | cons next rest inductionHypothesis =>
    obtain ⟨stalls, chain⟩ := List.isChain_cons_cons.mp chain
    have later := inductionHypothesis chain
    have same : latest before (next :: rest) = latest next rest := by
      simp [latest, List.getLast?_cons]
    rw [same]
    exact stalls.forward.trans later

/-- What one call of `update` does to the counted calls. -/
theorem update_follows (remembers : Remembers tracker calls) (call : Call) :
    ∃ front before streak,
      calls ++ (countedCall (take track tracker (.update call))).toList = front ++ before :: streak ∧
        Follows (track tracker (.update call)).1 before streak ∧
        before.obs.observedAt ≤ call.obs.observedAt := by
  unfold countedCall take track StallTracker.update
  dsimp only
  by_cases breaks : tracker.breaks call.obs call.policy call.maxGapSec = true
  · rw [if_neg fun repeated => repeated.1 breaks, if_pos breaks]
    exact ⟨calls, call, [], rfl, follows_restart tracker call, le_refl _⟩
  · rcases remembers with rfl | ⟨front, before, streak, counts, follows⟩
    · exact absurd (new_breaks call) breaks
    · have continues := continues_of_not_breaks follows breaks
      have since := (before_le_latest follows.chain).trans continues.forward
      rw [if_neg breaks]
      by_cases repeated : call.obs.sequence = tracker.lastSequence
      · rw [if_pos ⟨breaks, repeated⟩, if_pos repeated]
        exact ⟨front, before, streak, by simp [counts], follows, since⟩
      · rw [if_neg fun repeats => repeated repeats.2, if_neg repeated]
        cases stalls : tracker.stalls call.obs call.policy with
        | true =>
          refine ⟨front, before, streak ++ [call], by simp [counts], ?_, since⟩
          exact follows_stalled follows continues repeated stalls
        | false => exact ⟨calls, call, [], rfl, follows_healthy continues, le_refl _⟩

theorem counted_append (events : List TrackerEvent) (event : TrackerEvent) :
    counted (events ++ [event]) =
      counted events ++ (countedCall (take track (final track .new events) event)).toList := by
  unfold counted
  rw [trace_append, List.filterMap_append]
  rfl

theorem remembers_counted (events : List TrackerEvent) :
    Remembers (final track .new events) (counted events) := by
  induction events using List.reverseRecOn with
  | nil => exact Or.inl rfl
  | append_singleton events event inductionHypothesis =>
    rw [counted_append, final_append]
    cases event with
    | reset => exact Or.inl rfl
    | update call =>
      obtain ⟨front, before, streak, counts, follows, _⟩ := update_follows inductionHypothesis call
      exact Or.inr ⟨front, before, streak, counts, follows⟩

theorem Follows.evidence (follows : Follows tracker before streak) : StallEvidence before streak where
  chain := follows.chain
  identity := by
    obtain ⟨identity, _, matching⟩ := follows.identity
    exact ⟨identity, matching⟩
  criteria := by
    intro call member
    have first := follows.criteria before (by simp)
    exact Option.some.inj ((follows.criteria call (by simp [member])).symm.trans first)

theorem Follows.duration (follows : Follows tracker before streak) {now : Instant}
    (since : before.obs.observedAt ≤ now) :
    stallDuration tracker now ≤ seconds (now - before.obs.observedAt) := by
  have elapsed := seconds_nonneg.mpr (Int.sub_nonneg.mpr since)
  unfold stallDuration
  rw [follows.started]
  by_cases empty : streak = []
  · rw [if_pos empty]
    exact elapsed
  · rw [if_neg empty]
    dsimp only
    split
    · exact elapsed
    · exact max_le elapsed (le_refl _)

theorem update_streak (tracker : StallTracker) (obs : Observation) (policy : Policy) (maxGapSec : ℚ) :
    (tracker.update obs policy maxGapSec).2.2 = (tracker.update obs policy maxGapSec).1.streak := by
  unfold StallTracker.update
  dsimp only
  repeat' split
  all_goals rfl

/-- A streak rests on as many counted observations that stall one after another, and the duration
on the time since the observation before them. -/
theorem update_evidence (events : List TrackerEvent) (call : Call) :
    let updated := (final track .new events).update call.obs call.policy call.maxGapSec
    ∃ front before streak, counted (events ++ [.update call]) = front ++ before :: streak ∧
      streak.length = updated.2.2 ∧ StallEvidence before streak ∧
      stallDuration updated.1 call.obs.observedAt ≤
        seconds (call.obs.observedAt - before.obs.observedAt) := by
  obtain ⟨front, before, streak, counts, follows, since⟩ :=
    update_follows (remembers_counted events) call
  refine ⟨front, before, streak, ?_, ?_, follows.evidence, follows.duration since⟩
  · rw [counted_append, counts]
  · rw [update_streak]
    exact follows.length.symm

end LiveStream.Recovery

import LiveStream.Fallback.Timers

/-! When the backup starts: only after an unbroken failure or a long lack of
progress, and then within a bound. -/

namespace LiveStream.Fallback

open LiveStream.Support

section Soundness

variable {polls : ℕ → Poll}

/-- A failure window that has elapsed began at a poll since which every poll failed. -/
theorem failures_of_window {n : ℕ} (failure : failurePoll polls n = true)
    (elapsed : START_AFTER ≤ pollTime polls n -
      (windowSince (failurePoll polls) (pollTime polls) n).getD (pollTime polls n)) :
    ∃ m ≤ n, START_AFTER ≤ (polls n).now - (polls m).now ∧
      ∀ k, m ≤ k → k ≤ n →
        (outcomeAt polls k).domain = .mediaFailure ∧ (polls k).inhibited = false := by
  obtain ⟨since, running⟩ : ∃ since,
      windowSince (failurePoll polls) (pollTime polls) n = some since := by
    cases n <;> exact ⟨_, if_pos failure⟩
  obtain ⟨m, before, rfl, failed⟩ := windowSince_eq_some running
  rw [running, Option.getD_some] at elapsed
  refine ⟨m, before, elapsed, fun k first last => ?_⟩
  have ⟨free, domain⟩ := Bool.and_eq_true_iff.mp (failed k first last)
  exact ⟨of_decide_eq_true domain, by simpa using free⟩

/-- A deadline that has elapsed was renewed by no poll since. -/
theorem unconfirmed_of_deadline (ordered : Monotone (pollTime polls)) {n : ℕ}
    (elapsed : AFTER ≤ pollTime polls n - lastSeen (renewingPoll polls) (pollTime polls) n) :
    ∀ k ≤ n, (polls n).now - AFTER < (polls k).now →
      (outcomeAt polls k).routeProgress = false ∧ (polls k).inhibited = false := by
  intro k last recent
  obtain ⟨m, _, renewed, unseen⟩ := lastSeen_eq (renewingPoll polls) (pollTime polls) n
  have later : m < k := by
    by_contra earlier
    have bound : pollTime polls k ≤ pollTime polls m := ordered (not_lt.mp earlier)
    rw [renewed] at elapsed
    unfold pollTime at elapsed bound
    linarith
  have ⟨free, quiet⟩ := Bool.or_eq_false_iff.mp (unseen k later last)
  exact ⟨quiet, free⟩

/-- Every START follows 30 seconds of uninhibited media failures, or 90 seconds
without confirmed progress, and finds no backup running. -/
theorem start_sound (ordered : Monotone (pollTime polls)) (n : ℕ)
    (starts : (outcomeAt polls n).action = some .start) :
    (polls n).replicas = some 0 ∧ (polls n).inhibited = false ∧
      (outcomeAt polls n).routeProgress = false ∧
      ((∃ m ≤ n, START_AFTER ≤ (polls n).now - (polls m).now ∧
          ∀ k, m ≤ k → k ≤ n →
            (outcomeAt polls k).domain = .mediaFailure ∧ (polls k).inhibited = false) ∨
        ∀ k ≤ n, (polls n).now - AFTER < (polls k).now →
          (outcomeAt polls k).routeProgress = false ∧ (polls k).inhibited = false) := by
  obtain ⟨free, _, idle, elapsed⟩ := (outcomeAt_start_iff polls n).mp starts
  have progress := (outcomeAt_assessment polls n).2.2
  by_cases failure : (outcomeAt polls n).domain = .mediaFailure
  · rw [if_pos failure] at elapsed
    have unconfirmed : (outcomeAt polls n).routeProgress = false := by
      cases confirmed : (outcomeAt polls n).routeProgress with
      | false => rfl
      | true => exact (progress confirmed failure).elim
    exact ⟨idle, free, unconfirmed,
      .inl (failures_of_window (by simp [failurePoll, free, failure]) elapsed)⟩
  · rw [if_neg failure] at elapsed
    have quiet := unconfirmed_of_deadline ordered elapsed
    have positive : (0 : ℚ) < AFTER := by decide +kernel
    exact ⟨idle, free, (quiet n le_rfl (by linarith)).1, .inr quiet⟩

end Soundness

/-- Polls every 15 seconds that observe nothing. -/
def blindPolls (n : ℕ) : Poll where
  sample := none
  observationReason := "facts_timeout"
  witness := ⟨.unknown, "local_transport_baseline"⟩
  now := 15 * n
  replicas := some 0
  inhibited := false
  utcNow := ""

theorem blindPolls_ordered : Monotone (pollTime blindPolls) := by
  intro earlier later order
  have bound : (earlier : ℚ) ≤ later := by exact_mod_cast order
  change (15 : ℚ) * earlier ≤ 15 * later
  linarith

/-- The seventh poll that observes nothing starts the backup. -/
theorem start_sound_blind :
    (outcomeAt blindPolls 6).action = some .start ∧ (outcomeAt blindPolls 6).routeProgress = false :=
  ⟨by decide +kernel, (start_sound blindPolls_ordered 6 (by decide +kernel)).2.2.1⟩

section Bound

variable {polls : ℕ → Poll}

/-- Without a renewal the deadline has elapsed `AFTER` later. -/
theorem deadline_elapsed (ordered : Monotone (pollTime polls)) {i p k : ℕ} (ip : i ≤ p) (pk : p ≤ k)
    (unrenewed : ∀ j, i ≤ j → j ≤ k → renewingPoll polls j = false)
    (late : AFTER ≤ pollTime polls p - pollTime polls i) :
    AFTER ≤ pollTime polls k - lastSeen (renewingPoll polls) (pollTime polls) k := by
  have renewed := lastSeen_le ordered (ip.trans pk) unrenewed
  have after : pollTime polls p ≤ pollTime polls k := ordered pk
  linarith

/-- Once progress has been unconfirmed for 90 seconds, some poll of the next 30
seconds starts the backup, whatever the polls are assessed as. -/
theorem start_bounded (ordered : Monotone (pollTime polls)) (i p q : ℕ) (ip : i ≤ p) (pq : p ≤ q)
    (quiet : ∀ k, i ≤ k → k ≤ q →
      (outcomeAt polls k).uncertainty.routeProgressConfirmed = false ∧
        (polls k).inhibited = false ∧ (polls k).replicas = some 0)
    (late : AFTER ≤ (polls p).now - (polls i).now)
    (window : START_AFTER ≤ (polls q).now - (polls p).now) :
    ∃ k, p ≤ k ∧ k ≤ q ∧ (outcomeAt polls k).action = some .start := by
  have unprogressed : ∀ k, i ≤ k → k ≤ q → (outcomeAt polls k).routeProgress = false := by
    intro k first last
    have ⟨unconfirmed, free, _⟩ := quiet k first last
    change ((outcomeAt polls k).routeProgress && !(polls k).inhibited) = false at unconfirmed
    simpa [free] using unconfirmed
  have unhealthy : ∀ k, i ≤ k → k ≤ q → (outcomeAt polls k).healthy = false := by
    intro k first last
    cases healthy : (outcomeAt polls k).healthy with
    | false => rfl
    | true =>
      have progress := (outcomeAt_assessment polls k).2.1 healthy
      exact progress.symm.trans (unprogressed k first last)
  by_cases uncertain : ∃ k, p ≤ k ∧ k ≤ q ∧ (outcomeAt polls k).domain ≠ .mediaFailure
  · -- a poll that is no failure finds the deadline elapsed
    obtain ⟨k, pk, kq, domain⟩ := uncertain
    have ik := ip.trans pk
    refine ⟨k, pk, kq, (outcomeAt_start_iff polls k).mpr
      ⟨(quiet k ik kq).2.1, unhealthy k ik kq, (quiet k ik kq).2.2, ?_⟩⟩
    rw [if_neg domain]
    refine deadline_elapsed ordered ip pk (fun j ij jk => ?_) late
    simp [renewingPoll, (quiet j ij (jk.trans kq)).2.1, unprogressed j ij (jk.trans kq)]
  · -- otherwise the failure window has run since p
    have failures : ∀ k, p ≤ k → k ≤ q → (outcomeAt polls k).domain = .mediaFailure := by
      simpa only [not_exists, not_and, not_not] using uncertain
    have iq := ip.trans pq
    refine ⟨q, pq, le_rfl, (outcomeAt_start_iff polls q).mpr
      ⟨(quiet q iq le_rfl).2.1, unhealthy q iq le_rfl, (quiet q iq le_rfl).2.2, ?_⟩⟩
    rw [if_pos (failures q pq le_rfl)]
    have held : ∀ k, p ≤ k → k ≤ q → failurePoll polls k = true := fun k pk kq => by
      simp [failurePoll, (quiet k (ip.trans pk) kq).2.1, failures k pk kq]
    obtain ⟨since, running, bound⟩ := windowSince_le ordered pq held
    rw [running, Option.getD_some]
    change START_AFTER ≤ pollTime polls q - pollTime polls p at window
    linarith

end Bound

/-- The polls that observe nothing start the backup between 90 and 120 seconds. -/
theorem start_bounded_blind :
    ∃ k, 6 ≤ k ∧ k ≤ 8 ∧ (outcomeAt blindPolls k).action = some .start := by
  have quiet : ∀ k ≤ 8, (outcomeAt blindPolls k).uncertainty.routeProgressConfirmed = false ∧
      (blindPolls k).inhibited = false ∧ (blindPolls k).replicas = some 0 := by
    decide +kernel
  exact start_bounded blindPolls_ordered 0 6 8 (by decide) (by decide)
    (fun k _ last => quiet k last) (by decide +kernel) (by decide +kernel)

end LiveStream.Fallback

import LiveStream.Forward.Keeper
import LiveStream.Support.Run

/-! No destination is kept down: what a run of completed cycles offers the server. -/

namespace LiveStream.Forward

open LiveStream.Support

variable {keeper next : Keeper} {sight : Sight} {now : ℚ}

/-- The destinations that are offered in a phase: all but Twitch's while its end is awaited. -/
def offered (phase : Phase) (destinations : List Destination) : List Destination :=
  destinations.filter fun destination => ¬ (phase = .waitOffline ∧ isTwitch destination.dest)

/-- The slot of a destination: the placeholder while the destination is healed. -/
def slot (removed : Option String) (destination : Destination) : Destination :=
  if removed = some destination.dest then HEALING_DEST else destination

theorem desired_eq (keeper : Keeper) :
    keeper.desired = (offered keeper.phase keeper.destinations).map (slot keeper.removed) := by
  unfold Keeper.desired offered
  induction keeper.destinations with
  | nil => rfl
  | cons destination rest inductionHypothesis =>
    by_cases held : keeper.phase = .waitOffline ∧ isTwitch destination.dest
    · rw [List.filterMap_cons_none (by rw [Keeper.entry, if_pos held]), inductionHypothesis,
        List.filter_cons_of_neg (by simpa using held)]
    · have kept : keeper.entry destination = some (slot keeper.removed destination) := by
        rw [Keeper.entry, if_neg held, slot]
        split <;> rfl
      rw [List.filterMap_cons_some kept, inductionHypothesis,
        List.filter_cons_of_pos (by simpa [imp_iff_not_or] using held), List.map_cons]

/-- What healing changes: nothing, or one destination is removed that has not been for a while. -/
structure Heals (now : ℚ) (keeper next : Keeper) : Prop where
  destinations : next.destinations = keeper.destinations
  phase : next.phase = keeper.phase
  phaseAt : next.phaseAt = keeper.phaseAt
  lastRenewalDate : next.lastRenewalDate = keeper.lastRenewalDate
  removal : (next.removed = none ∧ next.lastHeal = keeper.lastHeal) ∨
    ∃ dest, next.removed = some dest ∧
      next.lastHeal = Function.update keeper.lastHeal dest (some now) ∧
      ∀ before, keeper.lastHeal dest = some before → HEAL_INTERVAL ≤ now - before

/-- The loop goes on from a keeper that differs in its samples and bad times only. -/
theorem Heals.of_same {changed : Keeper} (destinations : changed.destinations = keeper.destinations)
    (phase : changed.phase = keeper.phase) (phaseAt : changed.phaseAt = keeper.phaseAt)
    (dated : changed.lastRenewalDate = keeper.lastRenewalDate)
    (lastHeal : changed.lastHeal = keeper.lastHeal) (heals : Heals now changed next) :
    Heals now keeper next where
  destinations := heals.destinations.trans destinations
  phase := heals.phase.trans phase
  phaseAt := heals.phaseAt.trans phaseAt
  lastRenewalDate := heals.lastRenewalDate.trans dated
  removal := lastHeal ▸ heals.removal

theorem heals_healItems (clear : keeper.removed = none) (items : List Item) :
    Heals now keeper (keeper.healItems now items) := by
  induction items generalizing keeper with
  | nil => exact ⟨rfl, rfl, rfl, rfl, Or.inl ⟨clear, rfl⟩⟩
  | cons item rest inductionHypothesis =>
    rw [Keeper.healItems]
    cases item.dest with
    | none => exact inductionHypothesis clear
    | some dest =>
      dsimp only
      split
      · exact inductionHypothesis clear
      · split
        · refine Heals.of_same ?_ ?_ ?_ ?_ ?_ (inductionHypothesis ?_)
          · rfl
          · rfl
          · rfl
          · rfl
          · rfl
          · exact clear
        · split
          · rename_i heals
            refine ⟨rfl, rfl, rfl, rfl, Or.inr ⟨dest, rfl, rfl, ?_⟩⟩
            intro before known
            have spaced := heals.2
            rwa [known, Option.getD_some] at spaced
          · refine Heals.of_same ?_ ?_ ?_ ?_ ?_ (inductionHypothesis ?_)
            · rfl
            · rfl
            · rfl
            · rfl
            · rfl
            · exact clear

theorem heals_heal (keeper : Keeper) (sight : Sight) : Heals sight.now keeper (keeper.heal sight) := by
  unfold Keeper.heal
  split
  · exact ⟨rfl, rfl, rfl, rfl, Or.inl ⟨rfl, rfl⟩⟩
  · rename_i clear
    split
    · exact ⟨rfl, rfl, rfl, rfl, Or.inl ⟨not_not.mp clear, rfl⟩⟩
    · exact heals_healItems (not_not.mp clear) sight.items

/-- What a renewal leaves alone. -/
structure Renews (keeper next : Keeper) : Prop where
  destinations : next.destinations = keeper.destinations
  removed : next.removed = keeper.removed
  lastHeal : next.lastHeal = keeper.lastHeal

theorem renews_renewal (keeper : Keeper) (sight : Sight) : Renews keeper (keeper.renewal sight).1 := by
  unfold Keeper.renewal Keeper.renewIdle
  dsimp only
  split <;> repeat' split
  all_goals exact ⟨rfl, rfl, rfl⟩

/-- How a cycle goes on after the renewal: with healing, or with nothing removed. -/
theorem cycle_cases (keeper : Keeper) (sight : Sight) :
    ((keeper.renewal sight).2 = false ∧ (keeper.renewal sight).1.phase = .idle ∧
        keeper.cycle sight = (keeper.renewal sight).1.heal sight) ∨
      (((keeper.renewal sight).2 = true ∨ (keeper.renewal sight).1.phase ≠ .idle) ∧
        keeper.cycle sight = { (keeper.renewal sight).1 with removed := none }) := by
  unfold Keeper.cycle
  dsimp only
  split
  · rename_i heals
    exact Or.inl ⟨by simpa using heals.1, heals.2, rfl⟩
  · rename_i clears
    refine Or.inr ⟨?_, rfl⟩
    by_contra neither
    obtain ⟨unchanged, idle⟩ := not_or.mp neither
    exact clears ⟨unchanged, not_not.mp idle⟩

/-- A phase change leaves the keeper's cycle without healing. -/
theorem cycle_changed (changed : (keeper.renewal sight).2 = true) :
    keeper.cycle sight = { (keeper.renewal sight).1 with removed := none } := by
  rcases cycle_cases keeper sight with ⟨unchanged, _, _⟩ | ⟨_, cycled⟩
  · rw [changed] at unchanged
    cases unchanged
  · exact cycled

section Cycle

variable (keeper : Keeper) (sight : Sight)

theorem cycle_destinations : (keeper.cycle sight).destinations = keeper.destinations := by
  have renewed := (renews_renewal keeper sight).destinations
  rcases cycle_cases keeper sight with ⟨_, _, cycled⟩ | ⟨_, cycled⟩
  · rw [cycled, (heals_heal _ sight).destinations, renewed]
  · rw [cycled, ← renewed]

theorem cycle_phase : (keeper.cycle sight).phase = (keeper.renewal sight).1.phase := by
  rcases cycle_cases keeper sight with ⟨_, _, cycled⟩ | ⟨_, cycled⟩
  · rw [cycled, (heals_heal _ sight).phase]
  · rw [cycled]

theorem cycle_phaseAt : (keeper.cycle sight).phaseAt = (keeper.renewal sight).1.phaseAt := by
  rcases cycle_cases keeper sight with ⟨_, _, cycled⟩ | ⟨_, cycled⟩
  · rw [cycled, (heals_heal _ sight).phaseAt]
  · rw [cycled]

/-- Away from the idle phase nothing is removed. -/
theorem cycle_quiet (away : (keeper.cycle sight).phase ≠ .idle) :
    (keeper.cycle sight).removed = none := by
  rcases cycle_cases keeper sight with ⟨_, idle, _⟩ | ⟨_, cycled⟩
  · exact absurd ((cycle_phase keeper sight).trans idle) away
  · rw [cycled]

/-- What was removed is restored by the next cycle, which removes nothing. -/
theorem cycle_restores (held : keeper.removed ≠ none) : (keeper.cycle sight).removed = none := by
  rcases cycle_cases keeper sight with ⟨_, _, cycled⟩ | ⟨_, cycled⟩
  · rw [← (renews_renewal keeper sight).removed] at held
    rw [cycled, Keeper.heal, if_pos held]
  · rw [cycled]

/-- A cycle removes nothing, or a destination that has not been removed for a while. -/
theorem cycle_removal :
    ((keeper.cycle sight).removed = none ∧ (keeper.cycle sight).lastHeal = keeper.lastHeal) ∨
      ∃ dest, (keeper.cycle sight).removed = some dest ∧
        (keeper.cycle sight).lastHeal = Function.update keeper.lastHeal dest (some sight.now) ∧
        ∀ before, keeper.lastHeal dest = some before → HEAL_INTERVAL ≤ sight.now - before := by
  have kept := (renews_renewal keeper sight).lastHeal
  rcases cycle_cases keeper sight with ⟨_, _, cycled⟩ | ⟨_, cycled⟩
  · rw [cycled, ← kept]
    exact (heals_heal _ sight).removal
  · rw [cycled]
    exact Or.inl ⟨rfl, kept⟩

end Cycle

/-- A cycle of the main loop, with the list that the server is reconciled with. -/
def keep (keeper : Keeper) (sight : Sight) : Keeper × List Destination :=
  (keeper.cycle sight, (keeper.cycle sight).desired)

abbrev Cycle := Taken Keeper Sight (List Destination)

/-- A cycle enters a phase. -/
def Enters (phase : Phase) (cycle : Cycle) : Prop :=
  cycle.before.phase ≠ phase ∧ cycle.after.phase = phase

/-- What the cycles of a run offer the server for the destinations. -/
structure NeverDown (destinations : List Destination) (cycles : List Cycle) : Prop where
  /-- Every destination has its slot, in order; only Twitch's have none while its end is awaited. -/
  slots : ∀ cycle ∈ cycles, cycle.output =
    (offered cycle.after.phase destinations).map (slot cycle.after.removed)
  /-- No cycle after one that holds a slot holds any. -/
  apart : cycles.IsChain fun earlier later =>
    earlier.after.removed ≠ none → later.after.removed = none
  spaced : cycles.Pairwise fun earlier later => ∀ dest, earlier.after.removed = some dest →
    later.after.removed = some dest → HEAL_INTERVAL ≤ later.event.now - earlier.event.now
  quiet : ∀ cycle ∈ cycles, cycle.after.phase ≠ .idle → cycle.after.removed = none
  /-- The end of the Twitch session is not awaited for longer, whatever Twitch reports. -/
  ends : ∀ front enter middle late back, cycles = front ++ enter :: middle ++ late :: back →
    Enters .waitOffline enter → (∀ cycle ∈ middle, cycle.after.phase = .waitOffline) →
    OFFLINE_MAX ≤ late.event.now - enter.event.now → late.after.phase = .verify

theorem renewal_waits (held : keeper.phase = .waitOffline)
    (still : (keeper.renewal sight).1.phase = .waitOffline) :
    (keeper.renewal sight).1 = keeper ∧ sight.now - keeper.phaseAt < OFFLINE_MAX := by
  unfold Keeper.renewal at still ⊢
  rw [held] at still ⊢
  dsimp only at still ⊢
  split at still
  · cases still
  · rename_i waits
    rw [if_neg waits]
    exact ⟨rfl, not_le.mp (not_or.mp waits).2⟩

theorem renewal_ends (held : keeper.phase = .waitOffline)
    (spent : OFFLINE_MAX ≤ sight.now - keeper.phaseAt) :
    (keeper.renewal sight).1.phase = .verify := by
  unfold Keeper.renewal
  rw [held]
  dsimp only
  rw [if_pos (Or.inr spent)]

theorem renewal_enters (outside : keeper.phase ≠ .waitOffline)
    (inside : (keeper.renewal sight).1.phase = .waitOffline) :
    (keeper.renewal sight).1.phaseAt = sight.now := by
  unfold Keeper.renewal at inside ⊢
  cases held : keeper.phase with
  | waitOffline => exact absurd held outside
  | verify =>
    rw [held] at inside
    dsimp only at inside
    split at inside
    · cases inside
    · exact absurd inside outside
  | idle =>
    rw [held] at inside
    dsimp only at inside ⊢
    unfold Keeper.renewIdle at inside ⊢
    dsimp only at inside ⊢
    split at inside
    · exact absurd inside outside
    · rename_i live
      rw [if_neg live]
      split at inside
      · exact absurd inside outside
      · rename_i renews
        rw [if_neg renews]

section Runs

variable {destinations : List Destination}

theorem slots_trace (configured : keeper.destinations = destinations) (sights : List Sight) :
    ∀ cycle ∈ trace keep keeper sights, cycle.output =
      (offered cycle.after.phase destinations).map (slot cycle.after.removed) := by
  induction sights generalizing keeper with
  | nil => simp [trace]
  | cons sight rest inductionHypothesis =>
    have kept := (cycle_destinations keeper sight).trans configured
    intro cycle member
    rcases List.mem_cons.mp member with rfl | member
    · exact kept ▸ desired_eq (keeper.cycle sight)
    · exact inductionHypothesis kept cycle member

theorem apart_trace (sights : List Sight) :
    (trace keep keeper sights).IsChain fun earlier later =>
      earlier.after.removed ≠ none → later.after.removed = none := by
  induction sights generalizing keeper with
  | nil => exact .nil
  | cons sight rest inductionHypothesis =>
    cases rest with
    | nil => exact .singleton _
    | cons next rest =>
      refine .cons_cons ?_ inductionHypothesis
      intro held
      exact cycle_restores (keeper.cycle sight) next held

/-- No later cycle removes a destination before its interval is over, either. -/
theorem spaced_trace (sights : List Sight) :
    (∀ cycle ∈ trace keep keeper sights, ∀ dest healed, cycle.after.removed = some dest →
        keeper.lastHeal dest = some healed → HEAL_INTERVAL ≤ cycle.event.now - healed) ∧
      (trace keep keeper sights).Pairwise fun earlier later => ∀ dest,
        earlier.after.removed = some dest → later.after.removed = some dest →
          HEAL_INTERVAL ≤ later.event.now - earlier.event.now := by
  induction sights generalizing keeper with
  | nil => exact ⟨by simp [trace], .nil⟩
  | cons sight rest inductionHypothesis =>
    obtain ⟨later, apart⟩ := @inductionHypothesis (keeper.cycle sight)
    rcases cycle_removal keeper sight with ⟨clear, same⟩ | ⟨healed, held, healing, spaced⟩
    · constructor
      · intro cycle member dest before removed known
        rcases List.mem_cons.mp member with rfl | member
        · cases clear.symm.trans removed
        · exact later cycle member dest before removed ((congrFun same dest).trans known)
      · refine List.pairwise_cons.mpr ⟨?_, apart⟩
        intro cycle _ dest removed
        cases clear.symm.trans removed
    · constructor
      · intro cycle member dest before removed known
        rcases List.mem_cons.mp member with rfl | member
        · cases held.symm.trans removed
          exact spaced before known
        · by_cases again : dest = healed
          · subst again
            have recent := later cycle member dest sight.now removed (by rw [healing]; simp)
            have first := spaced before known
            unfold HEAL_INTERVAL at *
            linarith
          · refine later cycle member dest before removed ?_
            rw [healing, Function.update_of_ne again, known]
      · refine List.pairwise_cons.mpr ⟨?_, apart⟩
        intro cycle member dest removed removedLater
        cases held.symm.trans removed
        exact later cycle member healed sight.now removedLater (by rw [healing]; simp)

theorem quiet_trace (sights : List Sight) :
    ∀ cycle ∈ trace keep keeper sights, cycle.after.phase ≠ .idle → cycle.after.removed = none := by
  induction sights generalizing keeper with
  | nil => simp [trace]
  | cons sight rest inductionHypothesis =>
    intro cycle member
    rcases List.mem_cons.mp member with rfl | member
    · exact cycle_quiet keeper sight
    · exact inductionHypothesis cycle member

/-- While the end of the session is awaited, the wait is measured from the cycle that began it. -/
theorem ends_waiting {sights : List Sight} {middle : List Cycle} {late : Cycle} {back : List Cycle}
    (run : trace keep keeper sights = middle ++ late :: back) (held : keeper.phase = .waitOffline)
    (waits : ∀ cycle ∈ middle, cycle.after.phase = .waitOffline)
    (spent : OFFLINE_MAX ≤ late.event.now - keeper.phaseAt) : late.after.phase = .verify := by
  induction middle generalizing keeper sights with
  | nil =>
    cases sights with
    | nil => simp [trace] at run
    | cons sight rest =>
      simp only [trace, List.nil_append, List.cons.injEq] at run
      rw [← run.1] at spent ⊢
      exact (cycle_phase keeper sight).trans (renewal_ends held spent)
  | cons first middle inductionHypothesis =>
    cases sights with
    | nil => simp [trace] at run
    | cons sight rest =>
      simp only [trace, List.cons_append, List.cons.injEq] at run
      have still := waits first (by simp)
      rw [← run.1] at still
      have same := (renewal_waits held ((cycle_phase keeper sight).symm.trans still)).1
      refine inductionHypothesis run.2 still (fun cycle member => waits cycle (by simp [member])) ?_
      exact (cycle_phaseAt keeper sight).trans (congrArg Keeper.phaseAt same) ▸ spent

theorem ends_trace {sights : List Sight} {front : List Cycle} {enter : Cycle} {middle : List Cycle}
    {late : Cycle} {back : List Cycle}
    (run : trace keep keeper sights = front ++ enter :: middle ++ late :: back)
    (enters : Enters .waitOffline enter) (waits : ∀ cycle ∈ middle, cycle.after.phase = .waitOffline)
    (spent : OFFLINE_MAX ≤ late.event.now - enter.event.now) : late.after.phase = .verify := by
  induction front generalizing keeper sights with
  | nil =>
    cases sights with
    | nil => simp [trace] at run
    | cons sight rest =>
      simp only [trace, List.nil_append, List.cons_append, List.cons.injEq] at run
      obtain ⟨rfl, run⟩ := run
      obtain ⟨outside, inside⟩ := enters
      have began : (keeper.cycle sight).phaseAt = sight.now :=
        (cycle_phaseAt keeper sight).trans
          (renewal_enters outside ((cycle_phase keeper sight).symm.trans inside))
      refine ends_waiting run inside waits ?_
      exact began ▸ spent
  | cons first front inductionHypothesis =>
    cases sights with
    | nil => simp [trace] at run
    | cons sight rest =>
      simp only [trace, List.cons_append, List.cons.injEq] at run
      exact inductionHypothesis run.2

end Runs

/-- A destination is never kept down. -/
theorem restored_neverDown (destinations : List Destination) (saved : Option SavedState) (now : ℚ)
    (sights : List Sight) :
    NeverDown destinations (trace keep (.restore destinations saved now) sights) where
  slots := by
    refine slots_trace ?_ sights
    unfold Keeper.restore
    repeat' split
    all_goals rfl
  apart := apart_trace sights
  spaced := (spaced_trace sights).2
  quiet := quiet_trace sights
  ends := by
    intro front enter middle late back run enters waits spent
    exact ends_trace run enters waits spent

end LiveStream.Forward

import LiveStream.Forward.Destinations

/-! How often the Twitch session is renewed, over restarts with the state that was last written. -/

namespace LiveStream.Forward

open LiveStream.Support

/-- The process, if it runs, and the state file. -/
structure World where
  keeper : Option Keeper
  file : Option SavedState

/-- What happens next. A killed process ends in a cycle, before that writes the state file. -/
inductive Turn where
  | start (destinations : List Destination) (now : ℚ)
  | cycle (sight : Sight)
  | killed (sight : Sight)

/-- The sight of a cycle that begins to wait for the end of the Twitch session. -/
def entry (keeper : Keeper) (sight : Sight) : Option Sight :=
  if keeper.phase ≠ .waitOffline ∧ (keeper.cycle sight).phase = .waitOffline then some sight
  else none

def turn (world : World) : Turn → World × Option Sight
  | .start destinations now =>
    ({ world with keeper := some (.restore destinations world.file now) }, none)
  | .cycle sight =>
    match world.keeper with
    | none => (world, none)
    | some keeper =>
      let kept := keeper.cycle sight
      (⟨some kept, some kept.toState⟩, entry keeper sight)
  | .killed sight => ({ world with keeper := none }, world.keeper.bind fun keeper => entry keeper sight)

/-- The JST date on which a cycle runs. -/
def Turn.date : Turn → Option Int
  | .start _ _ => none
  | .cycle sight | .killed sight => some (jstDate sight.wall)

def Turn.isKilled : Turn → Bool
  | .killed _ => true
  | _ => false

/-- The renewals that a run begins, in order. -/
def entries (world : World) (turns : List Turn) : List Sight :=
  (trace turn world turns).filterMap Taken.output

/-- No process is killed between the beginning of a renewal and the next write of the file. -/
def Recorded (world : World) (turns : List Turn) : Prop :=
  ∀ taken ∈ trace turn world turns, taken.event.isKilled = true → taken.output = none

instance (world : World) (turns : List Turn) : Decidable (Recorded world turns) :=
  inferInstanceAs (Decidable (∀ taken ∈ trace turn world turns, _))

/-- The clock's JST dates never go back. -/
def Ordered (turns : List Turn) : Prop := (turns.filterMap Turn.date).Pairwise (· ≤ ·)

instance (turns : List Turn) : Decidable (Ordered turns) :=
  inferInstanceAs (Decidable (List.Pairwise _ _))

variable {keeper : Keeper} {sight : Sight} {date : Int}

theorem cycle_lastRenewalDate (keeper : Keeper) (sight : Sight) :
    (keeper.cycle sight).lastRenewalDate = (keeper.renewal sight).1.lastRenewalDate := by
  rcases cycle_cases keeper sight with ⟨_, _, cycled⟩ | ⟨_, cycled⟩
  · rw [cycled, (heals_heal _ sight).lastRenewalDate]
  · rw [cycled]

/-- A renewal begins on its own date, at the age limit or on a new date; otherwise a date that is
known stays. -/
theorem renewal_dated (keeper : Keeper) (sight : Sight) :
    (keeper.phase ≠ .waitOffline ∧ (keeper.renewal sight).1.phase = .waitOffline ∧
        (keeper.renewal sight).1.lastRenewalDate = some (jstDate sight.wall) ∧
        (keeper.dueDaily sight ∨ aged sight)) ∨
      (¬ (keeper.phase ≠ .waitOffline ∧ (keeper.renewal sight).1.phase = .waitOffline) ∧
        ∀ date, keeper.lastRenewalDate = some date →
          (keeper.renewal sight).1.lastRenewalDate = some date) := by
  unfold Keeper.renewal
  cases held : keeper.phase with
  | waitOffline =>
    refine Or.inr ⟨fun entering => entering.1 rfl, ?_⟩
    intro date known
    dsimp only
    split
    · exact known
    · exact known
  | verify =>
    dsimp only
    split
    · refine Or.inr ⟨fun entering => ?_, fun date known => known⟩
      cases entering.2
    · refine Or.inr ⟨fun entering => ?_, fun date known => known⟩
      cases held.symm.trans entering.2
  | idle =>
    dsimp only
    unfold Keeper.renewIdle
    dsimp only
    split
    · refine Or.inr ⟨fun entering => ?_, fun date known => known⟩
      cases held.symm.trans entering.2
    · split
      · refine Or.inr ⟨fun entering => ?_, ?_⟩
        · cases held.symm.trans entering.2
        · intro date known
          rw [known, Option.getD_some]
      · rename_i renews
        exact Or.inl ⟨by simp, rfl, rfl, not_not.mp renews⟩

/-- A cycle whose date is known: it begins a renewal at the age limit or on a new date. -/
theorem cycle_dated (known : keeper.lastRenewalDate = some date) :
    (entry keeper sight = some sight ∧
        (keeper.cycle sight).lastRenewalDate = some (jstDate sight.wall) ∧
        (jstDate sight.wall ≠ date ∨ aged sight)) ∨
      (entry keeper sight = none ∧ (keeper.cycle sight).lastRenewalDate = some date) := by
  have dates := cycle_lastRenewalDate keeper sight
  rw [entry, cycle_phase]
  rcases renewal_dated keeper sight with ⟨outside, inside, dated, due⟩ | ⟨not_entering, kept⟩
  · refine Or.inl ⟨if_pos ⟨outside, inside⟩, dates.trans dated, due.imp_left ?_⟩
    rintro ⟨last, last_known, changed⟩
    cases known.symm.trans last_known
    exact changed
  · exact Or.inr ⟨if_neg not_entering, dates.trans (kept date known)⟩

/-- Whoever renews next knows of the renewal on a date. -/
structure Marked (date : Int) (world : World) : Prop where
  keeper : ∀ keeper ∈ world.keeper, keeper.lastRenewalDate = some date
  file : ∃ saved ∈ world.file, saved.lastRenewalDate = some date

/-- A turn on no earlier date keeps the mark, or begins a renewal and marks its date. -/
theorem turn_marked {world : World} (marked : Marked date world) (event : Turn)
    (ordered : ∀ today ∈ event.date, date ≤ today)
    (recorded : event.isKilled = true → (turn world event).2 = none) :
    ((turn world event).2 = none ∧ Marked date (turn world event).1) ∨
      ∃ sight, (turn world event).2 = some sight ∧ event.date = some (jstDate sight.wall) ∧
        Marked (jstDate sight.wall) (turn world event).1 ∧
        (date < jstDate sight.wall ∨ aged sight) := by
  obtain ⟨saved, written, saved_date⟩ := marked.file
  cases event with
  | start destinations now =>
    refine Or.inl ⟨rfl, ?_, marked.file⟩
    intro keeper started
    cases started
    rw [Option.mem_def.mp written, Keeper.restore]
    dsimp only
    split
    · exact saved_date
    · exact saved_date
  | killed sight =>
    refine Or.inl ⟨recorded rfl, ?_, marked.file⟩
    intro keeper running
    cases running
  | cycle sight =>
    unfold turn
    cases running : world.keeper with
    | none =>
      refine Or.inl ⟨rfl, ?_, marked.file⟩
      exact marked.keeper
    | some keeper =>
      dsimp only
      rcases cycle_dated (marked.keeper keeper running) with ⟨entered, dated, due⟩ | ⟨quiet, kept⟩
      · refine Or.inr ⟨sight, entered, rfl, ⟨?_, _, rfl, dated⟩, ?_⟩
        · intro next continues
          cases continues
          exact dated
        · rcases due with changed | old
          · exact Or.inl (lt_of_le_of_ne (ordered _ rfl) (Ne.symm changed))
          · exact Or.inr old
      · refine Or.inl ⟨quiet, ?_, _, rfl, kept⟩
        intro next continues
        cases continues
        exact kept

theorem entry_dated {entered : Sight} (enters : entry keeper sight = some entered) :
    entered = sight ∧ (keeper.cycle sight).lastRenewalDate = some (jstDate sight.wall) := by
  rw [entry, cycle_phase] at enters
  rw [cycle_lastRenewalDate]
  rcases renewal_dated keeper sight with ⟨outside, inside, dated, _⟩ | ⟨not_entering, _⟩
  · rw [if_pos ⟨outside, inside⟩] at enters
    exact ⟨(Option.some.inj enters).symm, dated⟩
  · rw [if_neg not_entering] at enters
    cases enters

/-- A renewal leaves its mark. -/
theorem turn_marks {world : World} {event : Turn} {entered : Sight}
    (recorded : event.isKilled = true → (turn world event).2 = none)
    (enters : (turn world event).2 = some entered) :
    event.date = some (jstDate entered.wall) ∧
      Marked (jstDate entered.wall) (turn world event).1 := by
  cases event with
  | start destinations now => cases enters
  | killed sight => cases enters.symm.trans (recorded rfl)
  | cycle sight =>
    unfold turn at enters ⊢
    cases running : world.keeper with
    | none =>
      rw [running] at enters
      cases enters
    | some keeper =>
      rw [running] at enters
      dsimp only at enters ⊢
      obtain ⟨rfl, dated⟩ := entry_dated enters
      refine ⟨rfl, ?_, _, rfl, dated⟩
      intro next continues
      cases continues
      exact dated

section Runs

variable {world : World} {event : Turn} {rest : List Turn}

theorem ordered_cons :
    Ordered (event :: rest) ↔
      (∀ today ∈ event.date, ∀ later ∈ rest.filterMap Turn.date, today ≤ later) ∧
        Ordered rest := by
  unfold Ordered
  rw [List.filterMap_cons]
  cases event.date with
  | none => simp
  | some today => simp

theorem recorded_cons :
    Recorded world (event :: rest) ↔
      (event.isKilled = true → (turn world event).2 = none) ∧
        Recorded (turn world event).1 rest := by
  simp [Recorded, trace, take]

theorem entries_cons :
    entries world (event :: rest) = (turn world event).2.toList ++ entries (turn world event).1 rest := by
  unfold entries
  rw [trace, List.filterMap_cons, take]
  cases (turn world event).2 with
  | none => rfl
  | some sight => rfl

end Runs

/-- After a renewal, only the age limit begins another one on the same date. -/
theorem entries_marked {world : World} {turns : List Turn} (marked : Marked date world)
    (ordered : Ordered turns)
    (since : ∀ today ∈ turns.filterMap Turn.date, date ≤ today) (recorded : Recorded world turns) :
    ∀ sight ∈ entries world turns, date < jstDate sight.wall ∨ aged sight := by
  induction turns generalizing world date with
  | nil => simp [entries, trace]
  | cons event rest inductionHypothesis =>
    obtain ⟨before, ordered⟩ := ordered_cons.mp ordered
    obtain ⟨written, recorded⟩ := recorded_cons.mp recorded
    have now : ∀ today ∈ event.date, date ≤ today := fun today dated =>
      since today (List.mem_filterMap.mpr ⟨event, by simp, dated⟩)
    have later : ∀ today ∈ rest.filterMap Turn.date, date ≤ today := by
      intro today member
      obtain ⟨other, among, dated⟩ := List.mem_filterMap.mp member
      exact since today (List.mem_filterMap.mpr ⟨other, by simp [among], dated⟩)
    intro sight member
    rw [entries_cons, List.mem_append] at member
    rcases turn_marked marked event now written with
      ⟨quiet, marked⟩ | ⟨entered, enters, dated, marked, due⟩
    · rw [quiet] at member
      rcases member with absent | member
      · cases absent
      · exact inductionHypothesis marked ordered later recorded sight member
    · rw [enters] at member
      rcases member with first | member
      · cases Option.mem_toList.mp first
        exact due
      · rcases inductionHypothesis marked ordered (before _ dated) recorded sight member with
          newer | old
        · exact Or.inl (lt_of_le_of_lt (now _ dated) newer)
        · exact Or.inr old

/-- On one date, every renewal but the first begins at the age limit. -/
theorem entries_once_per_date (world : World) (turns : List Turn)
    (ordered : Ordered turns) (recorded : Recorded world turns) :
    (entries world turns).Pairwise fun earlier later =>
      jstDate earlier.wall = jstDate later.wall → aged later := by
  induction turns generalizing world with
  | nil => exact .nil
  | cons event rest inductionHypothesis =>
    obtain ⟨before, ordered⟩ := ordered_cons.mp ordered
    obtain ⟨written, recorded⟩ := recorded_cons.mp recorded
    have apart := inductionHypothesis (turn world event).1 ordered recorded
    rw [entries_cons]
    cases enters : (turn world event).2 with
    | none => exact apart
    | some entered =>
      obtain ⟨dated, marked⟩ := turn_marks written enters
      refine List.pairwise_cons.mpr ⟨?_, apart⟩
      intro sight member same
      rcases entries_marked marked ordered (before _ dated) recorded sight member with newer | old
      · exact absurd same (ne_of_lt newer)
      · exact old

/-- A cycle that finds a live session. Its times are seconds. -/
def liveSight (now wall : Nat) (startedAt : Int) : Sight where
  now := now
  wall := wall * 1000000
  ready := true
  items := []
  twitch := ⟨.live, "session", some (startedAt * 1000000)⟩

/-- The session outlives its first renewal: Twitch never shows it ended. -/
def outlivingRun : List Turn :=
  [.start [] 0, .cycle (liveSight 0 0 (-AGE_LIMIT)), .cycle (liveSight 600 600 (-AGE_LIMIT)),
    .cycle (liveSight 780 780 (-AGE_LIMIT)), .cycle (liveSight 785 785 (-AGE_LIMIT))]

/-- On a new date, the process is killed before it has written of the renewal. -/
def killedRun : List Turn :=
  [.start [] 0, .cycle (liveSight 0 0 0), .killed (liveSight 60000 60000 0), .start [] 60001,
    .cycle (liveSight 60001 60001 0)]

/-- The clock goes back to the date before and comes again. -/
def steppedRun : List Turn :=
  [.start [] 0, .cycle (liveSight 0 0 0), .cycle (liveSight 60000 60000 0),
    .cycle (liveSight 60600 60600 0), .cycle (liveSight 60780 60780 0),
    .cycle (liveSight 60785 0 0), .cycle (liveSight 61385 600 0), .cycle (liveSight 61565 780 0),
    .cycle (liveSight 61570 61570 0)]

theorem entries_once_per_date_outliving :
    (entries ⟨none, none⟩ outlivingRun).map Sight.now = [0, 785] ∧
      (entries ⟨none, none⟩ outlivingRun).Pairwise fun earlier later =>
        jstDate earlier.wall = jstDate later.wall → aged later :=
  ⟨by decide +kernel, entries_once_per_date ⟨none, none⟩ outlivingRun (by decide) (by decide)⟩

/-- An old session is renewed twice on one date; after a kill or a step of the clock, so is a
young one. -/
theorem renewed_twice_on_one_date :
    (Ordered outlivingRun ∧ Recorded ⟨none, none⟩ outlivingRun ∧
      ¬ (entries ⟨none, none⟩ outlivingRun).Pairwise fun earlier later =>
        jstDate earlier.wall ≠ jstDate later.wall) ∧
    (Ordered killedRun ∧ ¬ (entries ⟨none, none⟩ killedRun).Pairwise fun earlier later =>
        jstDate earlier.wall = jstDate later.wall → aged later) ∧
    (Recorded ⟨none, none⟩ steppedRun ∧
      ¬ (entries ⟨none, none⟩ steppedRun).Pairwise fun earlier later =>
        jstDate earlier.wall = jstDate later.wall → aged later) := by
  refine ⟨⟨?_, ?_, ?_⟩, ⟨?_, ?_⟩, ⟨?_, ?_⟩⟩ <;> decide +kernel

end LiveStream.Forward

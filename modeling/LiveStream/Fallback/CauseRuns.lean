import LiveStream.Fallback.Causes
import LiveStream.Fallback.Timers

/-! A cause closes only after a healthy window within one process, over every run of the controller
with restarts and reboots. -/

namespace LiveStream.Fallback

open LiveStream.Support

section Update

variable {state : CauseState} {boot : String} {domain : Domain} {reason : String}
variable {replicas : Option Int} {now : ℚ} {freshId : String}

/-- An update with this reading counts for the settling window. -/
abbrev Clear (domain : Domain) (replicas : Option Int) : Prop :=
  domain = .healthy ∧ replicas = some 0

@[simp] theorem revise_current (state : CauseState) (change : Cause → Cause)
    (keeps : ∀ cause, (change cause).sequence = cause.sequence) :
    (state.revise change keeps).current = state.current.map change := rfl

@[simp] theorem revise_sequence (state : CauseState) (change : Cause → Cause)
    (keeps : ∀ cause, (change cause).sequence = cause.sequence) :
    (state.revise change keeps).sequence = state.sequence := rfl

/-- An update that is not clear begins the window of an open cause anew, and closes none. -/
theorem advance_unclear (unclear : ¬ Clear domain replicas) :
    (∀ cause ∈ (state.advance boot domain reason replicas now freshId).1.current,
        cause.clearSince = none) ∧
      ((state.advance boot domain reason replicas now freshId).1.current = none →
        state.current = none) := by
  unfold CauseState.advance
  split
  · cases known : state.current with
    | none =>
      refine ⟨?_, fun _ => rfl⟩
      intro cause opened
      cases opened
      rfl
    | some cause => simp [CauseState.troubled, known]
  · cases known : state.current with
    | none => simp [known]
    | some cause =>
      simp [CauseState.unsettled, known]

/-- A window that runs on this boot goes on, or is over. -/
theorem settle_running {cause : Cause} {since : ℚ} (begun : cause.clearSince = some since)
    (sameBoot : cause.clearBoot = some boot) :
    state.settle cause boot now =
      if SETTLING ≤ now - since then (state.closed cause.id, some .closed) else (state, none) := by
  unfold CauseState.settle
  simp [begun, sameBoot]

/-- Any other window begins. -/
theorem settle_begins {cause : Cause}
    (other : cause.clearSince = none ∨ cause.clearBoot ≠ some boot) :
    state.settle cause boot now = (state.resolving boot now, some .resolving) := by
  have resolves : (cause.clearSince.isNone || decide (cause.clearBoot ≠ some boot)) = true := by
    simpa using other
  have short : ¬ SETTLING ≤ now - now := by
    rw [sub_self]
    decide +kernel
  unfold CauseState.settle
  simp only [resolves, if_true, if_neg short]

theorem settle_sequence (cause : Cause) :
    (state.settle cause boot now).2 ≠ some .opened ∧
      (state.settle cause boot now).1.sequence = state.sequence := by
  by_cases other : cause.clearSince = none ∨ cause.clearBoot ≠ some boot
  · rw [settle_begins other]
    exact ⟨by simp, rfl⟩
  · obtain ⟨begun, sameBoot⟩ := not_or.mp other
    obtain ⟨since, begun⟩ := Option.ne_none_iff_exists'.mp begun
    rw [settle_running begun (not_not.mp sameBoot)]
    split
    · exact ⟨by simp, rfl⟩
    · exact ⟨by simp, rfl⟩

theorem advance_settle (clear : Clear domain replicas) {cause : Cause}
    (known : state.current = some cause) :
    state.advance boot domain reason replicas now freshId = state.settle cause boot now := by
  obtain ⟨rfl, rfl⟩ := clear
  have calm : isProblem .healthy (some 0) = false := by decide
  unfold CauseState.advance
  rw [calm, known]
  simp

/-- What a clear update makes of an open cause: its window begins, goes on, or is over. -/
theorem advance_clear (clear : Clear domain replicas) {cause : Cause}
    (known : state.current = some cause) :
    ((state.advance boot domain reason replicas now freshId).1.current =
        some { cause with clearSince := some now, clearBoot := some boot }) ∨
      ∃ since, cause.clearSince = some since ∧ cause.clearBoot = some boot ∧
        ((state.advance boot domain reason replicas now freshId).1.current = some cause ∨
          (state.advance boot domain reason replicas now freshId).1.current = none ∧
            SETTLING ≤ now - since) := by
  rw [advance_settle clear known]
  by_cases other : cause.clearSince = none ∨ cause.clearBoot ≠ some boot
  · rw [settle_begins other]
    left
    simp [CauseState.resolving, known]
  · obtain ⟨begun, sameBoot⟩ := not_or.mp other
    obtain ⟨since, begun⟩ := Option.ne_none_iff_exists'.mp begun
    rw [settle_running begun (not_not.mp sameBoot)]
    refine Or.inr ⟨since, begun, not_not.mp sameBoot, ?_⟩
    split
    · rename_i settled
      exact Or.inr ⟨rfl, settled⟩
    · exact Or.inl known

/-- Without an open cause a clear update opens none. -/
theorem advance_none (clear : Clear domain replicas) (unknown : state.current = none) :
    (state.advance boot domain reason replicas now freshId).1.current = none := by
  obtain ⟨rfl, rfl⟩ := clear
  have calm : isProblem .healthy (some 0) = false := by decide
  unfold CauseState.advance
  rw [calm, unknown]
  exact unknown

/-- The number grows with an opened cause, which is the only one, and with nothing else. -/
theorem advance_sequence :
    ((state.advance boot domain reason replicas now freshId).2 = some .opened ∧
        state.current = none ∧
        (state.advance boot domain reason replicas now freshId).1.sequence = state.sequence + 1 ∧
        ∃ cause, (state.advance boot domain reason replicas now freshId).1.current = some cause ∧
          cause.sequence = state.sequence + 1) ∨
      ((state.advance boot domain reason replicas now freshId).2 ≠ some .opened ∧
        (state.advance boot domain reason replicas now freshId).1.sequence = state.sequence) := by
  unfold CauseState.advance
  split
  · cases known : state.current with
    | none => exact Or.inl ⟨rfl, rfl, rfl, _, rfl, rfl⟩
    | some cause => exact Or.inr ⟨by simp, rfl⟩
  · right
    cases known : state.current with
    | none => exact ⟨by simp, rfl⟩
    | some cause =>
      dsimp only
      split
      · exact settle_sequence cause
      · exact ⟨by simp, rfl⟩

end Update

section Dispatch

theorem dispatchedIf_clear (book : CauseState) (action : Option Action) (result : String) :
    (dispatchedIf book action result).current.map (fun cause => (cause.clearSince, cause.clearBoot)) =
      book.current.map fun cause => (cause.clearSince, cause.clearBoot) := by
  cases action with
  | none => rfl
  | some action => simp [dispatchedIf, CauseState.dispatched, Function.comp_def]

theorem dispatchedIf_sequence (book : CauseState) (action : Option Action) (result : String) :
    (dispatchedIf book action result).sequence = book.sequence ∧
      (dispatchedIf book action result).current.map (·.sequence) = book.current.map (·.sequence) := by
  cases action with
  | none => exact ⟨rfl, rfl⟩
  | some action =>
    refine ⟨rfl, ?_⟩
    simp [dispatchedIf, CauseState.dispatched, Function.comp_def]

end Dispatch

/-- The first poll of a process is not healthy: there is no sample to compare with. -/
theorem poll_fresh {state : LoopState} (fresh : state.controller.last = none) (poll : Poll) :
    (state.poll poll).2.domain ≠ .healthy := by
  intro healthy
  have assessed := state.assessed_of_healthy poll ((state.observed_assessment poll).1.mpr healthy)
  unfold Controller.assess at assessed
  rw [fresh] at assessed
  cases sampled : poll.sample with
  | none =>
    rw [sampled] at assessed
    cases assessed
  | some sample =>
    rw [sampled] at assessed
    dsimp only at assessed
    split at assessed
    · cases assessed
    · cases assessed

abbrev CauseStep := Taken CauseWorld CauseTurn (Option Answer)

/-- The state of the book in the file, or the one without a file. -/
def CauseWorld.book (world : CauseWorld) : CauseState := world.file.getD .empty

/-- Steps of one process in which every update is clear, the first one at some time. -/
structure Steady (boot : String) (since : ℚ) (span : List CauseStep) : Prop where
  begins : ∃ first rest, span = first :: rest ∧ ∃ answer ∈ first.output, answer.now = since
  clear : ∀ taken ∈ span, ∃ answer ∈ taken.output, answer.boot = boot ∧
    Clear answer.domain answer.replicas

section Steady

variable {boot : String} {since : ℚ} {span : List CauseStep} {taken : CauseStep} {answer : Answer}

theorem steady_singleton (answered : answer ∈ taken.output) (same : answer.boot = boot)
    (clear : Clear answer.domain answer.replicas) : Steady boot answer.now [taken] where
  begins := ⟨taken, [], rfl, answer, answered, rfl⟩
  clear := by
    intro other member
    cases List.mem_singleton.mp member
    exact ⟨answer, answered, same, clear⟩

theorem Steady.append (steady : Steady boot since span) (answered : answer ∈ taken.output)
    (same : answer.boot = boot) (clear : Clear answer.domain answer.replicas) :
    Steady boot since (span ++ [taken]) where
  begins := by
    obtain ⟨first, rest, rfl, begins⟩ := steady.begins
    exact ⟨first, rest ++ [taken], rfl, begins⟩
  clear := by
    intro other member
    rcases List.mem_append.mp member with earlier | last
    · exact steady.clear other earlier
    · cases List.mem_singleton.mp last
      exact ⟨answer, answered, same, clear⟩

end Steady

/-- The window of a cause ends the steps with a steady span. -/
def Running (boot : String) (steps : List CauseStep) (cause : Cause) : Prop :=
  ∀ since, cause.clearSince = some since → cause.clearBoot = some boot ∧
    ∃ front span, steps = front ++ span ∧ Steady boot since span

section Round

variable {process : CauseProcess} {poll : Poll} {freshId : String} {steps : List CauseStep}
variable {taken : CauseStep}

/-- The domain of the update of a new process is not healthy. -/
theorem update_fresh (fresh : process.loop.controller.last = none) :
    ¬ Clear (process.update poll freshId).2.2.2.domain (process.update poll freshId).2.2.2.replicas :=
  fun clear => poll_fresh fresh poll clear.1

/-- An update continues the steady span of a cause, begins one or leaves none. -/
theorem update_running (answered : (process.update poll freshId).2.2.2 ∈ taken.output)
    (running : ∀ cause ∈ process.book.current,
      process.loop.controller.last = none ∨ Running process.boot steps cause) :
    ∀ cause ∈ (process.update poll freshId).2.2.1.current,
      Running process.boot (steps ++ [taken]) cause := by
  intro cause held since begun
  by_cases clear : Clear (process.update poll freshId).2.2.2.domain
      (process.update poll freshId).2.2.2.replicas
  · cases known : process.book.current with
    | none => cases (advance_none clear known).symm.trans held
    | some before =>
      rcases advance_clear clear known with renewed | ⟨start, started, sameBoot, same | ⟨gone, _⟩⟩
      · cases renewed.symm.trans held
        cases begun
        exact ⟨rfl, steps, [taken], rfl, steady_singleton answered rfl clear⟩
      · cases same.symm.trans held
        rcases running cause known with fresh | window
        · exact absurd clear (update_fresh fresh)
        · obtain ⟨_, front, span, rfl, steady⟩ := window since begun
          exact ⟨sameBoot, front, span ++ [taken], by simp, steady.append answered rfl clear⟩
      · cases gone.symm.trans held
  · cases ((advance_unclear clear).1 cause held).symm.trans begun

/-- An update that closes a cause ends a steady span that is long enough. -/
theorem update_closes (answered : (process.update poll freshId).2.2.2 ∈ taken.output)
    (running : ∀ cause ∈ process.book.current,
      process.loop.controller.last = none ∨ Running process.boot steps cause)
    (known : process.book.current ≠ none)
    (closes : (process.update poll freshId).2.2.1.current = none) :
    ∃ since front span, steps = front ++ span ∧ Steady process.boot since (span ++ [taken]) ∧
      SETTLING ≤ poll.now - since := by
  obtain ⟨before, known⟩ := Option.ne_none_iff_exists'.mp known
  by_cases clear : Clear (process.update poll freshId).2.2.2.domain
      (process.update poll freshId).2.2.2.replicas
  · rcases advance_clear clear known with renewed | ⟨start, started, _, same | ⟨_, settled⟩⟩
    · cases renewed.symm.trans closes
    · cases same.symm.trans closes
    · rcases running before known with fresh | window
      · exact absurd clear (update_fresh fresh)
      · obtain ⟨_, front, span, rfl, steady⟩ := window start started
        exact ⟨start, front, span, rfl, steady.append answered rfl clear, settled⟩
  · cases known.symm.trans ((advance_unclear clear).2 closes)

end Round

/-- The current cause of the book. -/
def CauseWorld.current (world : CauseWorld) : Option Cause := world.book.current

/-- A step in which the open cause becomes closed. -/
def Closes (taken : CauseStep) : Prop := taken.before.current ≠ none ∧ taken.after.current = none

/-- The number of the cause that a step opens. -/
def openedNumber (taken : CauseStep) : Option Nat :=
  taken.output.bind fun answer =>
    if answer.causality.causeEvent = some .opened then taken.after.current.map (·.sequence) else none

/-- The book in memory is the one in the file, and the window of its cause is running or belongs to
an earlier process. -/
structure Settled (world : CauseWorld) (steps : List CauseStep) : Prop where
  synced : ∀ process ∈ world.process, process.book = world.book
  running : ∀ process ∈ world.process, ∀ cause ∈ process.book.current,
    process.loop.controller.last = none ∨ Running process.boot steps cause

/-- How a step that changes the book has come about: by an update, with the notes of a dispatch. -/
structure Updated (taken : CauseStep) (process : CauseProcess) (poll : Poll) (freshId : String) :
    Prop where
  running : taken.before.process = some process
  answered : (process.update poll freshId).2.2.2 ∈ taken.output
  sequence : taken.after.book.sequence = (process.update poll freshId).2.2.1.sequence
  numbers : taken.after.current.map (·.sequence) =
    (process.update poll freshId).2.2.1.current.map (·.sequence)
  windows : taken.after.current.map (fun cause => (cause.clearSince, cause.clearBoot)) =
    (process.update poll freshId).2.2.1.current.map fun cause => (cause.clearSince, cause.clearBoot)

/-- A step leaves the file alone and answers nothing, or updates the book. -/
theorem causeTurn_cases (world : CauseWorld) (event : CauseTurn) :
    ((take causeTurn world event).output = none ∧ (take causeTurn world event).after.file = world.file) ∨
      ∃ process poll freshId, Updated (take causeTurn world event) process poll freshId := by
  unfold take
  cases event with
  | start boot => exact Or.inl ⟨rfl, rfl⟩
  | round poll freshId result =>
    unfold causeTurn
    cases running : world.process with
    | none => exact Or.inl ⟨rfl, rfl⟩
    | some process =>
      have numbers := dispatchedIf_sequence (process.update poll freshId).2.2.1
        (process.update poll freshId).2.1.action result
      have windows := dispatchedIf_clear (process.update poll freshId).2.2.1
        (process.update poll freshId).2.1.action result
      exact Or.inr ⟨process, poll, freshId, running, rfl, numbers.1, numbers.2, windows⟩
  | cut poll freshId replaced =>
    unfold causeTurn
    cases running : world.process with
    | none => exact Or.inl ⟨rfl, rfl⟩
    | some process =>
      cases replaced with
      | false => exact Or.inl ⟨rfl, rfl⟩
      | true => exact Or.inr ⟨process, poll, freshId, running, rfl, rfl, rfl, rfl⟩

/-- What a dispatch notes leaves the window alone. -/
theorem running_dispatched {boot : String} {steps : List CauseStep} {book : CauseState}
    {action : Option Action} {result : String}
    (running : ∀ cause ∈ book.current, Running boot steps cause) :
    ∀ cause ∈ (dispatchedIf book action result).current, Running boot steps cause := by
  intro cause member since begun
  have same := dispatchedIf_clear book action result
  rw [Option.mem_def.mp member, Option.map_some] at same
  obtain ⟨before, known, pair⟩ := Option.map_eq_some_iff.mp same.symm
  obtain ⟨clearSince, clearBoot⟩ := Prod.mk.inj pair
  rw [← clearBoot]
  exact running before known since (clearSince.trans begun)

theorem settled_take {world : CauseWorld} {steps : List CauseStep} (settled : Settled world steps)
    (event : CauseTurn) :
    Settled (take causeTurn world event).after (steps ++ [take causeTurn world event]) := by
  cases event with
  | start boot =>
    constructor
    · intro process started
      cases started
      rfl
    · intro process started cause _
      cases started
      exact Or.inl rfl
  | cut poll freshId replaced =>
    have ended : (take causeTurn world (.cut poll freshId replaced)).after.process = none := by
      unfold take causeTurn
      cases running : world.process with
      | none => exact running
      | some process => cases replaced <;> rfl
    constructor
    · intro process running
      cases ended.symm.trans running
    · intro process running
      cases ended.symm.trans running
  | round poll freshId result =>
    cases running : world.process with
    | none =>
      have same : (take causeTurn world (.round poll freshId result)).after.process = none := by
        unfold take causeTurn
        rw [running]
        exact running
      constructor
      · intro process continues
        cases same.symm.trans continues
      · intro process continues
        cases same.symm.trans continues
    | some process =>
      have answered : (process.update poll freshId).2.2.2 ∈
          (take causeTurn world (.round poll freshId result)).output := by
        unfold take causeTurn
        rw [running]
        rfl
      have windows := update_running answered (settled.running process running)
      have after : (take causeTurn world (.round poll freshId result)).after =
          ⟨some (dispatchedIf (process.update poll freshId).2.2.1
              (process.update poll freshId).2.1.action result),
            some ⟨process.boot, dispatchedIf (process.update poll freshId).2.2.1
              (process.update poll freshId).2.1.action result, (process.update poll freshId).1⟩⟩ := by
        unfold take causeTurn
        rw [running]
      constructor
      · intro next continues
        rw [after] at continues ⊢
        cases continues
        rfl
      · intro next continues cause member
        rw [after] at continues
        cases continues
        exact Or.inr (running_dispatched windows cause member)

theorem settled_trace (file : Option CauseState) (turns : List CauseTurn) :
    Settled (final causeTurn ⟨file, none⟩ turns) (trace causeTurn ⟨file, none⟩ turns) := by
  induction turns using List.reverseRecOn with
  | nil => exact ⟨by simp, by simp⟩
  | append_singleton turns event inductionHypothesis =>
    rw [trace_append, final_append]
    exact settled_take inductionHypothesis event

/-- A step that closes the cause ends a window that is long enough, within one process. -/
theorem closes_take {world : CauseWorld} {steps : List CauseStep} (settled : Settled world steps)
    {event : CauseTurn} (closes : Closes (take causeTurn world event)) :
    ∃ since before span, steps = before ++ span ∧ ∃ answer ∈ (take causeTurn world event).output,
      Steady answer.boot since (span ++ [take causeTurn world event]) ∧
        SETTLING ≤ answer.now - since := by
  obtain ⟨known, gone⟩ := closes
  rcases causeTurn_cases world event with ⟨_, same⟩ | ⟨process, poll, freshId, updated⟩
  · refine absurd ?_ known
    have unchanged : (take causeTurn world event).after.current = world.current := by
      unfold CauseWorld.current CauseWorld.book
      rw [same]
    exact unchanged.symm.trans gone
  · have book := settled.synced process updated.running
    have empty : (process.update poll freshId).2.2.1.current = none := by
      have numbers := updated.numbers
      rw [gone] at numbers
      exact Option.map_eq_none_iff.mp numbers.symm
    have held : process.book.current ≠ none := by
      rw [book]
      exact known
    obtain ⟨since, before, span, split, steady, long⟩ :=
      update_closes updated.answered (settled.running process updated.running) held empty
    exact ⟨since, before, span, split, _, updated.answered, steady, long⟩

theorem update_sequence (process : CauseProcess) (poll : Poll) (freshId : String) :
    ((process.update poll freshId).2.2.2.causality.causeEvent = some .opened ∧
        process.book.current = none ∧
        (process.update poll freshId).2.2.1.sequence = process.book.sequence + 1 ∧
        ∃ cause, (process.update poll freshId).2.2.1.current = some cause ∧
          cause.sequence = process.book.sequence + 1) ∨
      ((process.update poll freshId).2.2.2.causality.causeEvent ≠ some .opened ∧
        (process.update poll freshId).2.2.1.sequence = process.book.sequence) :=
  advance_sequence

/-- A cause is opened where none is open, under the next number, which nothing else changes. -/
theorem opens_take {world : CauseWorld} {steps : List CauseStep} (settled : Settled world steps)
    (event : CauseTurn) :
    (openedNumber (take causeTurn world event) = some (world.book.sequence + 1) ∧
        world.current = none ∧
        (take causeTurn world event).after.book.sequence = world.book.sequence + 1) ∨
      (openedNumber (take causeTurn world event) = none ∧
        (take causeTurn world event).after.book.sequence = world.book.sequence) := by
  rcases causeTurn_cases world event with ⟨quiet, same⟩ | ⟨process, poll, freshId, updated⟩
  · refine Or.inr ⟨by rw [openedNumber, quiet]; rfl, ?_⟩
    unfold CauseWorld.book
    rw [same]
  · have book := settled.synced process updated.running
    have number : openedNumber (take causeTurn world event) =
        if (process.update poll freshId).2.2.2.causality.causeEvent = some .opened then
          (process.update poll freshId).2.2.1.current.map (·.sequence) else none := by
      rw [openedNumber, Option.mem_def.mp updated.answered, Option.bind_some, updated.numbers]
    rw [number, updated.sequence]
    have sequence : process.book.sequence = world.book.sequence := congrArg _ book
    rcases update_sequence process poll freshId with
      ⟨opened, alone, next, cause, current, numbered⟩ | ⟨other, kept⟩
    · left
      rw [sequence] at next numbered
      refine ⟨?_, (congrArg CauseState.current book).symm.trans alone, next⟩
      rw [if_pos opened, current, Option.map_some, numbered]
    · exact Or.inr ⟨if_neg other, kept.trans sequence⟩

/-- What holds of the book over the steps of a run. -/
structure BookKept (steps : List CauseStep) : Prop where
  /-- A cause closes at the end of a settling window of one process. -/
  settles : ∀ front taken back, steps = front ++ taken :: back → Closes taken →
    ∃ since before span, front = before ++ span ∧ ∃ answer ∈ taken.output,
      Steady answer.boot since (span ++ [taken]) ∧ SETTLING ≤ answer.now - since
  /-- A cause is opened only where none is open. -/
  alone : ∀ taken ∈ steps, openedNumber taken ≠ none → taken.before.current = none
  numbered : (steps.filterMap openedNumber).Pairwise (· < ·)
  unblocked : ∀ taken ∈ steps, ∀ answer ∈ taken.output,
    answer.causality.secondaryRecoveryBlocked = false →
      taken.after.current = none ∧ Clear answer.domain answer.replicas

/-- From a settled book on, every opened cause has a number of its own, above all before. -/
theorem numbered_trace {world : CauseWorld} {steps : List CauseStep} (settled : Settled world steps)
    (turns : List CauseTurn) :
    (∀ number ∈ (trace causeTurn world turns).filterMap openedNumber, world.book.sequence < number) ∧
      ((trace causeTurn world turns).filterMap openedNumber).Pairwise (· < ·) := by
  induction turns generalizing world steps with
  | nil => simp [trace]
  | cons event rest inductionHypothesis =>
    obtain ⟨above, ordered⟩ := inductionHypothesis (settled_take settled event)
    rw [trace, List.filterMap_cons]
    rcases opens_take settled event with ⟨number, _, next⟩ | ⟨number, same⟩
    · rw [number]
      have later : ∀ other ∈ (trace causeTurn (causeTurn world event).1 rest).filterMap openedNumber,
          world.book.sequence + 1 < other := fun other member => next ▸ above other member
      refine ⟨?_, List.pairwise_cons.mpr ⟨later, ordered⟩⟩
      intro other member
      rcases List.mem_cons.mp member with rfl | member
      · exact Nat.lt_succ_self _
      · exact (Nat.lt_succ_self _).trans (later other member)
    · rw [number]
      exact ⟨fun other member => same ▸ above other member, ordered⟩

/-- A cause is closed only by a healthy settling window within one process, whatever is stored at
first and however processes end and hosts reboot. -/
theorem causes_bookKept (file : Option CauseState) (turns : List CauseTurn) :
    BookKept (trace causeTurn ⟨file, none⟩ turns) where
  settles := by
    intro front taken back run closes
    obtain ⟨first, event, later, rfl, rfl, rfl⟩ := trace_split run
    exact closes_take (settled_trace file first) closes
  alone := by
    intro taken member opens
    obtain ⟨front, back, run⟩ := List.append_of_mem member
    obtain ⟨first, event, later, rfl, rfl, rfl⟩ := trace_split run
    rcases opens_take (settled_trace file first) event with ⟨_, alone, _⟩ | ⟨quiet, _⟩
    · exact alone
    · exact absurd quiet opens
  numbered := (numbered_trace (settled_trace file []) turns).2
  unblocked := by
    intro taken member answer answered unblocked
    have same := eq_take_of_mem taken member
    rw [same] at answered ⊢
    rcases causeTurn_cases taken.before taken.event with
      ⟨quiet, _⟩ | ⟨process, poll, freshId, updated⟩
    · cases quiet.symm.trans answered
    · cases updated.answered.symm.trans answered
      have held : (process.update poll freshId).2.2.1.current = none ∧
          Clear (process.update poll freshId).2.2.2.domain poll.replicas := by
        simpa [CauseProcess.update, CauseState.update, Clear, and_assoc, and_comm, and_left_comm]
          using unblocked
      refine ⟨?_, held.2⟩
      have numbers := updated.numbers
      rw [held.1] at numbers
      exact Option.map_eq_none_iff.mp numbers

end LiveStream.Fallback

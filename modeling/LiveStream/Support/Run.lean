import Mathlib

/-! Runs of a deterministic machine over lists of events: what each step finds
and leaves, invariants of guarded runs, and tokens that are given out once. -/

namespace LiveStream.Support

universe u v w x

variable {σ : Type u} {α : Type v} {β : Type w} {κ : Type x}

/-- One step of a run. -/
structure Taken (σ : Type u) (α : Type v) (β : Type w) where
  before : σ
  event : α
  output : β
  after : σ

section Machine

variable (step : σ → α → σ × β)

def take (state : σ) (event : α) : Taken σ α β :=
  ⟨state, event, (step state event).2, (step state event).1⟩

/-- The steps of a run, in order. -/
def trace (state : σ) : List α → List (Taken σ α β)
  | [] => []
  | event :: rest => take step state event :: trace (step state event).1 rest

/-- The state that a run ends in. -/
def final (state : σ) (events : List α) : σ :=
  events.foldl (fun current event => (step current event).1) state

@[simp] theorem final_nil (state : σ) : final step state [] = state := rfl

@[simp] theorem final_cons (state : σ) (event : α) (rest : List α) :
    final step state (event :: rest) = final step (step state event).1 rest := rfl

theorem final_append (state : σ) (first later : List α) :
    final step state (first ++ later) = final step (final step state first) later :=
  List.foldl_append

theorem trace_append (state : σ) (first later : List α) :
    trace step state (first ++ later) =
      trace step state first ++ trace step (final step state first) later := by
  induction first generalizing state with
  | nil => rfl
  | cons event rest inductionHypothesis =>
    exact congrArg (take step state event :: ·) (inductionHypothesis (step state event).1)

/-- Every step of a run meets the guard. -/
def Guarded (guard : σ → α → Prop) (state : σ) (events : List α) : Prop :=
  ∀ taken ∈ trace step state events, guard taken.before taken.event

instance (guard : σ → α → Prop) [∀ state event, Decidable (guard state event)] (state : σ)
    (events : List α) : Decidable (Guarded step guard state events) :=
  inferInstanceAs (Decidable (∀ taken ∈ trace step state events, guard taken.before taken.event))

variable {step} {guard : σ → α → Prop} {state : σ}

theorem guarded_cons {event : α} {rest : List α} :
    Guarded step guard state (event :: rest) ↔
      guard state event ∧ Guarded step guard (step state event).1 rest := by
  simp [Guarded, trace, take]

theorem guarded_append {first later : List α} :
    Guarded step guard state (first ++ later) ↔
      Guarded step guard state first ∧ Guarded step guard (final step state first) later := by
  induction first generalizing state with
  | nil => simp [Guarded, trace]
  | cons event rest inductionHypothesis =>
    simp only [List.cons_append, guarded_cons, final_cons, inductionHypothesis, and_assoc]

/-- What every guarded step preserves, every guarded run preserves. -/
theorem final_invariant (invariant : σ → Prop) {events : List α}
    (preserved : ∀ current event, invariant current → guard current event →
      invariant (step current event).1)
    (initially : invariant state) (guarded : Guarded step guard state events) :
    invariant (final step state events) := by
  induction events generalizing state with
  | nil => exact initially
  | cons event rest inductionHypothesis =>
    obtain ⟨now, later⟩ := guarded_cons.mp guarded
    exact inductionHypothesis (preserved state event initially now) later

/-- What every step preserves, every run preserves. -/
theorem final_kept (invariant : σ → Prop) {events : List α}
    (preserved : ∀ current event, invariant current → invariant (step current event).1)
    (initially : invariant state) : invariant (final step state events) := by
  have unguarded : Guarded step (fun _ _ => True) state events := fun _ _ => trivial
  apply final_invariant invariant _ initially unguarded
  exact fun current event holds _ => preserved current event holds

/-- Every step of a run is the step of its event from the state before it. -/
theorem eq_take_of_mem {events : List α} :
    ∀ taken ∈ trace step state events, taken = take step taken.before taken.event := by
  induction events generalizing state with
  | nil => simp [trace]
  | cons event rest inductionHypothesis =>
    intro taken member
    rcases List.mem_cons.mp member with rfl | member
    · rfl
    · exact inductionHypothesis taken member

/-- A step of a run is the step of its event from where the events before it lead. -/
theorem trace_split {events : List α} {front : List (Taken σ α β)} {taken : Taken σ α β}
    {back : List (Taken σ α β)} (run : trace step state events = front ++ taken :: back) :
    ∃ first event later, events = first ++ event :: later ∧ front = trace step state first ∧
      taken = take step (final step state first) event := by
  induction front generalizing state events with
  | nil =>
    cases events with
    | nil => simp [trace] at run
    | cons event rest =>
      simp only [trace, List.nil_append, List.cons.injEq] at run
      exact ⟨[], event, rest, rfl, rfl, run.1.symm⟩
  | cons head front inductionHypothesis =>
    cases events with
    | nil => simp [trace] at run
    | cons event rest =>
      simp only [trace, List.cons_append, List.cons.injEq] at run
      obtain ⟨first, next, later, rfl, rfl, rfl⟩ := inductionHypothesis run.2
      exact ⟨event :: first, next, later, rfl, by rw [trace, run.1], rfl⟩

/-- Every step of a guarded run is a step from a state with the invariant. -/
theorem trace_invariant (invariant : σ → Prop) {events : List α}
    (preserved : ∀ current event, invariant current → guard current event →
      invariant (step current event).1)
    (initially : invariant state) (guarded : Guarded step guard state events) :
    ∀ taken ∈ trace step state events,
      invariant taken.before ∧ taken = take step taken.before taken.event := by
  induction events generalizing state with
  | nil => simp [trace]
  | cons event rest inductionHypothesis =>
    obtain ⟨now, later⟩ := guarded_cons.mp guarded
    intro taken member
    rcases List.mem_cons.mp member with rfl | member
    · exact ⟨initially, rfl⟩
    · exact inductionHypothesis (preserved state event initially now) later taken member

/-- What is settled stays settled, so it binds every later step of a guarded run. -/
theorem pairwise_settled {τ : Type*} (invariant : σ → Prop) (settled : τ → σ → Prop)
    (binds : τ → Taken σ α β → Prop) {events : List α}
    (preserved : ∀ current event, invariant current → guard current event →
      invariant (step current event).1)
    (stays : ∀ token current event, invariant current → guard current event →
      settled token current → settled token (step current event).1)
    (bound : ∀ token current event, invariant current → guard current event →
      settled token current → binds token (take step current event))
    (initially : invariant state) (guarded : Guarded step guard state events) :
    (trace step state events).Pairwise fun earlier later =>
      ∀ token, settled token earlier.after → binds token later := by
  induction events generalizing state with
  | nil => exact List.Pairwise.nil
  | cons event rest inductionHypothesis =>
    obtain ⟨now, later⟩ := guarded_cons.mp guarded
    have next := preserved state event initially now
    apply List.Pairwise.cons
    · intro taken member token reached
      obtain ⟨⟨holds, still⟩, shape⟩ := trace_invariant
        (fun current => invariant current ∧ settled token current)
        (fun current event both free =>
          ⟨preserved current event both.1 free, stays token current event both.1 free both.2⟩)
        ⟨next, reached⟩ later taken member
      have free := later taken member
      rw [shape]
      exact bound token taken.before taken.event holds free still
    · exact inductionHypothesis next later

/-- A token that is fresh when a step emits it, spent from then on and never
fresh again is emitted at most once. -/
theorem emitted_nodup (invariant : σ → Prop) (spent : σ → κ → Prop)
    (emit : Taken σ α β → Option κ) {events : List α}
    (preserved : ∀ current event, invariant current → invariant (step current event).1)
    (fresh : ∀ current event token, invariant current →
      emit (take step current event) = some token → ¬ spent current token)
    (spends : ∀ current event token, invariant current →
      emit (take step current event) = some token → spent (step current event).1 token)
    (kept : ∀ current event token, invariant current → spent current token →
      spent (step current event).1 token)
    (initially : invariant state) :
    ((trace step state events).filterMap emit).Nodup ∧
      ∀ token ∈ (trace step state events).filterMap emit, ¬ spent state token := by
  induction events generalizing state with
  | nil => simp [trace]
  | cons event rest inductionHypothesis =>
    have ⟨unique, unspent⟩ := inductionHypothesis (preserved state event initially)
    have before : ∀ token ∈ (trace step (step state event).1 rest).filterMap emit,
        ¬ spent state token := fun token member already =>
      unspent token member (kept state event token initially already)
    simp only [trace, List.filterMap_cons]
    cases emission : emit (take step state event) with
    | none => exact ⟨unique, before⟩
    | some token =>
      refine ⟨List.nodup_cons.mpr ⟨fun again => ?_, unique⟩, ?_⟩
      · exact unspent token again (spends state event token initially emission)
      · intro other member
        rcases List.mem_cons.mp member with rfl | member
        · exact fresh state event _ initially emission
        · exact before other member

end Machine

end LiveStream.Support

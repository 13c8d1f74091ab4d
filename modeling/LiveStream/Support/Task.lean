import LiveStream.Support.Run

/-! Programs that call atomic operations on a shared state, run alone with others
in between, or in a pool whose members advance in any order. -/

namespace LiveStream.Support

universe u v w x

/-- A program: it ends, or calls an operation and goes on with the answer. -/
inductive Task (α : Type v) (β : Type w) (ρ : Type x) where
  | done (result : ρ)
  | call (operation : α) (next : β → Task α β ρ)

variable {σ : Type u} {α : Type v} {β : Type w} {ρ : Type x} (step : σ → α → σ × β)

/-- Run a task to its end; before its n-th call the others do `gaps n`. -/
def Task.among : Task α β ρ → (Nat → List α) → σ → σ × ρ
  | .done result, _, state => (state, result)
  | .call operation next, gaps, state =>
    let taken := step (final step state (gaps 0)) operation
    (next taken.2).among (fun index => gaps (index + 1)) taken.1

@[simp] theorem Task.among_done (result : ρ) (gaps : Nat → List α) (state : σ) :
    (Task.done result : Task α β ρ).among step gaps state = (state, result) := rfl

theorem Task.among_call (operation : α) (next : β → Task α β ρ) (gaps : Nat → List α)
    (state : σ) :
    (Task.call operation next).among step gaps state =
      (next (step (final step state (gaps 0)) operation).2).among step
        (fun index => gaps (index + 1)) (step (final step state (gaps 0)) operation).1 := rfl

/-- A shared state and the tasks that are running on it. -/
structure Pool (σ : Type u) (α : Type v) (β : Type w) (ρ : Type x) where
  state : σ
  running : List (Task α β ρ)

/-- A task starts or makes its next call, another party calls an operation, or
every task is lost and the state is recovered by an operation. -/
inductive PoolEvent (α : Type v) (β : Type w) (ρ : Type x) where
  | spawn (task : Task α β ρ)
  | advance (index : Nat)
  | direct (operation : α)
  | restart (operation : α)

/-- What an event does: tasks change on their own, or go on from an answer. -/
inductive Turn (α : Type v) (β : Type w) (ρ : Type x) where
  | quiet (running : List (Task α β ρ))
  | call (operation : α) (rest : β → List (Task α β ρ))

def Turn.operation? : Turn α β ρ → Option α
  | .quiet _ => none
  | .call operation _ => some operation

def Pool.next (pool : Pool σ α β ρ) : PoolEvent α β ρ → Turn α β ρ
  | .spawn task => .quiet (pool.running ++ [task])
  | .advance index =>
    match pool.running[index]? with
    | some (.call operation next) =>
      .call operation fun answer => pool.running.set index (next answer)
    | some (.done _) | none => .quiet pool.running
  | .direct operation => .call operation fun _ => pool.running
  | .restart operation => .call operation fun _ => []

/-- One event of a pool; the output is the operation it performed. -/
def Pool.turn (pool : Pool σ α β ρ) (event : PoolEvent α β ρ) : Pool σ α β ρ × Option α :=
  match pool.next event with
  | .quiet running => (⟨pool.state, running⟩, none)
  | .call operation rest =>
    let taken := step pool.state operation
    (⟨taken.1, rest taken.2⟩, some operation)

/-- The operations that a run of a pool performs, in order. -/
def Pool.performed (pool : Pool σ α β ρ) (events : List (PoolEvent α β ρ)) : List α :=
  (trace (Pool.turn step) pool events).filterMap (·.output)

variable {step}

theorem Pool.performed_cons (pool : Pool σ α β ρ) (event : PoolEvent α β ρ)
    (rest : List (PoolEvent α β ρ)) :
    pool.performed step (event :: rest) =
      (Pool.turn step pool event).2.toList ++
        (Pool.turn step pool event).1.performed step rest := by
  simp only [Pool.performed, trace, take, List.filterMap_cons]
  cases (Pool.turn step pool event).2 <;> rfl

theorem Pool.turn_state (pool : Pool σ α β ρ) (event : PoolEvent α β ρ) :
    (Pool.turn step pool event).1.state =
      final step pool.state (Pool.turn step pool event).2.toList := by
  cases next : pool.next event <;> simp [Pool.turn, next, final]

/-- Whatever the order, the shared state is the one that the performed operations
leave one after the other. -/
theorem Pool.final_state (pool : Pool σ α β ρ) (events : List (PoolEvent α β ρ)) :
    (final (Pool.turn step) pool events).state =
      final step pool.state (pool.performed step events) := by
  induction events generalizing pool with
  | nil => rfl
  | cons event rest inductionHypothesis =>
    rw [final_cons, inductionHypothesis, Pool.performed_cons, final_append, Pool.turn_state]

/-- The guard of the shared machine, read on the operation that an event performs. -/
def Pool.meets (guard : σ → α → Prop) (pool : Pool σ α β ρ) (event : PoolEvent α β ρ) : Prop :=
  ∀ operation ∈ (pool.next event).operation?, guard pool.state operation

instance (guard : σ → α → Prop) [∀ state operation, Decidable (guard state operation)]
    (pool : Pool σ α β ρ) (event : PoolEvent α β ρ) : Decidable (Pool.meets guard pool event) :=
  inferInstanceAs (Decidable (∀ operation ∈ (pool.next event).operation?, _))

/-- A pool run whose operations meet the guard is a guarded run of the machine. -/
theorem Pool.guarded_performed {guard : σ → α → Prop} {pool : Pool σ α β ρ}
    {events : List (PoolEvent α β ρ)}
    (guarded : Guarded (Pool.turn step) (Pool.meets guard) pool events) :
    Guarded step guard pool.state (pool.performed step events) := by
  induction events generalizing pool with
  | nil => simp [Guarded, Pool.performed, trace]
  | cons event rest inductionHypothesis =>
    obtain ⟨now, later⟩ := guarded_cons.mp guarded
    rw [Pool.performed_cons, guarded_append, ← Pool.turn_state]
    refine ⟨?_, inductionHypothesis later⟩
    cases next : pool.next event with
    | quiet running => simp [Pool.turn, next, Guarded, trace]
    | call operation rest =>
      have met := now operation (by simp [next, Turn.operation?])
      simpa [Pool.turn, next, Guarded, trace, take] using met

end LiveStream.Support

import LiveStream.Support.Task

/-! Debts of the tasks in a pool: a call may leave the shared state in debt, and
the task that made it owes an operation that pays, however its calls are answered. -/

namespace LiveStream.Support

universe u v w x y

variable {σ : Type u} {α : Type v} {β : Type w} {ρ : Type x} {κ : Type y}

/-- Every result that the task can end in has the property. -/
def Task.Ends (step : σ → α → σ × β) (property : ρ → Prop) : Task α β ρ → Prop
  | .done result => property result
  | .call operation next => ∀ state, (next (step state operation).2).Ends step property

/-- On every way to its end the task performs an operation that pays. -/
def Task.Owes (step : σ → α → σ × β) (pays : α → Prop) : Task α β ρ → Prop
  | .done _ => False
  | .call operation next =>
    pays operation ∨ ∀ state, (next (step state operation).2).Owes step pays

/-- Debts of a state: which call incurs one, and which operation pays it. -/
structure Obligation (step : σ → α → σ × β) (κ : Type y) where
  invariant : σ → Prop
  due : κ → σ → Prop
  incurs : κ → α → β → Prop
  pays : κ → α → Prop
  kept : ∀ {state : σ} (operation : α), invariant state → invariant (step state operation).1
  incurred : ∀ {state : σ} {operation : α} {debt : κ}, invariant state →
    due debt (step state operation).1 →
      due debt state ∨ incurs debt operation (step state operation).2
  paid : ∀ {state : σ} {operation : α} {debt : κ}, invariant state → pays debt operation →
    ¬ due debt (step state operation).1

variable {step : σ → α → σ × β} (obligation : Obligation step κ)

/-- What the calls of the task incur, the rest of it owes. -/
def Task.Settles : Task α β ρ → Prop
  | .done _ => True
  | .call operation next => ∀ state,
    (∀ debt, obligation.incurs debt operation (step state operation).2 →
      (next (step state operation).2).Owes step (obligation.pays debt)) ∧
    (next (step state operation).2).Settles

/-- A started task settles, others incur no debt, and a recovery leaves none. -/
def PoolEvent.Honours : PoolEvent α β ρ → Prop
  | .spawn task => task.Settles obligation
  | .advance _ => True
  | .direct operation => ∀ state debt, ¬ obligation.incurs debt operation (step state operation).2
  | .restart operation => ∀ state debt, obligation.invariant state →
    ¬ obligation.due debt (step state operation).1

/-- Every running task settles, and every debt of the state is owed by one of them. -/
structure Pool.Solvent (pool : Pool σ α β ρ) : Prop where
  invariant : obligation.invariant pool.state
  settles : ∀ (index : Nat) (task : Task α β ρ), pool.running[index]? = some task →
    task.Settles obligation
  owed : ∀ debt, obligation.due debt pool.state →
    ∃ (index : Nat) (task : Task α β ρ), pool.running[index]? = some task ∧
      task.Owes step (obligation.pays debt)

variable {obligation}

private theorem Pool.Solvent.spawn {pool : Pool σ α β ρ} (solvent : pool.Solvent obligation)
    {task : Task α β ρ} (settles : task.Settles obligation) :
    Pool.Solvent obligation ⟨pool.state, pool.running ++ [task]⟩ := by
  refine ⟨solvent.invariant, ?_, ?_⟩
  · intro index other found
    rcases List.mem_append.mp (List.mem_of_getElem? found) with old | new
    · obtain ⟨place, there⟩ := List.mem_iff_getElem?.mp old
      exact solvent.settles place other there
    · exact List.mem_singleton.mp new ▸ settles
  · intro debt due
    obtain ⟨index, other, found, owes⟩ := solvent.owed debt due
    exact ⟨index, other, (List.getElem?_append_left
      (List.getElem?_eq_some_iff.mp found).1).trans found, owes⟩

/-- The call of a running task: what it incurs it owes, what it pays is not due. -/
private theorem Pool.Solvent.call {pool : Pool σ α β ρ} (solvent : pool.Solvent obligation)
    {index : Nat} {operation : α} {next : β → Task α β ρ}
    (found : pool.running[index]? = some (.call operation next)) :
    Pool.Solvent obligation ⟨(step pool.state operation).1,
      pool.running.set index (next (step pool.state operation).2)⟩ := by
  have bound : index < pool.running.length := (List.getElem?_eq_some_iff.mp found).1
  have own := solvent.settles index _ found pool.state
  refine ⟨obligation.kept operation solvent.invariant, ?_, ?_⟩
  · intro place task there
    by_cases same : index = place
    · subst same
      rw [List.getElem?_set_self bound] at there
      cases there
      exact own.2
    · rw [List.getElem?_set_ne same] at there
      exact solvent.settles place task there
  · intro debt due
    rcases obligation.incurred solvent.invariant due with before | incurs
    · obtain ⟨place, task, there, owes⟩ := solvent.owed debt before
      by_cases same : index = place
      · subst same
        rw [found] at there
        cases there
        refine ⟨index, _, List.getElem?_set_self bound, ?_⟩
        rcases owes with pays | rest
        · exact (obligation.paid solvent.invariant pays due).elim
        · exact rest pool.state
      · exact ⟨place, task, (List.getElem?_set_ne same).trans there, owes⟩
    · exact ⟨index, _, List.getElem?_set_self bound, own.1 debt incurs⟩

private theorem Pool.Solvent.direct {pool : Pool σ α β ρ} (solvent : pool.Solvent obligation)
    {operation : α}
    (free : ∀ state debt, ¬ obligation.incurs debt operation (step state operation).2) :
    Pool.Solvent obligation ⟨(step pool.state operation).1, pool.running⟩ :=
  ⟨obligation.kept operation solvent.invariant, solvent.settles, fun debt due =>
    solvent.owed debt ((obligation.incurred solvent.invariant due).resolve_right (free _ debt))⟩

/-- A task that advances makes its next call, unless it is done or not there. -/
private theorem Pool.turn_advance (step : σ → α → σ × β) (pool : Pool σ α β ρ) (index : Nat) :
    (Pool.turn step pool (.advance index)).1 = pool ∨
      ∃ operation next, pool.running[index]? = some (.call operation next) ∧
        (Pool.turn step pool (.advance index)).1 = ⟨(step pool.state operation).1,
          pool.running.set index (next (step pool.state operation).2)⟩ := by
  cases found : pool.running[index]? with
  | none => exact .inl (by simp [Pool.turn, Pool.next, found])
  | some task =>
    cases task with
    | done result => exact .inl (by simp [Pool.turn, Pool.next, found])
    | call operation next => exact .inr ⟨operation, next, rfl, by simp [Pool.turn, Pool.next, found]⟩

theorem Pool.Solvent.turn {pool : Pool σ α β ρ} (solvent : pool.Solvent obligation)
    {event : PoolEvent α β ρ} (honours : event.Honours obligation) :
    (Pool.turn step pool event).1.Solvent obligation := by
  cases event with
  | spawn task => exact solvent.spawn honours
  | advance index =>
    rcases Pool.turn_advance step pool index with same | ⟨operation, next, found, called⟩
    · rw [same]
      exact solvent
    · rw [called]
      exact solvent.call found
  | direct operation => exact solvent.direct honours
  | restart operation =>
    exact ⟨obligation.kept operation solvent.invariant, fun _ _ found => (by cases found),
      fun debt due => (honours _ debt solvent.invariant due).elim⟩

/-- Whatever the order of the events, every debt is owed by a running task. -/
theorem Pool.solvent_of_run {pool : Pool σ α β ρ} {events : List (PoolEvent α β ρ)}
    (solvent : pool.Solvent obligation) (honour : ∀ event ∈ events, event.Honours obligation) :
    (final (Pool.turn step) pool events).Solvent obligation := by
  induction events generalizing pool with
  | nil => exact solvent
  | cons event rest inductionHypothesis =>
    exact inductionHypothesis (solvent.turn (honour event (by simp)))
      fun other later => honour other (by simp [later])

/-- A task that owes is not done. -/
theorem Task.Owes.pending {task : Task α β ρ} {pays : α → Prop} (owes : task.Owes step pays)
    (result : ρ) : task ≠ .done result := by
  rintro rfl
  exact owes

private theorem Pool.ends_turn {property : ρ → Prop} {pool : Pool σ α β ρ}
    (running : ∀ task ∈ pool.running, task.Ends step property) {event : PoolEvent α β ρ}
    (started : ∀ task, PoolEvent.spawn task = event → task.Ends step property) :
    ∀ task ∈ (Pool.turn step pool event).1.running, task.Ends step property := by
  cases event with
  | spawn task =>
    intro other member
    rcases List.mem_append.mp member with old | new
    · exact running other old
    · exact List.mem_singleton.mp new ▸ started task rfl
  | advance index =>
    rcases Pool.turn_advance step pool index with same | ⟨operation, next, found, called⟩
    · rw [same]
      exact running
    · rw [called]
      intro other member
      rcases List.mem_or_eq_of_mem_set member with old | rfl
      · exact running other old
      · exact running _ (List.mem_of_getElem? found) pool.state
  | direct operation => exact running
  | restart operation => exact fun _ member => by cases member

/-- When every started task ends with the property, every task that is done has it. -/
theorem Pool.ends_of_run (property : ρ → Prop) {pool : Pool σ α β ρ}
    {events : List (PoolEvent α β ρ)}
    (running : ∀ task ∈ pool.running, task.Ends step property)
    (started : ∀ task, PoolEvent.spawn task ∈ events → task.Ends step property) :
    ∀ task ∈ (final (Pool.turn step) pool events).running, task.Ends step property := by
  induction events generalizing pool with
  | nil => exact running
  | cons event rest inductionHypothesis =>
    exact inductionHypothesis (Pool.ends_turn running fun task same => started task (by simp [same]))
      fun task later => started task (by simp [later])

end LiveStream.Support

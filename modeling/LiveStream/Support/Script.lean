import Mathlib

/-! Scripts of a process that its environment can interrupt: every look at or touch of
the outside takes one turn of the environment, and a process without a turn is killed.
What holds always, and what holds if a script returns, is proved rule by rule. -/

namespace LiveStream.Support

universe u v

/-- How a process leaves a script. -/
inductive Exit (ε α : Type u) where
  | done (value : α)
  | raised (error : ε)
  | killed

/-- A script over turns `τ`, states `σ` and exceptions `ε`. -/
structure Script (τ σ ε α : Type) where
  run : List τ → σ → Exit ε α × List τ × σ

namespace Script

variable {τ σ ε α β : Type}

/-- One script after the other, unless the first is left otherwise. -/
def bind (script : Script τ σ ε α) (next : α → Script τ σ ε β) : Script τ σ ε β where
  run turns state :=
    match script.run turns state with
    | (.done value, rest, after) => (next value).run rest after
    | (.raised error, rest, after) => (.raised error, rest, after)
    | (.killed, rest, after) => (.killed, rest, after)

instance : Monad (Script τ σ ε) where
  pure value := ⟨fun turns state => (.done value, turns, state)⟩
  bind := bind

/-- Raise an exception. -/
def throw (error : ε) : Script τ σ ε α where
  run turns state := (.raised error, turns, state)

/-- A computation that only looks at values. -/
def lift : Except ε α → Script τ σ ε α
  | .ok value => pure value
  | .error error => throw error

instance : MonadLift (Except ε) (Script τ σ ε) where
  monadLift := lift

/-- The state of the process. -/
def get : Script τ σ ε σ where
  run turns state := (.done state, turns, state)

/-- A change that no environment sees yet. -/
def modify (change : σ → σ) : Script τ σ ε Unit where
  run turns state := (.done (), turns, change state)

/-- One interaction with the environment. -/
def act (answer : τ → σ → Exit ε α × σ) : Script τ σ ε α where
  run
    | [], state => (.killed, [], state)
    | turn :: rest, state => ((answer turn state).1, rest, (answer turn state).2)

/-- `try: script except …: handler`. -/
def handle (script : Script τ σ ε α) (handler : ε → Script τ σ ε α) : Script τ σ ε α where
  run turns state :=
    match script.run turns state with
    | (.raised error, rest, after) => (handler error).run rest after
    | (.done value, rest, after) => (.done value, rest, after)
    | (.killed, rest, after) => (.killed, rest, after)

/-- A loop of at most so many rounds. -/
def rounds (round : β → Script τ σ ε (β ⊕ α)) : Nat → β → Script τ σ ε α
  | 0, _ => ⟨fun turns state => (.killed, turns, state)⟩
  | bound + 1, current => do
    match ← round current with
    | .inl next => rounds round bound next
    | .inr value => return value

/-- A loop whose rounds take a turn each, so that it is killed within its turns. -/
def loop (round : β → Script τ σ ε (β ⊕ α)) (current : β) : Script τ σ ε α where
  run turns := (rounds round turns.length current).run turns

section Runs

variable {script : Script τ σ ε α} {turns rest : List τ} {state after : σ}

theorem run_bind_done {next : α → Script τ σ ε β} {value : α}
    (ended : script.run turns state = (.done value, rest, after)) :
    (script >>= next).run turns state = (next value).run rest after := by
  change (bind script next).run turns state = _
  simp only [bind, ended]

theorem run_bind_raised {next : α → Script τ σ ε β} {error : ε}
    (ended : script.run turns state = (.raised error, rest, after)) :
    (script >>= next).run turns state = (.raised error, rest, after) := by
  change (bind script next).run turns state = _
  simp only [bind, ended]

theorem run_bind_killed {next : α → Script τ σ ε β}
    (ended : script.run turns state = (.killed, rest, after)) :
    (script >>= next).run turns state = (.killed, rest, after) := by
  change (bind script next).run turns state = _
  simp only [bind, ended]

theorem run_bind {next : α → Script τ σ ε β} : (script >>= next).run turns state =
    match script.run turns state with
    | (.done value, rest, after) => (next value).run rest after
    | (.raised error, rest, after) => (.raised error, rest, after)
    | (.killed, rest, after) => (.killed, rest, after) := rfl

/-- A sequence returns only after its first script did. -/
theorem done_of_bind {next : α → Script τ σ ε β} {value : β}
    (done : (script >>= next).run turns state = (.done value, rest, after)) :
    ∃ first middle between, script.run turns state = (.done first, middle, between) ∧
      (next first).run middle between = (.done value, rest, after) := by
  rcases ended : script.run turns state with ⟨first | error | _, remaining, left⟩
  · rw [run_bind_done ended] at done
    exact ⟨first, remaining, left, rfl, done⟩
  · rw [run_bind_raised ended] at done
    cases done
  · rw [run_bind_killed ended] at done
    cases done

theorem run_bind_assoc {γ : Type} {next : α → Script τ σ ε β} {last : β → Script τ σ ε γ} :
    (script >>= next >>= last).run turns state =
      (script >>= fun value => next value >>= last).run turns state := by
  simp only [run_bind]
  rcases script.run turns state with ⟨value | error | _, remaining, left⟩ <;> rfl

theorem run_bind_congr {script' : Script τ σ ε α} {turns' : List τ} {state' : σ}
    {next : α → Script τ σ ε β} (same : script.run turns state = script'.run turns' state') :
    (script >>= next).run turns state = (script' >>= next).run turns' state' := by
  simp only [run_bind, same]

theorem run_handle_raised {handler : ε → Script τ σ ε α} {error : ε}
    (ended : script.run turns state = (.raised error, rest, after)) :
    (handle script handler).run turns state = (handler error).run rest after := by
  simp only [handle, ended]

theorem run_handle_done {handler : ε → Script τ σ ε α} {value : α}
    (ended : script.run turns state = (.done value, rest, after)) :
    (handle script handler).run turns state = (.done value, rest, after) := by
  simp only [handle, ended]

theorem run_pure {value : α} :
    (pure value : Script τ σ ε α).run turns state = (.done value, turns, state) := rfl

theorem run_throw {error : ε} :
    (throw error : Script τ σ ε α).run turns state = (.raised error, turns, state) := rfl

theorem run_lift {read : Except ε α} : (lift read : Script τ σ ε α).run turns state =
    match read with
    | .ok value => (.done value, turns, state)
    | .error error => (.raised error, turns, state) := by
  cases read <;> rfl

theorem run_liftM {read : Except ε α} : (liftM read : Script τ σ ε α).run turns state =
    match read with
    | .ok value => (.done value, turns, state)
    | .error error => (.raised error, turns, state) := by
  cases read <;> rfl

end Runs

/-- What holds after a script: one thing if it returned, another if not. -/
def Leaves (post : α → σ → Prop) (otherwise : σ → Prop) : Exit ε α × List τ × σ → Prop
  | (.done value, _, after) => post value after
  | (.raised _, _, after) | (.killed, _, after) => otherwise after

/-- Started in the state, a script that returns leaves it in `post`, and one that is
interrupted leaves it in `otherwise`. -/
def Ensures (script : Script τ σ ε α) (state : σ) (post : α → σ → Prop)
    (otherwise : σ → Prop) : Prop :=
  ∀ turns, Leaves post otherwise (script.run turns state)

variable {state : σ} {post post' : α → σ → Prop} {otherwise otherwise' : σ → Prop}

theorem ensures_pure {value : α} (returned : post value state) :
    Ensures (pure value : Script τ σ ε α) state post otherwise :=
  fun _ => returned

theorem ensures_throw {error : ε} (raised : otherwise state) :
    Ensures (throw error : Script τ σ ε α) state post otherwise :=
  fun _ => raised

theorem ensures_bind {script : Script τ σ ε α} {next : α → Script τ σ ε β} {M : α → σ → Prop}
    {post : β → σ → Prop} (first : Ensures script state M otherwise)
    (rest : ∀ value after, M value after → Ensures (next value) after post otherwise) :
    Ensures (script >>= next) state post otherwise := by
  intro turns
  have left := first turns
  rcases ended : script.run turns state with ⟨value | error | _, remaining, after⟩
  · rw [ended] at left
    rw [run_bind_done ended]
    exact rest value after left remaining
  · rw [ended] at left
    rw [run_bind_raised ended]
    exact left
  · rw [ended] at left
    rw [run_bind_killed ended]
    exact left

/-- One step after the other. -/
theorem ensures_seq {script : Script τ σ ε α} {next : α → Script τ σ ε β} {post : β → σ → Prop}
    (first : Ensures script state (fun value after => Ensures (next value) after post otherwise)
      otherwise) : Ensures (script >>= next) state post otherwise :=
  ensures_bind first fun _ _ rest => rest

theorem ensures_weaken {script : Script τ σ ε α} (ensures : Ensures script state post otherwise)
    (returned : ∀ value after, post value after → post' value after)
    (interrupted : ∀ after, otherwise after → otherwise' after) :
    Ensures script state post' otherwise' := by
  intro turns
  have left := ensures turns
  rcases ended : script.run turns state with ⟨value | error | _, remaining, after⟩
  · rw [ended] at left
    exact returned value after left
  · rw [ended] at left
    exact interrupted after left
  · rw [ended] at left
    exact interrupted after left

theorem ensures_lift {read : Except ε α} (returned : ∀ value, read = .ok value → post value state)
    (raised : otherwise state) :
    Ensures (lift read : Script τ σ ε α) state post otherwise := by
  cases read with
  | ok value => exact ensures_pure (returned value rfl)
  | error error => exact ensures_throw raised

theorem ensures_get {post : σ → σ → Prop} (returned : post state state) :
    Ensures (get : Script τ σ ε σ) state post otherwise :=
  fun _ => returned

theorem ensures_modify {change : σ → σ} {post : Unit → σ → Prop}
    (returned : post () (change state)) :
    Ensures (modify change : Script τ σ ε Unit) state post otherwise :=
  fun _ => returned

theorem ensures_act {answer : τ → σ → Exit ε α × σ} (killed : otherwise state)
    (answered : ∀ turn,
      Leaves post otherwise ((answer turn state).1, ([] : List τ), (answer turn state).2)) :
    Ensures (act answer : Script τ σ ε α) state post otherwise := by
  intro turns
  cases turns with
  | nil => exact killed
  | cons turn rest =>
    have left := answered turn
    change Leaves post otherwise ((answer turn state).1, rest, (answer turn state).2)
    rcases answered' : answer turn state with ⟨value | error | _, after⟩ <;>
      rw [answered'] at left <;> exact left

/-- The handler starts wherever the script was left. -/
theorem ensures_handle {script : Script τ σ ε α} {handler : ε → Script τ σ ε α}
    {I : σ → Prop} (body : Ensures script state post I)
    (killed : ∀ after, I after → otherwise after)
    (handled : ∀ error after, I after → Ensures (handler error) after post otherwise) :
    Ensures (handle script handler) state post otherwise := by
  intro turns
  have left := body turns
  simp only [handle]
  rcases ended : script.run turns state with ⟨value | error | _, remaining, after⟩ <;>
    rw [ended] at left
  · exact left
  · exact handled error after left remaining
  · exact killed after left

theorem ensures_rounds {round : β → Script τ σ ε (β ⊕ α)} {I : β → σ → Prop}
    (killed : ∀ current state, I current state → otherwise state)
    (turn : ∀ current state, I current state → Ensures (round current) state
      (fun outcome after => match outcome with
        | .inl next => I next after
        | .inr value => post value after) otherwise)
    (bound : Nat) {current : β} (initially : I current state) :
    Ensures (rounds round bound current) state post otherwise := by
  induction bound generalizing current state with
  | zero => exact fun _ => killed current state initially
  | succ bound inductionHypothesis =>
    refine ensures_bind (turn current state initially) fun outcome after left => ?_
    cases outcome with
    | inl next => exact inductionHypothesis left
    | inr value => exact ensures_pure left

/-- A loop whose rounds keep an invariant. -/
theorem ensures_loop {round : β → Script τ σ ε (β ⊕ α)} {I : β → σ → Prop}
    (killed : ∀ current state, I current state → otherwise state)
    (turn : ∀ current state, I current state → Ensures (round current) state
      (fun outcome after => match outcome with
        | .inl next => I next after
        | .inr value => post value after) otherwise)
    {current : β} (initially : I current state) :
    Ensures (loop round current) state post otherwise :=
  fun turns => ensures_rounds killed turn turns.length initially turns

end Script

end LiveStream.Support

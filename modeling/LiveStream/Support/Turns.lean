import LiveStream.Support.Script

/-! Scripts whose environment is restricted: what they ensure as long as every turn that they
take satisfies a condition. -/

namespace LiveStream.Support

namespace Script

variable {τ σ ε α β : Type} {allowed : τ → Prop}

/-- Started in the state with allowed turns only, a script leaves allowed turns, and the state
in `post` or, if it is interrupted, in `otherwise`. -/
def EnsuresFor (allowed : τ → Prop) (script : Script τ σ ε α) (state : σ)
    (post : α → σ → Prop) (otherwise : σ → Prop) : Prop :=
  ∀ turns, (∀ turn ∈ turns, allowed turn) →
    Leaves post otherwise (script.run turns state) ∧
      ∀ turn ∈ (script.run turns state).2.1, allowed turn

variable {state : σ} {post post' : α → σ → Prop} {otherwise otherwise' : σ → Prop}

theorem ensuresFor_pure {value : α} (returned : post value state) :
    EnsuresFor allowed (pure value : Script τ σ ε α) state post otherwise :=
  fun _ turns => ⟨returned, turns⟩

theorem ensuresFor_throw {error : ε} (raised : otherwise state) :
    EnsuresFor allowed (throw error : Script τ σ ε α) state post otherwise :=
  fun _ turns => ⟨raised, turns⟩

theorem ensuresFor_modify {change : σ → σ} {post : Unit → σ → Prop}
    (returned : post () (change state)) :
    EnsuresFor allowed (modify change : Script τ σ ε Unit) state post otherwise :=
  fun _ turns => ⟨returned, turns⟩

theorem ensuresFor_bind {script : Script τ σ ε α} {next : α → Script τ σ ε β} {M : α → σ → Prop}
    {post : β → σ → Prop} (first : EnsuresFor allowed script state M otherwise)
    (rest : ∀ value after, M value after → EnsuresFor allowed (next value) after post otherwise) :
    EnsuresFor allowed (script >>= next) state post otherwise := by
  intro turns restricted
  obtain ⟨left, remain⟩ := first turns restricted
  rcases ended : script.run turns state with ⟨value | error | _, remaining, after⟩ <;>
    rw [ended] at left remain
  · rw [run_bind_done ended]
    exact rest value after left remaining remain
  · rw [run_bind_raised ended]
    exact ⟨left, remain⟩
  · rw [run_bind_killed ended]
    exact ⟨left, remain⟩

theorem ensuresFor_weaken {script : Script τ σ ε α}
    (ensures : EnsuresFor allowed script state post otherwise)
    (returned : ∀ value after, post value after → post' value after)
    (interrupted : ∀ after, otherwise after → otherwise' after) :
    EnsuresFor allowed script state post' otherwise' := by
  intro turns restricted
  obtain ⟨left, remain⟩ := ensures turns restricted
  refine ⟨?_, remain⟩
  rcases ended : script.run turns state with ⟨value | error | _, remaining, after⟩ <;>
    rw [ended] at left
  · exact returned value after left
  · exact interrupted after left
  · exact interrupted after left

theorem ensuresFor_act {answer : τ → σ → Exit ε α × σ} (killed : otherwise state)
    (answered : ∀ turn, allowed turn →
      Leaves post otherwise ((answer turn state).1, ([] : List τ), (answer turn state).2)) :
    EnsuresFor allowed (act answer : Script τ σ ε α) state post otherwise := by
  intro turns restricted
  cases turns with
  | nil => exact ⟨killed, restricted⟩
  | cons turn rest =>
    have left := answered turn (restricted turn (List.mem_cons_self ..))
    constructor
    · change Leaves post otherwise ((answer turn state).1, rest, (answer turn state).2)
      rcases answered' : answer turn state with ⟨value | error | _, after⟩ <;>
        rw [answered'] at left <;> exact left
    · intro other member
      exact restricted other (List.mem_cons_of_mem _ member)

end Script

end LiveStream.Support

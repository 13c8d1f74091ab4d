import LiveStream.Support.Script

/-! Scripts with a history variable: the starts of some calls are noted beside the state,
and the script without the notes is the plain one. Also what every step of a script keeps. -/

namespace LiveStream.Support.Script

variable {τ σ ε α β κ : Type}

/-- A script beside a history that it leaves alone. -/
def plain (script : Script τ σ ε α) : Script τ (σ × List κ) ε α where
  run turns state :=
    let left := script.run turns state.1
    (left.1, left.2.1, left.2.2, state.2)

/-- A script whose start is noted in the history. -/
def noted (note : List τ → σ → κ) (script : Script τ σ ε α) : Script τ (σ × List κ) ε α where
  run turns state := (plain script).run turns (state.1, state.2 ++ [note turns state.1])

/-- What is left of a script without its history. -/
def forget (left : Exit ε α × List τ × σ × List κ) : Exit ε α × List τ × σ :=
  (left.1, left.2.1, left.2.2.1)

/-- Without its history, the one script is the other. -/
def Erases (full : Script τ (σ × List κ) ε α) (script : Script τ σ ε α) : Prop :=
  ∀ turns state, forget (full.run turns state) = script.run turns state.1

theorem erases_plain (script : Script τ σ ε α) :
    Erases (plain script : Script τ (σ × List κ) ε α) script :=
  fun _ _ => rfl

theorem erases_noted (note : List τ → σ → κ) (script : Script τ σ ε α) :
    Erases (noted note script) script :=
  fun _ _ => rfl

theorem erases_pure (value : α) :
    Erases (pure value : Script τ (σ × List κ) ε α) (pure value) :=
  fun _ _ => rfl

theorem erases_throw (error : ε) :
    Erases (throw error : Script τ (σ × List κ) ε α) (throw error) :=
  fun _ _ => rfl

theorem erases_bind {full : Script τ (σ × List κ) ε α} {script : Script τ σ ε α}
    {fullNext : α → Script τ (σ × List κ) ε β} {next : α → Script τ σ ε β}
    (first : Erases full script) (rest : ∀ value, Erases (fullNext value) (next value)) :
    Erases (full >>= fullNext) (script >>= next) := by
  intro turns state
  have same := (first turns state).symm
  rcases ended : full.run turns state with ⟨value | error | _, remaining, after⟩ <;>
    rw [ended] at same
  · rw [run_bind_done ended, run_bind_done same]
    exact rest value remaining after
  · rw [run_bind_raised ended, run_bind_raised same]
    rfl
  · rw [run_bind_killed ended, run_bind_killed same]
    rfl

theorem erases_handle {full : Script τ (σ × List κ) ε α} {script : Script τ σ ε α}
    {fullHandler : ε → Script τ (σ × List κ) ε α} {handler : ε → Script τ σ ε α}
    (body : Erases full script) (handled : ∀ error, Erases (fullHandler error) (handler error)) :
    Erases (handle full fullHandler) (handle script handler) := by
  intro turns state
  have same := (body turns state).symm
  simp only [handle, same]
  rcases full.run turns state with ⟨value | error | _, remaining, after⟩
  · rfl
  · exact handled error remaining after
  · rfl

theorem erases_loop {full : β → Script τ (σ × List κ) ε (β ⊕ α)}
    {round : β → Script τ σ ε (β ⊕ α)} (each : ∀ current, Erases (full current) (round current))
    (current : β) : Erases (loop full current) (loop round current) := by
  have bounded : ∀ bound current, Erases (rounds full bound current) (rounds round bound current) := by
    intro bound
    induction bound with
    | zero => exact fun _ _ _ => rfl
    | succ bound inductionHypothesis =>
      refine fun current => erases_bind (each current) fun outcome => ?_
      cases outcome with
      | inl next => exact inductionHypothesis next
      | inr value => exact erases_pure value
  exact fun turns state => bounded turns.length current turns state

/-- A script that keeps an invariant, however it is left. -/
def Preserves (invariant : σ → Prop) (script : Script τ σ ε α) : Prop :=
  ∀ state, invariant state → Ensures script state (fun _ after => invariant after) invariant

theorem Leaves.state {invariant : σ → Prop} {left : Exit ε α × List τ × σ}
    (leaves : Leaves (fun _ after => invariant after) invariant left) : invariant left.2.2 := by
  rcases left with ⟨value | error | _, remaining, after⟩ <;> exact leaves

/-- What a script preserves holds wherever it is left. -/
theorem Preserves.run {invariant : σ → Prop} {script : Script τ σ ε α}
    (preserves : Preserves invariant script) {state : σ} (held : invariant state) (turns : List τ) :
    invariant (script.run turns state).2.2 :=
  (preserves state held turns).state

section Preservation

variable {invariant : σ → Prop}

theorem preserves_pure (value : α) : Preserves invariant (pure value : Script τ σ ε α) :=
  fun _ held => ensures_pure held

theorem preserves_throw (error : ε) : Preserves invariant (throw error : Script τ σ ε α) :=
  fun _ held => ensures_throw held

theorem preserves_lift (read : Except ε α) : Preserves invariant (lift read : Script τ σ ε α) :=
  fun _ held => ensures_lift (fun _ _ => held) held

theorem preserves_get : Preserves invariant (get : Script τ σ ε σ) :=
  fun _ held => ensures_get held

theorem preserves_modify {change : σ → σ} (keeps : ∀ state, invariant state → invariant (change state)) :
    Preserves invariant (modify change : Script τ σ ε Unit) :=
  fun state held => ensures_modify (keeps state held)

theorem preserves_bind {script : Script τ σ ε α} {next : α → Script τ σ ε β}
    (first : Preserves invariant script) (rest : ∀ value, Preserves invariant (next value)) :
    Preserves invariant (script >>= next) :=
  fun state held => ensures_bind (first state held) fun value after => rest value after

theorem preserves_handle {script : Script τ σ ε α} {handler : ε → Script τ σ ε α}
    (body : Preserves invariant script) (handled : ∀ error, Preserves invariant (handler error)) :
    Preserves invariant (handle script handler) :=
  fun state held => ensures_handle (body state held) (fun _ kept => kept) fun error after =>
    handled error after

theorem preserves_loop {round : β → Script τ σ ε (β ⊕ α)}
    (each : ∀ current, Preserves invariant (round current)) (current : β) :
    Preserves invariant (loop round current) := by
  refine fun state held => ensures_loop (I := fun _ => invariant) (fun _ _ kept => kept)
    (fun current state kept => ?_) held
  refine ensures_weaken (each current state kept) (fun outcome after left => ?_) fun _ left => left
  cases outcome <;> exact left

theorem preserves_ite {condition : Prop} [Decidable condition] {first second : Script τ σ ε α}
    (yes : condition → Preserves invariant first) (no : ¬ condition → Preserves invariant second) :
    Preserves invariant (if condition then first else second) := by
  split
  · exact yes ‹_›
  · exact no ‹_›

end Preservation

theorem ensures_trivial {script : Script τ σ ε α} {state : σ} {post : α → σ → Prop}
    {otherwise : σ → Prop} (returned : ∀ value after, post value after)
    (interrupted : ∀ after, otherwise after) : Ensures script state post otherwise := by
  intro turns
  rcases script.run turns state with ⟨value | error | _, remaining, after⟩
  · exact returned value after
  · exact interrupted after
  · exact interrupted after

theorem ensures_plain {script : Script τ σ ε α} {state : σ} {history : List κ}
    {post : α → σ × List κ → Prop} {otherwise : σ × List κ → Prop}
    (ensures : Ensures script state (fun value after => post value (after, history))
      fun after => otherwise (after, history)) :
    Ensures (plain script) (state, history) post otherwise := by
  intro turns
  have left := ensures turns
  simp only [plain]
  rcases ended : script.run turns state with ⟨value | error | _, remaining, after⟩ <;>
    rw [ended] at left <;> exact left

/-- Beside a history that stays, a script keeps what it keeps for each history. -/
theorem preserves_plain {script : Script τ σ ε α} (invariant : List κ → σ → Prop)
    (assumed : List κ → Prop) (each : ∀ history, assumed history → Preserves (invariant history) script) :
    Preserves (fun state : σ × List κ => assumed state.2 → invariant state.2 state.1) (plain script) := by
  rintro ⟨state, history⟩ held
  apply ensures_plain
  by_cases holds : assumed history
  · exact ensures_weaken (each history holds state (held holds)) (fun _ _ left _ => left)
      fun _ left _ => left
  · exact ensures_trivial (fun _ _ assumption => (holds assumption).elim)
      fun _ assumption => (holds assumption).elim

end LiveStream.Support.Script

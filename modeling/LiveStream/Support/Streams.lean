import Mathlib

/-! Machines that read one input after the other without end, and the timers they
keep: since when a condition holds, and when an event was last seen. -/

namespace LiveStream.Support

universe u v w x

section Machine

variable {σ : Type u} {α : Type v} (next : σ → α → σ) (start : σ) (inputs : ℕ → α)

/-- The state before the n-th input. -/
def stateBefore : ℕ → σ
  | 0 => start
  | n + 1 => next (stateBefore n) (inputs n)

@[simp] theorem stateBefore_zero : stateBefore next start inputs 0 = start := rfl

theorem stateBefore_succ (n : ℕ) :
    stateBefore next start inputs (n + 1) = next (stateBefore next start inputs n) (inputs n) := rfl

variable {next start inputs}

/-- What the start has and every input preserves, every state has. -/
theorem stateBefore_invariant (invariant : σ → Prop) (initially : invariant start)
    (preserved : ∀ (n : ℕ) (state : σ), invariant state → invariant (next state (inputs n)))
    (n : ℕ) : invariant (stateBefore next start inputs n) := by
  induction n with
  | zero => exact initially
  | succ n inductionHypothesis => exact preserved n _ inductionHypothesis

/-- Two machines that stay related when they read related inputs. -/
theorem stateBefore_related {τ : Type w} {β : Type x} {other : τ → β → τ} {otherStart : τ}
    {otherInputs : ℕ → β} (related : σ → τ → Prop) (initially : related start otherStart)
    (preserved : ∀ (n : ℕ) (left : σ) (right : τ), related left right →
      related (next left (inputs n)) (other right (otherInputs n)))
    (n : ℕ) :
    related (stateBefore next start inputs n) (stateBefore other otherStart otherInputs n) := by
  induction n with
  | zero => exact initially
  | succ n inductionHypothesis => exact preserved n _ _ inductionHypothesis

end Machine

section Timers

variable {T : Type u}

/-- A timer that runs while a condition holds: `none` where it does not. -/
def windowed (since : Option T) (holds : Bool) (now : T) : Option T :=
  if holds then some (since.getD now) else none

/-- The timer after the n-th input. -/
def windowSince (holds : ℕ → Bool) (now : ℕ → T) : ℕ → Option T
  | 0 => windowed none (holds 0) (now 0)
  | n + 1 => windowed (windowSince holds now n) (holds (n + 1)) (now (n + 1))

/-- When an event was last seen, counted from the first input. -/
def lastSeen (seen : ℕ → Bool) (now : ℕ → T) : ℕ → T
  | 0 => now 0
  | n + 1 => if seen (n + 1) then now (n + 1) else lastSeen seen now n

variable {holds seen : ℕ → Bool} {now : ℕ → T}

/-- A running timer was started at an input since which the condition never failed. -/
theorem windowSince_eq_some {n : ℕ} {since : T} (running : windowSince holds now n = some since) :
    ∃ m ≤ n, since = now m ∧ ∀ k, m ≤ k → k ≤ n → holds k = true := by
  induction n generalizing since with
  | zero =>
    rw [windowSince, windowed] at running
    split at running
    · rename_i held
      refine ⟨0, le_rfl, (Option.some.inj running).symm, fun k _ bound => ?_⟩
      rwa [Nat.le_zero.mp bound]
    · cases running
  | succ n inductionHypothesis =>
    rw [windowSince, windowed] at running
    split at running
    · rename_i held
      cases earlier : windowSince holds now n with
      | none =>
        rw [earlier] at running
        refine ⟨n + 1, le_rfl, (Option.some.inj running).symm, fun k first last => ?_⟩
        rwa [le_antisymm last first]
      | some older =>
        rw [earlier] at running
        obtain ⟨m, before, started, held⟩ := inductionHypothesis earlier
        refine ⟨m, by omega, (Option.some.inj running).symm.trans started, fun k first last => ?_⟩
        rcases Nat.lt_or_ge n k with after | within
        · rwa [show k = n + 1 by omega]
        · exact held k first within
    · cases running

/-- Where a condition held from the p-th input on, the timer is at least that old. -/
theorem windowSince_le [Preorder T] (ordered : Monotone now) {p n : ℕ} (later : p ≤ n)
    (held : ∀ k, p ≤ k → k ≤ n → holds k = true) :
    ∃ since, windowSince holds now n = some since ∧ since ≤ now p := by
  induction n, later using Nat.le_induction with
  | base =>
    cases p with
    | zero => exact ⟨now 0, by simp [windowSince, windowed, held 0], le_rfl⟩
    | succ p =>
      refine ⟨(windowSince holds now p).getD (now (p + 1)),
        by simp [windowSince, windowed, held (p + 1)], ?_⟩
      cases earlier : windowSince holds now p with
      | none => exact le_rfl
      | some older =>
        obtain ⟨m, before, started, _⟩ := windowSince_eq_some earlier
        exact started ▸ ordered (by omega)
  | succ n later inductionHypothesis =>
    obtain ⟨since, running, bound⟩ :=
      inductionHypothesis fun k first last => held k first (by omega)
    exact ⟨since, by simp [windowSince, windowed, running, held (n + 1) (by omega)], bound⟩

/-- The event was last seen at some input, or never since the first. -/
theorem lastSeen_eq (seen : ℕ → Bool) (now : ℕ → T) (n : ℕ) :
    ∃ m ≤ n, lastSeen seen now n = now m ∧ ∀ k, m < k → k ≤ n → seen k = false := by
  induction n with
  | zero => exact ⟨0, le_rfl, rfl, fun k after last => by omega⟩
  | succ n inductionHypothesis =>
    cases current : seen (n + 1) with
    | true =>
      exact ⟨n + 1, le_rfl, by simp [lastSeen, current], fun k after last => by omega⟩
    | false =>
      obtain ⟨m, before, same, unseen⟩ := inductionHypothesis
      refine ⟨m, by omega, by simp [lastSeen, current, same], fun k after last => ?_⟩
      rcases Nat.lt_or_ge n k with new | old
      · rwa [show k = n + 1 by omega]
      · exact unseen k after old

/-- An event that is not seen from the i-th input on was last seen no later. -/
theorem lastSeen_le [Preorder T] (ordered : Monotone now) {i n : ℕ} (later : i ≤ n)
    (unseen : ∀ k, i ≤ k → k ≤ n → seen k = false) : lastSeen seen now n ≤ now i := by
  induction n, later using Nat.le_induction with
  | base =>
    obtain ⟨m, before, same, _⟩ := lastSeen_eq seen now i
    exact same ▸ ordered before
  | succ n later inductionHypothesis =>
    rw [lastSeen, unseen (n + 1) (by omega) le_rfl, if_neg Bool.false_ne_true]
    exact inductionHypothesis fun k first last => unseen k first (by omega)

end Timers

end LiveStream.Support

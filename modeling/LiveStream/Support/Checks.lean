import Mathlib

/-! Validators written as sequences of checks in `Except`, and what a successful
run of such a sequence establishes. -/

namespace LiveStream.Support

universe u v

variable {ε : Type u} {α β : Type v}

/-- Raise `error` when the condition holds. -/
def rejectIf (condition : Prop) [Decidable condition] (error : ε) : Except ε Unit :=
  if condition then .error error else .ok ()

/-- The value, or `error` when there is none. -/
def orReject (error : ε) : Option α → Except ε α
  | some value => .ok value
  | none => .error error

@[simp] theorem bind_eq_ok {first : Except ε α} {next : α → Except ε β} {result : β} :
    (first >>= next) = .ok result ↔ ∃ value, first = .ok value ∧ next value = .ok result := by
  cases first <;> simp [bind, Except.bind]

@[simp] theorem ok_bind {value : α} {next : α → Except ε β} :
    ((Except.ok value : Except ε α) >>= next) = next value := rfl

@[simp] theorem error_bind {error : ε} {next : α → Except ε β} :
    ((Except.error error : Except ε α) >>= next) = .error error := rfl

@[simp] theorem rejectIf_eq_ok {condition : Prop} [Decidable condition] {error : ε} {result : Unit} :
    rejectIf condition error = .ok result ↔ ¬ condition := by
  by_cases holds : condition <;> simp [rejectIf, holds]

theorem rejectIf_of_not {condition : Prop} [Decidable condition] {error : ε}
    (fails : ¬ condition) : rejectIf condition error = .ok () := by
  simp [fails]

@[simp] theorem orReject_eq_ok {error : ε} {found : Option α} {value : α} :
    orReject error found = .ok value ↔ found = some value := by
  cases found <;> simp [orReject]

@[simp] theorem orReject_some {error : ε} {value : α} :
    orReject error (some value) = .ok value := rfl

@[simp] theorem pure_eq_ok {value result : α} :
    (pure value : Except ε α) = .ok result ↔ value = result := by
  simp [pure, Except.pure]

end LiveStream.Support

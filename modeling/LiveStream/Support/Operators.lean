import LiveStream.Support.Mapping

/-! Operators on dynamically typed values: truth, differences, order and membership. -/

namespace LiveStream.Support

namespace Value

/-- `bool(value)`. -/
def truthy : Value → Bool
  | .none => false
  | .bool flag => flag
  | .int number => number ≠ 0
  | .float number => number ≠ .finite 0
  | .str text => text ≠ ""
  | .list items => !items.isEmpty
  | .dict fields => !fields.isEmpty
  | .foreign => true

/-- The operand of an arithmetic operator with a float. -/
def operand : Value → Except PyError Double
  | .bool flag => .ok (.finite (if flag then 1 else 0))
  | .int number =>
    if number.natAbs < floatOverflow.natAbs then .ok (.finite number)
    else .error (overflowError "int too large to convert to float")
  | .float number => .ok number
  | .none | .str _ | .list _ | .dict _ | .foreign =>
    .error (typeError "unsupported operand type(s)")

/-- `low <= left - right <= high` between floats. -/
def differs (left right : Double) (accepts : ℚ → Bool) : Bool :=
  match left, right with
  | .finite left, .finite right => accepts (left - right)
  | .finite _, _ | .posInf, _ | .negInf, _ | .nan, _ => false

/-- `0 <= now - value <= bound`. -/
def within (now bound : ℚ) (value : Value) : Except PyError Bool := do
  return differs (.finite now) (← value.operand) fun age => 0 ≤ age ∧ age ≤ bound

/-- `0 < left - right <= bound`. -/
def after (bound : ℚ) (left right : Value) : Except PyError Bool := do
  return differs (← left.operand) (← right.operand) fun gap => 0 < gap ∧ gap ≤ bound

/-- `left > right` for an integer that was checked. -/
def exceeds (left right : Value) : Except PyError Bool :=
  match left, right with
  | .int left, .int right => .ok (right < left)
  | .int left, .bool right => .ok ((if right then 1 else 0) < left)
  | .int left, .float (.finite right) => .ok (right < left)
  | .int _, .float .negInf => .ok true
  | .int _, .float _ => .ok false
  | _, _ => .error (typeError "'>' not supported between these instances")

/-- `text in value`. -/
def contains (text : String) : Value → Except PyError Bool
  | .list items => .ok (items.any (·.isText text))
  | .dict fields => .ok (Fields.get? fields text).isSome
  | .str whole => .ok (text.toList <:+: whole.toList)
  | .none | .bool _ | .int _ | .float _ | .foreign =>
    .error (typeError "argument is not iterable")

end Value

theorem every_eq_true {checks : List (Except PyError Bool)} :
    every checks = .ok true ↔ ∀ check ∈ checks, check = .ok true := by
  induction checks with
  | nil => simp [every]
  | cons check rest inductionHypothesis =>
    rcases check with error | _ | _ <;> simp [every, inductionHypothesis]

theorem Value.path_append {value found : Value} {first : List String}
    (read : value.path first = .ok found) (later : List String) :
    value.path (first ++ later) = found.path later := by
  induction first generalizing value with
  | nil =>
    cases read
    rfl
  | cons key rest inductionHypothesis =>
    simp only [Value.path, bind_eq_ok, List.cons_append] at read ⊢
    obtain ⟨inner, opened, remaining⟩ := read
    rw [opened, ok_bind, inductionHypothesis remaining]

theorem Value.path_singleton (value : Value) (key : String) : value.path [key] = value.index key := by
  cases read : value.index key <;> simp [Value.path, read]

/-- `a and b`, of which the second is only evaluated if the first is true. -/
def both (first second : Except PyError Bool) : Except PyError Bool := every [first, second]

/-- `not a`. -/
def negated (check : Except PyError Bool) : Except PyError Bool := check.map (!·)

end LiveStream.Support

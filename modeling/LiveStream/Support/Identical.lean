import LiveStream.Support.Value

/-! Decidable equality of dynamically typed values. -/

namespace LiveStream.Support

mutual

/-- Whether two values are the same value, keys of mappings in the same order. -/
def Value.identical : Value → Value → Bool
  | .none, .none => true
  | .bool left, .bool right => left = right
  | .int left, .int right => left = right
  | .float left, .float right => left = right
  | .str left, .str right => left = right
  | .list left, .list right => identicalItems left right
  | .dict left, .dict right => identicalFields left right
  | .foreign, .foreign => true
  | _, _ => false

def identicalItems : List Value → List Value → Bool
  | [], [] => true
  | left :: lefts, right :: rights => left.identical right && identicalItems lefts rights
  | _, _ => false

def identicalFields : List (String × Value) → List (String × Value) → Bool
  | [], [] => true
  | left :: lefts, right :: rights => identicalField left right && identicalFields lefts rights
  | _, _ => false

def identicalField : String × Value → String × Value → Bool
  | (leftKey, left), (rightKey, right) => leftKey = rightKey && left.identical right

end

mutual

theorem Value.identical_iff (left : Value) :
    ∀ right : Value, left.identical right = true ↔ left = right := by
  intro right
  match left with
  | .list items => cases right <;> simp [Value.identical, identicalItems_iff items]
  | .dict fields => cases right <;> simp [Value.identical, identicalFields_iff fields]
  | .none | .bool _ | .int _ | .float _ | .str _ | .foreign =>
    cases right <;> simp [Value.identical]

theorem identicalItems_iff (left : List Value) :
    ∀ right : List Value, identicalItems left right = true ↔ left = right := by
  intro right
  match left with
  | [] => cases right <;> simp [identicalItems]
  | head :: tail =>
    cases right <;> simp [identicalItems, Value.identical_iff head, identicalItems_iff tail]

theorem identicalFields_iff (left : List (String × Value)) :
    ∀ right : List (String × Value), identicalFields left right = true ↔ left = right := by
  intro right
  match left with
  | [] => cases right <;> simp [identicalFields]
  | head :: tail =>
    cases right <;> simp [identicalFields, identicalField_iff head, identicalFields_iff tail]

theorem identicalField_iff (left : String × Value) :
    ∀ right : String × Value, identicalField left right = true ↔ left = right := by
  rintro ⟨name, other⟩
  match left with
  | (_, value) => simp [identicalField, Value.identical_iff value other]

end

instance : DecidableEq Value := fun left right => decidable_of_iff _ (Value.identical_iff left right)

end LiveStream.Support

import LiveStream.Support.Value

/-! Reading JSON documents the way a Python program does: subscripts and `get`,
comparisons across number types, and the checks a validator strings together. -/

namespace LiveStream.Support

namespace Value

def isNone : Value → Bool
  | .none => true
  | .bool _ | .int _ | .float _ | .str _ | .list _ | .dict _ | .foreign => false

def isDict : Value → Bool
  | .dict _ => true
  | .none | .bool _ | .int _ | .float _ | .str _ | .list _ | .foreign => false

/-- `type(value) is bool`. -/
def isBool : Value → Bool
  | .bool _ => true
  | .none | .int _ | .float _ | .str _ | .list _ | .dict _ | .foreign => false

/-- `value is True`. -/
def isTrue : Value → Bool
  | .bool flag => flag
  | .none | .int _ | .float _ | .str _ | .list _ | .dict _ | .foreign => false

/-- `value is False`. -/
def isFalse : Value → Bool
  | .bool flag => !flag
  | .none | .int _ | .float _ | .str _ | .list _ | .dict _ | .foreign => false

/-- `type(value) is int`. -/
def isInt : Value → Bool
  | .int _ => true
  | .none | .bool _ | .float _ | .str _ | .list _ | .dict _ | .foreign => false

def text? : Value → Option String
  | .str text => some text
  | .none | .bool _ | .int _ | .float _ | .list _ | .dict _ | .foreign => .none

/-- `isinstance(value, str) and len(value) <= bound`. -/
def isTextWithin (bound : Nat) (value : Value) : Bool :=
  value.text?.any fun text => text.length ≤ bound

/-- `isinstance(value, str) and bool(value)`. -/
def isNonemptyText (value : Value) : Bool := value.text?.any fun text => text ≠ ""

/-- `value == text`. -/
def isText (text : String) (value : Value) : Bool := value.text? = some text

/-- `value in texts`. -/
def isOneOf (texts : List String) (value : Value) : Bool := value.text?.any texts.contains

/-- `type(value) is int and value >= 0`, with the number. -/
def count? : Value → Option Nat
  | .int number => if 0 ≤ number then some number.toNat else Option.none
  | .none | .bool _ | .float _ | .str _ | .list _ | .dict _ | .foreign => Option.none

def isPositiveCount (value : Value) : Bool := value.count?.any (0 < ·)

/-- The value as a number; booleans compare as 0 and 1. -/
def double? : Value → Option Double
  | .bool flag => some (.finite (if flag then 1 else 0))
  | .int number => some (.finite number)
  | .float number => some number
  | .none | .str _ | .list _ | .dict _ | .foreign => Option.none

end Value

/-- `==` on doubles: nan differs from itself. -/
def Double.same : Double → Double → Bool
  | .finite left, .finite right => left = right
  | .posInf, .posInf | .negInf, .negInf => true
  | .finite _, _ | .posInf, _ | .negInf, _ | .nan, _ => false

mutual

/-- `left == right`. -/
def Value.same : Value → Value → Bool
  | .none, right => right.isNone
  | .str text, right => right.isText text
  | .list items, right =>
    match right with
    | .list others => sameValues items others
    | _ => false
  | .dict fields, right =>
    match right with
    | .dict others => fields.length = others.length && sameMappings fields others
    | _ => false
  | .bool flag, right => right.double?.any (Double.same (.finite (if flag then 1 else 0)))
  | .int number, right => right.double?.any (Double.same (.finite number))
  | .float number, right => right.double?.any (Double.same number)
  | .foreign, _ => false

def sameValues : List Value → List Value → Bool
  | [], [] => true
  | left :: lefts, right :: rights => left.same right && sameValues lefts rights
  | [], _ :: _ | _ :: _, [] => false

def sameMappings : List (String × Value) → Fields → Bool
  | [], _ => true
  | field :: rest, others => sameEntry field others && sameMappings rest others

def sameEntry : String × Value → Fields → Bool
  | (key, value), others => (others.get? key).any value.same

end

namespace Value

/-- `value[key]` with a text key. -/
def index (value : Value) (key : String) : Except PyError Value :=
  match value with
  | .dict fields => orReject (keyError key) (Fields.get? fields key)
  | .none | .bool _ | .int _ | .float _ | .str _ | .list _ | .foreign =>
    .error (typeError "object is not subscriptable with a text")

/-- `value[first][second]…`. -/
def path (value : Value) : List String → Except PyError Value
  | [] => .ok value
  | key :: rest => do (← value.index key).path rest

/-- `value.get(key, default)`. -/
def getD (value : Value) (key : String) (default : Value) : Except PyError Value :=
  match value with
  | .dict fields => .ok ((Fields.get? fields key).getD default)
  | .none | .bool _ | .int _ | .float _ | .str _ | .list _ | .foreign =>
    .error (attributeError "object has no attribute 'get'")

/-- The integers from here on do not convert to a float. -/
def floatOverflow : Int := 2 ^ 1024 - 2 ^ 970

/-- `type(value) in (int, float) and math.isfinite(value)`, with the number. -/
def finite? : Value → Except PyError (Option ℚ)
  | .int number =>
    if number.natAbs < floatOverflow.natAbs then .ok (some number)
    else .error (overflowError "int too large to convert to float")
  | .float (.finite number) => .ok (some number)
  | .none | .bool _ | .float _ | .str _ | .list _ | .dict _ | .foreign => .ok Option.none

/-- The mapping with another value under a key that it has. -/
def update (key : String) (change : Value → Value) : Value → Value
  | .dict fields =>
    .dict (fields.map fun field => if field.1 = key then (key, change field.2) else field)
  | other => other

end Value

/-- `a and b and …`: the first check that is false or raises decides. -/
def every : List (Except PyError Bool) → Except PyError Bool
  | [] => .ok true
  | .ok true :: rest => every rest
  | .ok false :: _ => .ok false
  | .error error :: _ => .error error

theorem Fields.get?_update (key : String) (change : Value → Value) (fields : Fields)
    (other : String) :
    Fields.get? (fields.map fun field => if field.1 = key then (key, change field.2) else field)
        other =
      if other = key then (fields.get? other).map change else fields.get? other := by
  induction fields with
  | nil => simp [Fields.get?]
  | cons field rest inductionHypothesis =>
    obtain ⟨name, value⟩ := field
    simp only [Fields.get?, List.map_cons] at inductionHypothesis ⊢
    by_cases renamed : name = key
    · subst renamed
      by_cases sought : other = name
      · subst sought
        simp
      · rw [if_pos rfl, List.lookup_cons, List.lookup_cons, inductionHypothesis]
        simp [sought, beq_false_of_ne sought]
    · rw [if_neg renamed, List.lookup_cons, List.lookup_cons, inductionHypothesis]
      by_cases sought : other = name
      · subst sought
        simp [renamed]
      · simp [beq_false_of_ne sought]

/-- `mapping[key] = value`, read back. -/
@[simp] theorem Fields.get?_set (fields : Fields) (key : String) (value : Value) (other : String) :
    (fields.set key value).get? other = if other = key then some value else fields.get? other := by
  rw [Fields.set]
  by_cases present : (fields.get? key).isSome
  · obtain ⟨old, found⟩ := Option.isSome_iff_exists.mp present
    rw [if_pos present, Fields.get?_update key (fun _ => value)]
    by_cases sought : other = key
    · rw [if_pos sought, if_pos sought, sought, found, Option.map_some]
    · rw [if_neg sought, if_neg sought]
  · have absent : fields.lookup key = none := Option.not_isSome_iff_eq_none.mp present
    rw [if_neg present, Fields.get?, Fields.get?, List.lookup_append]
    by_cases sought : other = key
    · simp [sought, absent]
    · simp [List.lookup, beq_false_of_ne sought, sought]

/-- A subscript of an updated mapping. -/
theorem Value.index_update (value : Value) (key : String) (change : Value → Value)
    (other : String) :
    (value.update key change).index other =
      if other = key then (value.index other).map change else value.index other := by
  cases value with
  | dict fields =>
    rw [Value.update, Value.index, Value.index, Fields.get?_update]
    by_cases sought : other = key
    · rw [if_pos sought, if_pos sought]
      cases Fields.get? fields other <;> rfl
    · rw [if_neg sought, if_neg sought]
  | none | bool _ | int _ | float _ | str _ | list _ | foreign =>
    simp only [Value.update, Value.index]
    split <;> rfl

theorem Value.getD_update (value : Value) (key : String) (change : Value → Value)
    {other : String} (different : other ≠ key) (default : Value) :
    (value.update key change).getD other default = value.getD other default := by
  cases value with
  | dict fields =>
    rw [Value.update, Value.getD, Value.getD, Fields.get?_update, if_neg different]
  | none | bool _ | int _ | float _ | str _ | list _ | foreign => rfl

@[simp] theorem Value.isDict_update (value : Value) (key : String) (change : Value → Value) :
    (value.update key change).isDict = value.isDict := by
  cases value <;> rfl

@[simp] theorem Value.isNone_update (value : Value) (key : String) (change : Value → Value) :
    (value.update key change).isNone = value.isNone := by
  cases value <;> rfl

end LiveStream.Support

import LiveStream.Support.Checks

/-! Dynamically typed values as a JSON document or a Python mapping holds them,
with the lookups, comparisons and exceptions a program meets on them. -/

namespace LiveStream.Support

/-- The built-in exception classes that handlers tell apart. Subclasses are
filed under the nearest class that some handler names. -/
inductive ErrorKind where
  | value | key | type | attribute | overflow | os | runtime | database | interrupt
  deriving DecidableEq

/-- A raised exception: its class and `str(error)`. -/
structure PyError where
  kind : ErrorKind
  text : String
  deriving DecidableEq

def valueError (text : String) : PyError := ⟨.value, text⟩
def keyError (text : String) : PyError := ⟨.key, text⟩
def typeError (text : String) : PyError := ⟨.type, text⟩
def attributeError (text : String) : PyError := ⟨.attribute, text⟩
def overflowError (text : String) : PyError := ⟨.overflow, text⟩
def runtimeError (text : String) : PyError := ⟨.runtime, text⟩
def integrityError (text : String) : PyError := ⟨.database, text⟩

/-- A double. Finite values are kept exactly. -/
inductive Double where
  | finite (value : ℚ)
  | posInf
  | negInf
  | nan
  deriving DecidableEq

/-- A dynamically typed value. `foreign` is any object that is none of the
JSON types, so that no encoder accepts it. -/
inductive Value where
  | none
  | bool (value : Bool)
  | int (value : Int)
  | float (value : Double)
  | str (value : String)
  | list (items : List Value)
  | dict (fields : List (String × Value))
  | foreign
  deriving Inhabited

/-- The items of a mapping with text keys, in insertion order. -/
abbrev Fields := List (String × Value)

namespace Fields

/-- `mapping.get(key)`, with `none` for a missing key. -/
def get? (fields : Fields) (key : String) : Option Value :=
  fields.lookup key

/-- `mapping[key] = value`: replace in place, or append a new key. -/
def set (fields : Fields) (key : String) (value : Value) : Fields :=
  if (fields.get? key).isSome then
    fields.map fun field => if field.1 = key then (key, value) else field
  else fields ++ [(key, value)]

end Fields

mutual

/-- Whether `json.dumps` accepts the value. -/
def Value.encodable : Value → Bool
  | .list items => encodableItems items
  | .dict fields => encodableFields fields
  | .foreign => false
  | .none | .bool _ | .int _ | .float _ | .str _ => true

def encodableItems : List Value → Bool
  | [] => true
  | item :: rest => item.encodable && encodableItems rest

def encodableFields : List (String × Value) → Bool
  | [] => true
  | field :: rest => encodableField field && encodableFields rest

def encodableField : String × Value → Bool
  | (_, value) => value.encodable

end

mutual

/-- Whether two values have the same `json.dumps(value, sort_keys=True)`. -/
def Value.sameJson : Value → Value → Bool
  | .none, .none => true
  | .bool left, .bool right => left = right
  | .int left, .int right => left = right
  | .float left, .float right => left = right
  | .str left, .str right => left = right
  | .list left, .list right => sameItems left right
  | .dict left, .dict right => left.length = right.length && sameFields left right
  | _, _ => false

def sameItems : List Value → List Value → Bool
  | [], [] => true
  | left :: lefts, right :: rights => left.sameJson right && sameItems lefts rights
  | _, _ => false

def sameFields : List (String × Value) → Fields → Bool
  | [], _ => true
  | field :: rest, other => sameField field other && sameFields rest other

def sameField : String × Value → Fields → Bool
  | (key, value), other =>
    match other.get? key with
    | some found => value.sameJson found
    | none => false

end

namespace Fields

/-- Whether `json.dumps` accepts the mapping; otherwise it raises `TypeError`. -/
def encodable (fields : Fields) : Bool := (Value.dict fields).encodable

def sameJson (left right : Fields) : Bool := (Value.dict left).sameJson (.dict right)

/-- `json.dumps(fields, sort_keys=True)`, kept as the mapping it encodes. -/
def dumps (fields : Fields) : Except PyError Fields :=
  if fields.encodable then .ok fields
  else .error (typeError "Object is not JSON serializable")

end Fields

/-- Python's `str.isspace` on one character. -/
def isSpace (c : Char) : Bool :=
  let n := c.toNat
  (9 ≤ n && n ≤ 13) || (28 ≤ n && n ≤ 32) || n = 133 || n = 160 || n = 5760 ||
    (8192 ≤ n && n ≤ 8202) || n = 8232 || n = 8233 || n = 8239 || n = 8287 || n = 12288

/-- `text.strip()` on the list of characters. -/
def stripChars (text : List Char) : List Char :=
  (text.dropWhile isSpace).rdropWhile isSpace

/-- Python's `text.strip()`. -/
def strip (text : String) : String :=
  String.ofList (stripChars text.toList)

/-- Decimal digits in groups joined by single underscores, as `int` reads them. -/
def digitGroups? (text : List Char) : Option Nat :=
  let groups := text.splitOn (Char.ofNat 95)
  if groups.all fun group => group ≠ [] && group.all Char.isDigit then
    some (groups.flatten.foldl (fun number digit => number * 10 + (digit.toNat - 48)) 0)
  else none

/-- `int(text)` for a text. -/
def parseInt? (text : String) : Option Int :=
  match stripChars text.toList with
  | head :: rest =>
    if head = Char.ofNat 45 then (digitGroups? rest).map fun number => -(number : Int)
    else if head = Char.ofNat 43 then (digitGroups? rest).map Int.ofNat
    else (digitGroups? (head :: rest)).map Int.ofNat
  | [] => none

/-- Truncation towards zero, as `int` does on a finite number. -/
def truncate (number : ℚ) : Int := if 0 ≤ number then ⌊number⌋ else ⌈number⌉

/-- `int(value)`. -/
def Value.toInt : Value → Except PyError Int
  | .int number => .ok number
  | .bool flag => .ok (if flag then 1 else 0)
  | .float (.finite number) => .ok (truncate number)
  | .float .nan => .error (valueError "cannot convert float NaN to integer")
  | .float _ => .error (overflowError "cannot convert float infinity to integer")
  | .str text =>
    orReject (valueError "invalid literal for int() with base 10") (parseInt? text)
  | .none | .list _ | .dict _ | .foreign =>
    .error (typeError "int() argument must be a string, a bytes-like object or a real number")

private theorem dropWhile_rdropWhile_of_head (p : Char → Bool) (head : Char) (rest : List Char)
    (kept : p head = false) :
    ((head :: rest).rdropWhile p).dropWhile p = (head :: rest).rdropWhile p := by
  have nonempty : (head :: rest).rdropWhile p ≠ [] := by
    intro empty
    have every := List.rdropWhile_eq_nil_iff.mp empty head (List.mem_cons_self ..)
    simp [kept] at every
  obtain ⟨first, tail, shape⟩ := List.exists_cons_of_ne_nil nonempty
  have sub : (head :: rest).rdropWhile p <+: head :: rest := List.rdropWhile_prefix p _
  rw [shape] at sub ⊢
  have same : first = head := (List.cons_prefix_cons.mp sub).1
  subst same
  simp [kept]

theorem stripChars_idem (text : List Char) : stripChars (stripChars text) = stripChars text := by
  unfold stripChars
  rcases shape : text.dropWhile isSpace with _ | ⟨head, rest⟩
  · rfl
  · have kept : isSpace head = false := by
      have bound : 0 < (text.dropWhile isSpace).length := by simp [shape]
      have first := List.dropWhile_get_zero_not isSpace text bound
      simpa [shape] using first
    rw [dropWhile_rdropWhile_of_head isSpace head rest kept]
    exact List.rdropWhile_idempotent ..

@[simp] theorem strip_strip (text : String) : strip (strip text) = strip text := by
  simp [strip, stripChars_idem]

end LiveStream.Support

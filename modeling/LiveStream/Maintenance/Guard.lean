import LiveStream.Support.Mapping

/-! `guard`: what the fallback controller reads of the maintenance session, whatever the
state root and the session file contain. -/

namespace LiveStream.Maintenance

open LiveStream.Support

/-- What `os.lstat` or `os.fstat` tells about a path. -/
structure FileInfo where
  expected : Bool
  writable : Bool
  owner : Nat
  deriving DecidableEq

/-- The state root: not there, not to be examined, or a path. -/
inductive Root where
  | missing
  | unreadable
  | found (info : FileInfo)
  deriving DecidableEq

/-- The session file: not to be opened, or a file with its size and what `json.loads` makes
of its bytes, where infinite literals are rejected. -/
inductive SessionFile where
  | unreadable (error : PyError)
  | file (info : FileInfo) (size : Nat) (document : Except PyError Value)

def LIMIT : Nat := 65536

/-- `read_json`; `uid` is the owner that is asked for. -/
def readJson (uid : Nat) : SessionFile → Except PyError Value
  | .unreadable error => .error error
  | .file info size document =>
    if info.expected = false ∨ LIMIT < size ∨ info.writable = true ∨ info.owner ≠ uid then
      .error (valueError "untrusted_state_file")
    else document

def SCHEMA : String := "stream_v3.manual_maintenance.v1"

def PHASES : List String :=
  ["NORMAL", "PREPARING", "AWAITING_SLATE_CONFIRMATION", "MAINTENANCE", "RESUMING", "VERIFYING",
    "RESTORING"]

/-- The answer of `guard`. -/
structure Report where
  inhibited : Bool
  reason : String
  phase : String
  sessionId : Value
  overdue : Bool
  generation : Option Value

/-- The answer that keeps the inhibition. -/
def Report.invalid : Report :=
  ⟨true, "maintenance_state_invalid", "UNKNOWN", .none, false, none⟩

/-- `phase not in PHASES` for a value that may not be hashable. -/
def unknownPhase : Value → Except PyError Bool
  | .list _ | .dict _ | .foreign => .error (typeError "unhashable type")
  | phase => .ok (!phase.isOneOf PHASES)

/-- The part of `guard` about a session that is not over: whether it is overdue. -/
def checkActive (value : Value) (now : ℚ) : Except PyError (Option Bool) := do
  let deadline ← value.index "deadline"
  let sessionId ← value.index "session_id"
  if sessionId.isNonemptyText = false then return none
  match ← deadline.finite? with
  | none => return none
  | some deadline => return some (decide (deadline ≤ now))

/-- What `guard` makes of the record that it read. -/
def readRecord (value : Value) (now : ℚ) : Except PyError Report := do
  let phase ← value.index "phase"
  let schema ← value.index "schema"
  if schema.isText SCHEMA = false then return .invalid
  if ← unknownPhase phase then return .invalid
  let generation ← value.index "generation"
  if generation.isInt = false then return .invalid
  let sessionId ← value.getD "session_id" .none
  let name := phase.text?.getD ""
  if name = "NORMAL" then
    return ⟨false, "normal", name, sessionId, false, some generation⟩
  match ← checkActive value now with
  | none => return .invalid
  | some overdue => return ⟨true, "manual_maintenance", name, sessionId, overdue, some generation⟩

/-- The second `try` block of `guard`. -/
def readGuard (uid : Nat) (file : SessionFile) (now : ℚ) : Except PyError Report := do
  readRecord (← readJson uid file) now

/-- `except (OSError, ValueError, TypeError, KeyError)`. -/
def isGuarded (error : PyError) : Bool :=
  error.kind = .os || error.kind = .value || error.kind = .type || error.kind = .key

/-- `guard(root)`. -/
def guard (root : Root) (uid : Nat) (file : SessionFile) (now : ℚ) : Except PyError Report :=
  match root with
  | .missing => .ok ⟨false, "not_installed", "NORMAL", .none, false, none⟩
  | .unreadable => .ok .invalid
  | .found info =>
    if info.expected = false ∨ info.writable = true ∨ info.owner ≠ uid then .ok .invalid
    else
      match readGuard uid file now with
      | .ok report => .ok report
      | .error error => if isGuarded error then .ok .invalid else .error error

/-- A well-formed record of the phase NORMAL. -/
def SessionFile.Normal (uid : Nat) (file : SessionFile) : Prop :=
  ∃ value, readJson uid file = .ok value ∧
    (∃ schema, value.index "schema" = .ok schema ∧ schema.isText SCHEMA = true) ∧
    (∃ phase, value.index "phase" = .ok phase ∧ phase.isText "NORMAL" = true) ∧
    ∃ generation, value.index "generation" = .ok generation ∧ generation.isInt = true

/-- A record that `guard` cannot test: an active session whose deadline is an integer too
large for a float. -/
def Overflowing (value : Value) : Prop :=
  (∃ schema, value.index "schema" = .ok schema ∧ schema.isText SCHEMA = true) ∧
    (∃ name, value.index "phase" = .ok (.str name) ∧ name ∈ PHASES ∧ name ≠ "NORMAL") ∧
    (∃ generation, value.index "generation" = .ok generation ∧ generation.isInt = true) ∧
    (∃ sessionId, value.index "session_id" = .ok sessionId ∧ sessionId.isNonemptyText = true) ∧
    ∃ deadline, value.index "deadline" = .ok (.int deadline) ∧
      Value.floatOverflow.natAbs ≤ deadline.natAbs

/-- A session file that is read with no exception but the guarded ones, and that holds no
deadline beyond the floats. -/
structure SessionFile.Tractable (uid : Nat) (file : SessionFile) : Prop where
  read : ∀ error, readJson uid file = .error error → isGuarded error = true
  finite : ∀ value, readJson uid file = .ok value → ¬Overflowing value

/-- The state root is a directory that nobody else can write to. -/
def Root.Trusted (uid : Nat) : Root → Prop
  | .missing | .unreadable => False
  | .found info => info.expected = true ∧ info.writable = false ∧ info.owner = uid

/-- `guard` reports, and reports the inhibition but for a well-formed NORMAL record. -/
def Reports (root : Root) (uid : Nat) (file : SessionFile) (now : ℚ) : Prop :=
  ∃ report, guard root uid file now = .ok report ∧
    (report.inhibited = true ∨ file.Normal uid)

theorem index_guarded {value : Value} {key : String} {error : PyError}
    (raised : value.index key = .error error) : isGuarded error = true := by
  cases value with
  | dict fields =>
    cases found : Fields.get? fields key with
    | none =>
      rw [Value.index, found] at raised
      cases raised
      rfl
    | some _ => rw [Value.index, found] at raised; cases raised
  | none | bool _ | int _ | float _ | str _ | list _ | foreign =>
    cases raised
    rfl

/-- A value with a key is a mapping, so that `get` never raises on it. -/
theorem getD_of_index {value found : Value} {key : String} (indexed : value.index key = .ok found)
    (other : String) (default : Value) : ∃ result, value.getD other default = .ok result := by
  cases value with
  | dict fields => exact ⟨_, rfl⟩
  | none | bool _ | int _ | float _ | str _ | list _ | foreign => cases indexed

theorem unknownPhase_guarded {phase : Value} {error : PyError}
    (raised : unknownPhase phase = .error error) : isGuarded error = true := by
  cases phase <;> cases raised <;> rfl

theorem unknownPhase_false {phase : Value} (known : unknownPhase phase = .ok false) :
    ∃ name, phase = .str name ∧ name ∈ PHASES := by
  cases phase with
  | str name =>
    refine ⟨name, rfl, ?_⟩
    simpa [unknownPhase, Value.isOneOf, Value.text?] using known
  | none | bool _ | int _ | float _ => simp [unknownPhase, Value.isOneOf, Value.text?] at known
  | list _ | dict _ | foreign => cases known

/-- A deadline that is no float at all is an integer too large for one. -/
theorem finite?_error {value : Value} {error : PyError} (raised : value.finite? = .error error) :
    ∃ number, value = .int number ∧ Value.floatOverflow.natAbs ≤ number.natAbs ∧
      isGuarded error = false := by
  cases value with
  | int number =>
    rw [Value.finite?] at raised
    split at raised
    · cases raised
    · rename_i large
      cases raised
      exact ⟨number, rfl, Nat.not_lt.mp large, rfl⟩
  | float number => cases number <;> cases raised
  | none | bool _ | str _ | list _ | dict _ | foreign => cases raised

theorem finite?_overflow {number : Int} (large : Value.floatOverflow.natAbs ≤ number.natAbs) :
    ∃ error, (Value.int number).finite? = .error error ∧ isGuarded error = false := by
  rw [Value.finite?, if_neg (Nat.not_lt.mpr large)]
  exact ⟨_, rfl, rfl⟩

theorem checkActive_error {value : Value} {now : ℚ} {error : PyError}
    (raised : checkActive value now = .error error) :
    isGuarded error = true ∨
      (∃ sessionId, value.index "session_id" = .ok sessionId ∧
        sessionId.isNonemptyText = true) ∧
      ∃ deadline, value.index "deadline" = .ok (.int deadline) ∧
        Value.floatOverflow.natAbs ≤ deadline.natAbs := by
  unfold checkActive at raised
  cases deadline : value.index "deadline" with
  | error other =>
    simp only [deadline, error_bind, Except.error.injEq] at raised
    exact .inl (raised ▸ index_guarded deadline)
  | ok number =>
    cases sessionId : value.index "session_id" with
    | error other =>
      simp only [deadline, sessionId, ok_bind, error_bind, Except.error.injEq] at raised
      exact .inl (raised ▸ index_guarded sessionId)
    | ok text =>
      simp only [deadline, sessionId, ok_bind] at raised
      split at raised
      · cases raised
      · rename_i nonempty
        cases tested : number.finite? with
        | ok finite => cases finite <;> simp [tested] at raised <;> cases raised
        | error other =>
          obtain ⟨large, rfl, bound, _⟩ := finite?_error tested
          exact .inr ⟨⟨text, rfl, by simpa using nonempty⟩, large, rfl, bound⟩

/-- What stands in a record up to the test of the session. -/
structure Headed (value : Value) (name : String) (number sessionId : Value) : Prop where
  schema : ∃ schema, value.index "schema" = .ok schema ∧ schema.isText SCHEMA = true
  phase : value.index "phase" = .ok (.str name)
  known : name ∈ PHASES
  generation : value.index "generation" = .ok number
  counted : number.isInt = true
  sessionId : value.getD "session_id" .none = .ok sessionId

/-- The rest of `readRecord` on a headed record. -/
def readHeaded (value : Value) (name : String) (number sessionId : Value) (now : ℚ) :
    Except PyError Report :=
  if name = "NORMAL" then .ok ⟨false, "normal", name, sessionId, false, some number⟩
  else do
    match ← checkActive value now with
    | none => return .invalid
    | some overdue => return ⟨true, "manual_maintenance", name, sessionId, overdue, some number⟩

theorem Headed.readRecord {value number sessionId : Value} {name : String}
    (headed : Headed value name number sessionId) (now : ℚ) :
    readRecord value now = readHeaded value name number sessionId now := by
  obtain ⟨schema, found, versioned⟩ := headed.schema
  have known : unknownPhase (.str name) = .ok false := by
    simp [unknownPhase, Value.isOneOf, Value.text?, headed.known]
  unfold Maintenance.readRecord
  simp only [headed.phase, found, versioned, known, headed.generation, headed.counted,
    headed.sessionId, ok_bind]
  rfl

/-- The three ways through the head of the test: an exception that `guard` catches, the
answer for an invalid record, or a headed record. -/
theorem readRecord_cases (value : Value) (now : ℚ) :
    (∃ error, readRecord value now = .error error ∧ isGuarded error = true) ∨
      readRecord value now = .ok .invalid ∨
      ∃ name number sessionId, Headed value name number sessionId := by
  unfold readRecord
  cases phase : value.index "phase" with
  | error error => exact .inl ⟨error, rfl, index_guarded phase⟩
  | ok phaseValue =>
    cases schema : value.index "schema" with
    | error error => exact .inl ⟨error, rfl, index_guarded schema⟩
    | ok schemaValue =>
      simp only [ok_bind]
      split
      · exact .inr (.inl rfl)
      · rename_i versioned
        cases unknown : unknownPhase phaseValue with
        | error error => exact .inl ⟨error, rfl, unknownPhase_guarded unknown⟩
        | ok isUnknown =>
          cases isUnknown with
          | true => exact .inr (.inl rfl)
          | false =>
            obtain ⟨name, rfl, known⟩ := unknownPhase_false unknown
            cases generation : value.index "generation" with
            | error error => exact .inl ⟨error, rfl, index_guarded generation⟩
            | ok number =>
              cases counted : number.isInt with
              | false => exact .inr (.inl (by simp [counted]))
              | true =>
                obtain ⟨sessionId, found⟩ := getD_of_index phase "session_id" .none
                exact .inr (.inr ⟨name, number, sessionId,
                  ⟨schemaValue, schema, by simpa using versioned⟩, phase, known, generation,
                  counted, found⟩)

/-- A record that is read is inhibiting, or a well-formed one of the phase NORMAL. -/
theorem readRecord_ok {value : Value} {now : ℚ} {report : Report}
    (answered : readRecord value now = .ok report) :
    report.inhibited = true ∨
      ∃ number sessionId, Headed value "NORMAL" number sessionId := by
  rcases readRecord_cases value now with ⟨error, raised, _⟩ | invalid | ⟨name, number, sessionId, headed⟩
  · rw [raised] at answered; cases answered
  · rw [invalid] at answered; cases answered; exact .inl rfl
  · by_cases normal : name = "NORMAL"
    · exact .inr ⟨number, sessionId, normal ▸ headed⟩
    · rw [headed.readRecord, readHeaded, if_neg normal] at answered
      obtain ⟨checked, _, answered⟩ := bind_eq_ok.mp answered
      cases checked <;> cases answered <;> exact .inl rfl

theorem Headed.overflowing {value number sessionId : Value} {name : String} {now : ℚ}
    {error : PyError} (headed : Headed value name number sessionId)
    (raised : readHeaded value name number sessionId now = .error error) :
    isGuarded error = true ∨ Overflowing value := by
  by_cases normal : name = "NORMAL"
  · rw [readHeaded, if_pos normal] at raised; cases raised
  · rw [readHeaded, if_neg normal] at raised
    cases checked : checkActive value now with
    | ok overdue => rw [checked] at raised; cases overdue <;> cases raised
    | error other =>
      rw [checked] at raised
      cases raised
      rcases checkActive_error checked with guarded | ⟨session, deadline⟩
      · exact .inl guarded
      · exact .inr ⟨headed.schema, ⟨name, headed.phase, headed.known, normal⟩,
          ⟨number, headed.generation, headed.counted⟩, session, deadline⟩

theorem readRecord_error {value : Value} {now : ℚ} {error : PyError}
    (raised : readRecord value now = .error error) :
    isGuarded error = true ∨ Overflowing value := by
  rcases readRecord_cases value now with ⟨other, answer, guarded⟩ | invalid | ⟨name, number, sessionId, headed⟩
  · rw [answer] at raised; cases raised; exact .inl guarded
  · rw [invalid] at raised; cases raised
  · exact headed.overflowing (headed.readRecord now ▸ raised)

theorem Overflowing.raises {value : Value} (large : Overflowing value) (now : ℚ) :
    ∃ error, readRecord value now = .error error ∧ isGuarded error = false := by
  obtain ⟨schema, ⟨name, phase, known, active⟩, ⟨number, generation, counted⟩,
    ⟨sessionId, session, nonempty⟩, deadline, found, bound⟩ := large
  obtain ⟨default, getD⟩ := getD_of_index phase "session_id" .none
  obtain ⟨error, raised, unguarded⟩ := finite?_overflow bound
  refine ⟨error, ?_, unguarded⟩
  have headed : Headed value name number default := ⟨schema, phase, known, generation, counted, getD⟩
  rw [headed.readRecord, readHeaded, if_neg active, checkActive]
  simp only [found, session, nonempty, raised, ok_bind]
  rfl

theorem Headed.normal {uid : Nat} {file : SessionFile} {value number sessionId : Value}
    (headed : Headed value "NORMAL" number sessionId) (read : readJson uid file = .ok value) :
    file.Normal uid :=
  ⟨value, read, headed.schema, ⟨_, headed.phase, rfl⟩, number, headed.generation, headed.counted⟩

/-- An answer of the second `try` block inhibits, or the file holds a NORMAL record. -/
theorem readGuard_ok {uid : Nat} {file : SessionFile} {now : ℚ} {report : Report}
    (answered : readGuard uid file now = .ok report) :
    report.inhibited = true ∨ file.Normal uid := by
  obtain ⟨value, read, answered⟩ := bind_eq_ok.mp answered
  rcases readRecord_ok answered with inhibited | ⟨_, _, headed⟩
  · exact .inl inhibited
  · exact .inr (headed.normal read)

/-- Which files make the second `try` block raise what nothing catches. -/
theorem readGuard_guarded (uid : Nat) (file : SessionFile) (now : ℚ) :
    (∀ error, readGuard uid file now = .error error → isGuarded error = true) ↔
      file.Tractable uid := by
  unfold readGuard
  cases read : readJson uid file with
  | error error =>
    constructor
    · intro guarded
      refine ⟨fun other same => ?_, fun value same => ?_⟩
      · rw [read] at same; cases same; exact guarded error rfl
      · rw [read] at same; cases same
    · intro tractable other raised
      cases raised
      exact tractable.read error read
  | ok value =>
    constructor
    · intro guarded
      refine ⟨fun other same => ?_, fun found same large => ?_⟩
      · rw [read] at same; cases same
      · rw [read] at same
        cases same
        obtain ⟨error, raised, unguarded⟩ := large.raises now
        rw [guarded error raised] at unguarded
        cases unguarded
    · intro tractable error raised
      exact (readRecord_error raised).resolve_right (tractable.finite value read)

/-- An answer that does not inhibit needs an installation and, there, a NORMAL record. -/
theorem guard_ok {root : Root} {uid : Nat} {file : SessionFile} {now : ℚ} {report : Report}
    (installed : root ≠ .missing) (answered : guard root uid file now = .ok report) :
    report.inhibited = true ∨ file.Normal uid := by
  cases root with
  | missing => exact absurd rfl installed
  | unreadable => cases answered; exact .inl rfl
  | found info =>
    simp only [guard] at answered
    split at answered
    · cases answered; exact .inl rfl
    · cases read : readGuard uid file now with
      | ok found =>
        simp only [read] at answered
        cases answered
        exact readGuard_ok read
      | error error =>
        simp only [read] at answered
        split at answered <;> cases answered
        exact .inl rfl

/-- `guard` reports what it should exactly where its second `try` block is not reached or
meets only the exceptions that it names. -/
theorem reports_iff {root : Root} (installed : root ≠ .missing) (uid : Nat) (file : SessionFile)
    (now : ℚ) : Reports root uid file now ↔ (root.Trusted uid → file.Tractable uid) := by
  cases root with
  | missing => exact absurd rfl installed
  | unreadable => exact ⟨fun _ trusted => trusted.elim, fun _ => ⟨_, rfl, .inl rfl⟩⟩
  | found info =>
    by_cases trusted : info.expected = true ∧ info.writable = false ∧ info.owner = uid
    · obtain ⟨expected, closed, owned⟩ := trusted
      have answer : guard (.found info) uid file now =
          match readGuard uid file now with
          | .ok report => .ok report
          | .error error => if isGuarded error then .ok .invalid else .error error := by
        simp [guard, expected, closed, owned]
      rw [← readGuard_guarded uid file now]
      constructor
      · rintro ⟨report, answered, _⟩ _ error raised
        rw [answer, raised] at answered
        by_contra unguarded
        simp [unguarded] at answered
      · intro guarded
        cases read : readGuard uid file now with
        | ok report => exact ⟨report, by rw [answer, read], readGuard_ok read⟩
        | error error =>
          have caught := guarded ⟨expected, closed, owned⟩ error read
          exact ⟨.invalid, by rw [answer, read]; simp [caught], .inl rfl⟩
    · have refused : guard (.found info) uid file now = .ok .invalid := by
        simp only [guard]
        rw [if_pos]
        by_contra none
        push Not at none
        exact trusted ⟨by simpa using none.1, by simpa using none.2.1, none.2.2⟩
      exact ⟨fun _ met => absurd met trusted, fun _ => ⟨_, refused, .inl rfl⟩⟩

end LiveStream.Maintenance

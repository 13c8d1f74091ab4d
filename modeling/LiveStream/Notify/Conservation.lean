import LiveStream.Notify.Outbox
import LiveStream.Support.Turns

/-! What the outbox owes: a message that was saved is owed until it has been sent or has been
written to the dead letters. What is kept of the files, and by which touch of them. -/

namespace LiveStream.Notify

open LiveStream.Support

/-- What is owed after one more entry. -/
def owe (owed : List String) : Entry → List String
  | .saved rows => owed ++ rows.map (·.messageId)
  | .handed row _ true => owed.filter (· ≠ row.messageId)
  | .handed _ _ false => owed
  | .deadLettered messageId => owed.filter (· ≠ messageId)

/-- The messages that were saved, and neither sent nor dead-lettered since. -/
def owed (log : List Entry) : List String := log.foldl owe []

/-- The rows that the file holds after an entry. -/
def writeOf (rows : List Row) : Entry → List Row
  | .saved saved => saved
  | .handed _ _ _ | .deadLettered _ => rows

def lastSaved (log : List Entry) : List Row := log.foldl writeOf []

/-- The rows before the one with the id of the row. -/
def before (row : Row) (rows : List Row) : List Row :=
  rows.takeWhile fun other => other.messageId ≠ row.messageId

/-- No detection in front of a recovery on its route is owed when the recovery is handed over. -/
def Due (log : List Entry) (row : Row) : Prop :=
  row.phase = "recovered" → ∀ prior ∈ before row (lastSaved log),
    prior.notifyRoute = row.notifyRoute → prior.detects = true → row.shares prior = true →
      prior.messageId ∉ owed log

/-- Every message that was handed to a sender was due. -/
def InOrder (log : List Entry) : Prop :=
  ∀ earlier row fallback ok later, log = earlier ++ .handed row fallback ok :: later → Due earlier row

def Files.rows (files : Files) : List Row := files.outbox.getD []

/-- Everything that is owed is pending in the file. -/
def Files.Conserves (files : Files) : Prop :=
  ∀ messageId ∈ owed files.log, ∃ row ∈ files.rows,
    row.messageId = messageId ∧ row.status = "pending"

/-- A row that is read back as it was written, and stays pending. -/
structure Row.Sound (row : Row) : Prop where
  whole : row.cut = false
  pending : row.status = "pending"
  named : row.messageId ≠ ""

/-- Rows that a file may hold. -/
structure SoundRows (rows : List Row) : Prop where
  each : ∀ row ∈ rows, row.Sound
  unique : (rows.map (·.messageId)).Nodup

structure Files.Sound (files : Files) : Prop where
  rows : SoundRows files.rows
  written : lastSaved files.log = files.rows
  covered : ∀ messageId ∈ owed files.log, messageId ∈ files.rows.map (·.messageId)
  inOrder : InOrder files.log

/-- A turn on which reading the outbox does not fail, and whose reason can be written down. -/
def Turn.Harmless (turn : Turn) : Prop :=
  (∀ error, turn.reading = .error error → error.kind ≠ .os) ∧
    ∀ ok reason, turn.sending = .ok (ok, reason) → cutsLine reason = false

theorem Files.Sound.conserves {files : Files} (sound : files.Sound) : files.Conserves := by
  intro messageId due
  obtain ⟨row, member, rfl⟩ := List.mem_map.mp (sound.covered messageId due)
  exact ⟨row, member, rfl, (sound.rows.each row member).pending⟩

theorem owed_append (log : List Entry) (entry : Entry) :
    owed (log ++ [entry]) = owe (owed log) entry := by
  simp [owed, List.foldl_append]

theorem lastSaved_append (log : List Entry) (entry : Entry) :
    lastSaved (log ++ [entry]) = writeOf (lastSaved log) entry := by
  simp [lastSaved, List.foldl_append]

theorem inOrder_append {log : List Entry} {entry : Entry} (inOrder : InOrder log)
    (due : ∀ row fallback ok, entry = .handed row fallback ok → Due log row) :
    InOrder (log ++ [entry]) := by
  intro earlier row fallback ok later shape
  rcases List.eq_nil_or_concat later with rfl | ⟨rest, last, rfl⟩
  · obtain ⟨same, last⟩ := List.append_inj' shape rfl
    subst same
    exact due row fallback ok (List.singleton_inj.mp last)
  · rw [List.concat_eq_append, ← List.cons_append, ← List.append_assoc] at shape
    exact inOrder earlier row fallback ok rest (List.append_inj' shape rfl).1

/-- An entry that only takes from what is owed, and no row from the file. -/
structure Shrinks (log : List Entry) (entry : Entry) : Prop where
  owed : ∀ messageId ∈ owe (owed log) entry, messageId ∈ owed log
  rows : writeOf (lastSaved log) entry = lastSaved log

theorem shrinks_handed (log : List Entry) (row : Row) (fallback ok : Bool) :
    Shrinks log (.handed row fallback ok) := by
  constructor
  · intro messageId member
    cases ok with
    | false => exact member
    | true => exact (List.mem_filter.mp member).1
  · rfl

theorem shrinks_deadLettered (log : List Entry) (messageId : String) :
    Shrinks log (.deadLettered messageId) :=
  ⟨fun _ member => (List.mem_filter.mp member).1, rfl⟩

/-- What a touch of the files leaves as it was, and what it may only take from. -/
structure Files.Follows (files after : Files) : Prop where
  sound : after.Sound
  outbox : after.outbox = files.outbox
  owed : ∀ messageId ∈ owed after.log, messageId ∈ owed files.log

theorem Files.Sound.follows {files : Files} (sound : files.Sound) : files.Follows files :=
  ⟨sound, rfl, fun _ member => member⟩

theorem Files.Follows.trans {first second third : Files} (left : first.Follows second)
    (right : second.Follows third) : first.Follows third :=
  ⟨right.sound, right.outbox.trans left.outbox, fun messageId member =>
    left.owed messageId (right.owed messageId member)⟩

/-- The same outbox and log, whatever else was written. -/
theorem Files.Sound.of_same {files after : Files} (sound : files.Sound)
    (outbox : after.outbox = files.outbox) (log : after.log = files.log) : files.Follows after := by
  have rows : after.rows = files.rows := by rw [Files.rows, outbox, Files.rows]
  refine ⟨⟨rows ▸ sound.rows, ?_, ?_, log ▸ sound.inOrder⟩, outbox, ?_⟩
  · rw [log, rows, sound.written]
  · rw [log, rows]
    exact sound.covered
  · rw [log]
    exact fun _ member => member

theorem Files.Sound.of_entry {files after : Files} {entry : Entry} (sound : files.Sound)
    (outbox : after.outbox = files.outbox) (log : after.log = files.log ++ [entry])
    (shrinks : Shrinks files.log entry)
    (due : ∀ row fallback ok, entry = .handed row fallback ok → Due files.log row) :
    files.Follows after := by
  have rows : after.rows = files.rows := by rw [Files.rows, outbox, Files.rows]
  have less : ∀ messageId ∈ Notify.owed after.log, messageId ∈ Notify.owed files.log := by
    rw [log, owed_append]
    exact shrinks.owed
  refine ⟨⟨rows ▸ sound.rows, ?_, ?_, ?_⟩, outbox, less⟩
  · rw [log, lastSaved_append, shrinks.rows, rows, sound.written]
  · rw [rows]
    exact fun messageId member => sound.covered messageId (less messageId member)
  · rw [log]
    exact inOrder_append sound.inOrder due

/-- What is due stays due while the file is not rewritten. -/
theorem Due.follows {files after : Files} {row : Row} (due : Due files.log row)
    (sound : files.Sound) (follows : files.Follows after) : Due after.log row := by
  have same : lastSaved after.log = lastSaved files.log := by
    rw [follows.sound.written, sound.written, Files.rows, follows.outbox, Files.rows]
  intro recovered prior member route detects shares stillOwed
  rw [same] at member
  exact due recovered prior member route detects shares (follows.owed _ stillOwed)

/-- A rewriting of the file with sound rows that leave out nothing that is owed. -/
theorem Files.Sound.rewritten {files after : Files} {rows : List Row} (sound : files.Sound)
    (outbox : after.outbox = some rows) (log : after.log = files.log ++ [.saved rows])
    (rowsSound : SoundRows rows)
    (covers : ∀ messageId ∈ owed files.log, messageId ∈ rows.map (·.messageId)) : after.Sound := by
  have here : after.rows = rows := by rw [Files.rows, outbox, Option.getD_some]
  refine ⟨here ▸ rowsSound, ?_, ?_, ?_⟩
  · rw [log, lastSaved_append, here, writeOf]
  · rw [log, owed_append, here]
    intro messageId member
    rcases List.mem_append.mp member with old | new
    · exact covers messageId old
    · exact new
  · rw [log]
    exact inOrder_append sound.inOrder fun _ _ _ => Entry.noConfusion

section Touches

variable {files : Files}

/-- A script that keeps the files as they are but for what is no longer owed, and answers so. -/
abbrev Keeps {α : Type} (script : Delivery α) (files : Files) (answers : α → Files → Prop) : Prop :=
  Script.EnsuresFor Turn.Harmless script files
    (fun value after => files.Follows after ∧ answers value after) files.Follows

theorem keeps_pure {α : Type} {value : α} {answers : α → Files → Prop} (sound : files.Sound)
    (answered : answers value files) : Keeps (pure value) files answers :=
  Script.ensuresFor_pure ⟨sound.follows, answered⟩

theorem keeps_bind {α β : Type} {script : Delivery α} {next : α → Delivery β}
    {M : α → Files → Prop} {answers : β → Files → Prop} (first : Keeps script files M)
    (rest : ∀ value after, files.Follows after → M value after → Keeps (next value) after answers) :
    Keeps (script >>= next) files answers := by
  apply Script.ensuresFor_bind first
  intro value after reached
  apply Script.ensuresFor_weaken (rest value after reached.1 reached.2)
  · intro _ last left
    exact ⟨reached.1.trans left.1, left.2⟩
  · intro last left
    exact reached.1.trans left

theorem keeps_appendEvent (sound : files.Sound) (event : Event) :
    Keeps (appendEvent event) files fun _ _ => True := by
  apply Script.ensuresFor_act sound.follows
  intro turn _
  cases turn.writing with
  | ok _ => exact ⟨sound.of_same rfl rfl, trivial⟩
  | error error => exact sound.follows

theorem keeps_acknowledge (sound : files.Sound) (receipt : Receipt) :
    Keeps (acknowledge receipt) files fun _ after => after.log = files.log :=
  Script.ensuresFor_modify ⟨sound.of_same rfl rfl, rfl⟩

theorem keeps_appendDeadLetter (sound : files.Sound) (record : DeadLetter) :
    Keeps (appendDeadLetter record) files fun _ after => record.row.messageId ∉ owed after.log := by
  apply Script.ensuresFor_act sound.follows
  intro turn _
  cases turn.writing with
  | ok _ =>
    refine ⟨sound.of_entry rfl rfl (shrinks_deadLettered ..) fun _ _ _ => Entry.noConfusion, ?_⟩
    dsimp only
    rw [owed_append]
    simp [owe]
  | error error => exact sound.follows

/-- The row was handed over: an outcome that is a success pays for it. -/
theorem keeps_handTo (sound : files.Sound) {row : Row} (due : Due files.log row) (fallback : Bool) :
    Keeps (handTo row fallback) files fun answer after =>
      (answer.1 = true → row.messageId ∉ owed after.log) ∧ cutsLine answer.2 = false := by
  have follows : ∀ ok, files.Follows { files with log := files.log ++ [.handed row fallback ok] } := by
    intro ok
    refine sound.of_entry rfl rfl (shrinks_handed files.log row fallback ok) ?_
    intro handed _ _ same
    cases same
    exact due
  apply Script.ensuresFor_act sound.follows
  intro turn harmless
  dsimp only
  cases sending : turn.sending with
  | ok answer =>
    obtain ⟨ok, reason⟩ := answer
    refine ⟨follows ok, fun sent => ?_, harmless.2 ok reason sending⟩
    dsimp only at sent ⊢
    rw [sent, owed_append]
    simp [owe]
  | error error =>
    dsimp only
    split_ifs
    · exact follows false
    · refine ⟨follows false, fun sent => ?_, ?_⟩
      · cases sent
      · cases error.kind <;> decide

end Touches

end LiveStream.Notify

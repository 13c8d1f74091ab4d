import LiveStream.Notify.Flush

/-! Whole calls and runs of calls over the outbox: everything that is owed stays pending in the
file, and no recovery overtakes its detection, as long as the file can be read and its lines
stay whole. -/

namespace LiveStream.Notify

open LiveStream.Support

variable {pieces : Row → List Row} {files : Files}

/-- Whole rows are read back as they are. -/
theorem readBack_sound {rows : List Row} (sound : SoundRows rows) :
    (rows.flatMap (Row.readBack pieces)).filter (fun row => row.status = "pending") = rows := by
  have whole : rows.flatMap (Row.readBack pieces) = rows := by
    have each : ∀ row ∈ rows, Row.readBack pieces row = [row] := fun row member => by
      simp [Row.readBack, (sound.each row member).whole]
    rw [List.flatMap_congr each, List.flatMap_singleton']
  rw [whole, List.filter_eq_self]
  intro row member
  exact decide_eq_true (sound.each row member).pending

theorem keeps_load (sound : files.Sound) :
    Keeps (loadNotifyOutbox pieces) files fun rows _ => rows = files.rows := by
  apply Script.ensuresFor_act sound.follows
  intro turn harmless
  cases there : files.outbox with
  | none =>
    refine ⟨sound.follows, ?_⟩
    rw [Files.rows, there, Option.getD_none]
  | some rows =>
    have same : files.rows = rows := by rw [Files.rows, there, Option.getD_some]
    cases reading : turn.reading with
    | ok _ =>
      refine ⟨sound.follows, ?_⟩
      rw [readBack_sound (same ▸ sound.rows), same]
    | error error =>
      dsimp only
      rw [if_neg (harmless.1 error reading)]
      exact sound.follows

/-- What a part of a call leaves, however it ends. -/
abbrev Leaves {α : Type} (script : Delivery α) (files : Files) : Prop :=
  Script.EnsuresFor Turn.Harmless script files (fun _ after => after.Sound) Files.Sound

theorem leaves_of_keeps {α β : Type} {script : Delivery α} {next : α → Delivery β}
    {M : α → Files → Prop} (first : Keeps script files M)
    (rest : ∀ value after, files.Follows after → M value after → Leaves (next value) after) :
    Leaves (script >>= next) files := by
  apply Script.ensuresFor_bind
    (Script.ensuresFor_weaken first (fun _ _ left => left) fun _ follows => follows.sound)
  intro value after reached
  exact rest value after reached.1 reached.2

/-- Saving rows that cover what is owed keeps the promise for all of them. -/
theorem leaves_save (sound : files.Sound) {rows : List Row} (rowsSound : SoundRows rows)
    (covers : ∀ messageId ∈ owed files.log, messageId ∈ rows.map (·.messageId)) :
    Leaves (saveNotifyOutbox rows) files := by
  apply Script.ensuresFor_act sound
  intro turn _
  cases turn.writing with
  | ok _ => exact sound.rewritten rfl rfl rowsSound covers
  | error error => exact sound

/-- What a flush leaves over covers all that is owed. -/
theorem Flushing.over {rows remaining : List Row}
    (flushing : Flushing rows files [] remaining (rows.map Row.tag)) (sound : files.Sound) :
    SoundRows remaining ∧ ∀ messageId ∈ owed files.log, messageId ∈ remaining.map (·.messageId) := by
  have ids : ∀ list : List Row, (list.map Row.tag).map Tag.messageId = list.map (·.messageId) :=
    fun list => by rw [List.map_map]; rfl
  refine ⟨⟨fun row member => flushing.each row (List.mem_append_left _ member), ?_⟩, ?_⟩
  · have fewer := flushing.kept.map Tag.messageId
    rw [ids, ids] at fewer
    exact fewer.nodup (flushing.file ▸ sound.rows.unique)
  · intro messageId due
    obtain ⟨row, member, rfl⟩ := List.mem_map.mp (sound.covered messageId due)
    rw [flushing.file] at member
    rcases flushing.settled row.tag (List.mem_map_of_mem member) with left | paid
    · rw [← ids]
      exact List.mem_map_of_mem (f := Tag.messageId) left
    · exact absurd due paid

theorem leaves_flush (sound : files.Sound) (args : FlushArgs) :
    Leaves (flushNotifyOutbox pieces args) files := by
  apply leaves_of_keeps (keeps_load sound)
  rintro outbox after follows rfl
  split_ifs
  · exact Script.ensuresFor_pure follows.sound
  · have start : Flushing files.rows after files.rows [] [] := by
      refine ⟨?_, rfl, fun _ => List.not_mem_nil.elim, List.Sublist.refl _, ?_⟩
      · rw [Files.rows, follows.outbox, Files.rows]
      · exact sound.rows.each
    apply leaves_of_keeps (keeps_flushRows follows.sound start)
    intro ended last further flushed
    obtain ⟨rowsSound, covers⟩ := flushed.over further.sound
    apply Script.ensuresFor_bind (leaves_save further.sound rowsSound covers)
    intro _ _ saved
    exact Script.ensuresFor_pure saved

/-- A call whose reads succeed and whose texts have no line separator in them. -/
structure Call.Harmless (call : Call) : Prop where
  turns : ∀ turn ∈ call.turns, turn.Harmless
  username : cutsLine call.args.cfg.username = false
  route : cutsLine call.args.route = false
  messages : ∀ messages ∈ call.messages, ∀ message ∈ messages, message.Whole

theorem keeps_events (sound : files.Sound) (args : FlushArgs) (messages : List Message) :
    Keeps (messages.forM fun message => appendEvent (undelivered args message)) files
      fun _ _ => True := by
  induction messages generalizing files with
  | nil => exact keeps_pure sound trivial
  | cons message rest inductionHypothesis =>
    rw [List.forM_eq_forM, List.forM_cons]
    apply keeps_bind (keeps_appendEvent sound _)
    intro _ after follows _
    exact inductionHypothesis follows.sound

theorem leaves_deliver (sound : files.Sound) {args : FlushArgs} {messages : List Message}
    (usernameWhole : cutsLine args.cfg.username = false) (routeWhole : cutsLine args.route = false)
    (whole : ∀ message ∈ messages, message.Whole) :
    Leaves (deliverRenderedMessages pieces args messages) files := by
  unfold deliverRenderedMessages
  split_ifs
  · apply leaves_of_keeps (keeps_load sound)
    rintro outbox loaded follows rfl
    dsimp only
    obtain ⟨rowsSound, kept⟩ := sound_enqueueNotifyMessages args.nowTs
      sound.rows whole usernameWhole routeWhole
    have covers : ∀ messageId ∈ owed loaded.log, messageId ∈ (enqueueNotifyMessages files.rows messages
        args.cfg.username args.nowTs args.route).map (·.messageId) :=
      fun messageId due => kept (sound.covered messageId (follows.owed _ due))
    apply leaves_of_keeps (keeps_archiveOverflow follows.sound rowsSound covers)
    intro archived after further left
    apply Script.ensuresFor_bind (leaves_save further.sound left.1 left.2)
    intro _ _ saved
    exact leaves_flush saved args
  · apply leaves_of_keeps (keeps_events sound args messages)
    intro _ after follows _
    exact Script.ensuresFor_pure follows.sound
  · apply leaves_of_keeps (keeps_events sound args messages)
    intro _ after follows _
    exact Script.ensuresFor_pure follows.sound
  · exact leaves_flush sound args
  · exact Script.ensuresFor_pure sound

/-- A harmless call keeps the promises, wherever it ends. -/
theorem sound_leaves (sound : files.Sound) {call : Call} (harmless : call.Harmless) :
    (call.leaves pieces files).Sound := by
  have start : Files.Sound { files with acknowledged := [] } :=
    ⟨sound.rows, sound.written, sound.covered, sound.inOrder⟩
  have leaves : ∀ {α : Type} {script : Delivery α}, Leaves script { files with acknowledged := [] } →
      (script.run call.turns { files with acknowledged := [] }).2.2.Sound := by
    intro α script ensured
    have left := (ensured call.turns harmless.turns).1
    rcases ended : script.run call.turns { files with acknowledged := [] } with
      ⟨value | error | _, rest, after⟩ <;> rw [ended] at left <;> exact left
  unfold Call.leaves
  cases called : call.messages with
  | none => exact leaves (leaves_flush start call.args)
  | some messages =>
    exact leaves (leaves_deliver start harmless.username harmless.route
      (harmless.messages messages called))

theorem sound_runCalls {calls : List Call} (harmless : ∀ call ∈ calls, call.Harmless) :
    (runCalls pieces calls).Sound := by
  have empty : Files.empty.Sound := by
    refine ⟨⟨fun _ => List.not_mem_nil.elim, List.nodup_nil⟩, rfl, fun _ => List.not_mem_nil.elim, ?_⟩
    intro earlier row fallback ok later shape
    exact absurd shape.symm (by simp [Files.empty])
  have step : ∀ (rest : List Call) (start : Files), start.Sound →
      (∀ call ∈ rest, call.Harmless) → (rest.foldl (Call.leaves pieces) start).Sound := by
    intro rest
    induction rest with
    | nil => exact fun _ sound _ => sound
    | cons call later inductionHypothesis =>
      intro start sound each
      apply inductionHypothesis _ (sound_leaves sound (each call (List.mem_cons_self ..)))
      intro other member
      exact each other (List.mem_cons_of_mem _ member)
  exact step calls .empty empty harmless

/-- Nothing that the outbox owes is lost, and no recovery overtakes its detection. -/
theorem harmless_calls_conserve (pieces : Row → List Row) (calls : List Call)
    (harmless : ∀ call ∈ calls, call.Harmless) :
    (runCalls pieces calls).Conserves ∧ InOrder (runCalls pieces calls).log :=
  ⟨(sound_runCalls harmless).conserves, (sound_runCalls harmless).inOrder⟩

/-- A detection of one incident, as a message to be delivered. -/
def detection (id : String) : Message := ⟨"detected", [⟨some id, some 5, some 5, none⟩], "text"⟩

/-- A delivery on the default route. -/
def delivery (message : Message) (turns : List Turn) : Call where
  args := ⟨⟨true, "hook", "bot", 100, 10⟩, 10, false, "discord", none⟩
  messages := some [message]
  turns := turns

/-- A turn on which all is well, but for the sender. -/
def sendFails : Turn := ⟨.ok (), .ok (), .ok (false, "http_500")⟩

/-- A turn on which the outbox cannot be read. -/
def readFails : Turn := ⟨.error ⟨.os, "Input/output error"⟩, .ok (), .ok (false, "http_500")⟩

/-- Such a run delivers and keeps what it delivers. -/
theorem harmless_calls_conserve_delivery :
    let calls := [delivery (detection "a") (List.replicate 8 sendFails)]
    (runCalls (fun _ => []) calls).Conserves ∧ InOrder (runCalls (fun _ => []) calls).log := by
  refine harmless_calls_conserve (fun _ => []) _ ?_
  intro call member
  obtain rfl := List.mem_singleton.mp member
  refine ⟨?_, by decide, by decide, ?_⟩
  · intro turn listed
    obtain rfl := List.eq_of_mem_replicate listed
    exact ⟨fun error reading => (by cases reading), fun ok reason same => by cases same; decide⟩
  · rintro messages ⟨⟩ message listed
    obtain rfl := List.mem_singleton.mp listed
    exact ⟨by decide, by decide, by decide⟩

/-- The first delivery ends after it has saved its message. The message is still owed when another
delivery, which cannot read the outbox, writes it anew. -/
theorem unread_outbox_loses_message :
    ¬ ((runCalls (fun _ => []) [delivery (detection "a") [sendFails, sendFails],
        delivery (detection "b") [readFails, sendFails]]).Conserves ∧
      InOrder (runCalls (fun _ => []) [delivery (detection "a") [sendFails, sendFails],
        delivery (detection "b") [readFails, sendFails]]).log) := by
  rintro ⟨conserves, _⟩
  have lost : ¬ ∃ row ∈ (runCalls (fun _ => []) [delivery (detection "a") [sendFails, sendFails],
      delivery (detection "b") [readFails, sendFails]]).rows,
      row.messageId = "detected|a|5" ∧ row.status = "pending" := by
    decide +kernel
  apply lost
  apply conserves
  decide +kernel

end LiveStream.Notify

import LiveStream.Notify.Conservation

/-! Messages that enter the outbox: their ids, the rows that they become, and the overflow. -/

namespace LiveStream.Notify

open LiveStream.Support

section Texts

theorem cutsLine_append (left right : String) :
    cutsLine (left ++ right) = (cutsLine left || cutsLine right) := by
  simp [cutsLine]

/-- A digit is no line separator. -/
theorem cutsLine_natText (number : Nat) : cutsLine (toString number) = false := by
  rw [cutsLine, List.any_eq_false]
  intro c member
  have digit : c.isDigit := by
    apply Nat.isDigit_of_mem_toDigits (by decide : 0 < 10) (by decide : 10 ≤ 10)
    simpa using member
  rw [Char.isDigit_iff_toNat] at digit
  simp only [splitsLines, Bool.or_eq_true, decide_eq_true_eq]
  have small : '9'.toNat = 57 := rfl
  omega

theorem cutsLine_intText (number : Int) : cutsLine (toString number) = false := by
  cases number with
  | ofNat number => exact cutsLine_natText number
  | negSucc number =>
    change cutsLine ("-" ++ toString (number + 1)) = false
    rw [cutsLine_append, cutsLine_natText]
    decide

theorem cutsLine_joined {texts : List String} (whole : ∀ text ∈ texts, cutsLine text = false) :
    cutsLine (String.intercalate "," texts) = false := by
  induction texts with
  | nil => decide
  | cons head rest inductionHypothesis =>
    have first := whole head (List.mem_cons_self ..)
    by_cases last : rest = []
    · simpa [last] using first
    · rw [String.intercalate_cons_of_ne_nil last, cutsLine_append, cutsLine_append, first,
        inductionHypothesis fun text member => whole text (List.mem_cons_of_mem _ member)]
      decide

end Texts

/-- A message whose texts have no line separator. -/
structure Message.Whole (message : Message) : Prop where
  phase : cutsLine message.phase = false
  content : cutsLine message.content = false
  ids : ∀ id ∈ message.ids.reduceOption, cutsLine id = false

section Ids

variable {message : Message}

theorem cutsLine_joinedIds (whole : message.Whole) :
    cutsLine (joinedIds message.incidents) = false := by
  apply cutsLine_joined
  intro id member
  rw [List.mem_insertionSort] at member
  exact whole.ids id (List.mem_filter.mp member).1

theorem cutsLine_notifyMessageId (whole : message.Whole) (nowTs : Int) {route : String}
    (routeWhole : cutsLine route = false) :
    cutsLine (notifyMessageId message.phase message.incidents nowTs route) = false := by
  have ids := cutsLine_joinedIds whole
  have base : ∀ text : String, cutsLine text = false →
      cutsLine (if route = DEFAULT_ROUTE then text else route ++ "|" ++ text) = false := by
    intro text textWhole
    split_ifs
    · exact textWhole
    · rw [cutsLine_append, cutsLine_append, routeWhole, textWhole]
      decide
  have stamped : ∀ (name : String) (number : Int), cutsLine name = false →
      cutsLine (name ++ joinedIds message.incidents ++ "|" ++ toString number) = false := by
    intro name number nameWhole
    rw [cutsLine_append, cutsLine_append, cutsLine_append, nameWhole, ids, cutsLine_intText]
    decide
  have phased : cutsLine (message.phase ++ "|") = false := by
    rw [cutsLine_append, whole.phase]
    decide
  apply base
  dsimp only
  split_ifs
  · rw [cutsLine_append, ids]
    decide
  · exact stamped "detected|" _ (by decide)
  · exact stamped "recovered|" _ (by decide)
  · exact stamped (message.phase ++ "|") _ phased
  · exact stamped (message.phase ++ "|") _ phased

/-- A message always has an id. -/
theorem notifyMessageId_ne_empty (phase : String) (incidents : List Incident) (nowTs : Int)
    (route : String) : notifyMessageId phase incidents nowTs route ≠ "" := by
  unfold notifyMessageId
  dsimp only
  split_ifs <;> simp [String.append_eq_empty_iff]

end Ids

section Rows

theorem Row.cut_eq_false {row : Row} : row.cut = false ↔
    (cutsLine row.messageId = false ∧ cutsLine row.phase = false ∧ cutsLine row.content = false ∧
      cutsLine row.username = false ∧ cutsLine row.route = false ∧ cutsLine row.status = false ∧
        cutsLine row.lastError = false) ∧ ∀ id ∈ row.incidentIds.reduceOption, cutsLine id = false := by
  simp [Row.cut, List.any_eq_false, and_assoc]

variable {message : Message} {username route : String} {nowTs : Int}

/-- The row of a new message can be read back. -/
theorem Message.Whole.sound_row (whole : message.Whole) (usernameWhole : cutsLine username = false)
    (routeWhole : cutsLine route = false) :
    (message.row (notifyMessageId message.phase message.incidents nowTs route) username route
      nowTs).Sound := by
  refine ⟨Row.cut_eq_false.mpr ⟨⟨cutsLine_notifyMessageId whole nowTs routeWhole, whole.phase,
    whole.content, usernameWhole, routeWhole, ?_, ?_⟩, whole.ids⟩, rfl,
    notifyMessageId_ne_empty _ _ _ _⟩
  · dsimp only [Message.row]
    decide
  · dsimp only [Message.row]
    decide

/-- And so can a row that a message was merged into. -/
theorem Message.Whole.sound_merged (nowTs : Int) (whole : message.Whole) {existing : Row} (sound : existing.Sound)
    (usernameWhole : cutsLine username = false) (routeWhole : cutsLine route = false) :
    Row.Sound
      { existing with
        updatedTs := nowTs, phase := message.phase, incidentIds := message.ids
        content := message.content, username := username, route := route, status := "pending" } := by
  obtain ⟨⟨named, _, _, _, _, _, failed⟩, _⟩ := Row.cut_eq_false.mp sound.whole
  refine ⟨Row.cut_eq_false.mpr ⟨⟨named, whole.phase, whole.content, usernameWhole, routeWhole, ?_,
    failed⟩, whole.ids⟩, rfl, sound.named⟩
  dsimp only
  decide

theorem mem_ids_upsert {rows : List Row} {fresh : Row} {messageId : String} :
    messageId ∈ (upsert Row.messageId rows fresh).map Row.messageId ↔
      messageId = fresh.messageId ∨ messageId ∈ rows.map Row.messageId := by
  constructor
  · intro member
    obtain ⟨row, listed, rfl⟩ := List.mem_map.mp member
    rcases mem_upsert.mp listed with rfl | ⟨old, _⟩
    · exact Or.inl rfl
    · exact Or.inr (List.mem_map_of_mem old)
  · rintro (rfl | member)
    · exact List.mem_map_of_mem (mem_upsert.mpr (Or.inl rfl))
    · obtain ⟨row, listed, rfl⟩ := List.mem_map.mp member
      by_cases same : row.messageId = fresh.messageId
      · rw [same]
        exact List.mem_map_of_mem (mem_upsert.mpr (Or.inl rfl))
      · exact List.mem_map_of_mem (mem_upsert.mpr (Or.inr ⟨listed, same⟩))

theorem SoundRows.upsert {rows : List Row} (sound : SoundRows rows) {fresh : Row}
    (freshSound : fresh.Sound) : SoundRows (Support.upsert Row.messageId rows fresh) := by
  constructor
  · intro row member
    rcases mem_upsert.mp member with rfl | ⟨old, _⟩
    · exact freshSound
    · exact sound.each row old
  · exact nodup_upsert sound.unique fresh

/-- The dictionary of the rows is sound, and the order lists its ids once each. -/
structure Enqueued.Sound (enqueued : Enqueued) : Prop where
  rows : SoundRows enqueued.byId
  order : enqueued.order.Nodup
  same : ∀ messageId, messageId ∈ enqueued.order ↔ messageId ∈ enqueued.byId.map Row.messageId

/-- A message is merged into the row with its id, or gets a row behind the others. -/
theorem Enqueued.Sound.enqueueMessage {enqueued : Enqueued} (nowTs : Int) (sound : enqueued.Sound)
    (whole : message.Whole) (usernameWhole : cutsLine username = false)
    (routeWhole : cutsLine route = false) :
    (enqueueMessage username route nowTs enqueued message).Sound ∧
      enqueued.order ⊆ (Notify.enqueueMessage username route nowTs enqueued message).order := by
  unfold Notify.enqueueMessage
  dsimp only
  cases found : lookup Row.messageId enqueued.byId
      (notifyMessageId message.phase message.incidents nowTs route) with
  | some existing =>
    obtain ⟨listed, same⟩ := lookup_some found
    have merged := whole.sound_merged nowTs (sound.rows.each existing listed) usernameWhole
      routeWhole
    refine ⟨⟨sound.rows.upsert merged, sound.order, fun messageId => ?_⟩, fun _ member => member⟩
    rw [mem_ids_upsert, sound.same]
    constructor
    · exact Or.inr
    · rintro (here | old)
      · rw [show messageId = existing.messageId from here]
        exact List.mem_map_of_mem listed
      · exact old
  | none =>
    have absent := lookup_none found
    refine ⟨⟨sound.rows.upsert (whole.sound_row usernameWhole routeWhole), ?_, fun messageId => ?_⟩,
      fun _ member => List.mem_append_left _ member⟩
    · apply List.Nodup.append sound.order (List.nodup_singleton _)
      rw [List.disjoint_singleton, sound.same]
      intro member
      obtain ⟨row, listed, same⟩ := List.mem_map.mp member
      exact absent row listed same
    · rw [mem_ids_upsert, List.mem_append, List.mem_singleton, sound.same, or_comm]
      rfl

/-- A dictionary built from rows with distinct ids. -/
theorem sound_known {known acc : List Row} (knownSound : SoundRows known) (sound : SoundRows acc) :
    SoundRows (known.foldl (upsert Row.messageId) acc) ∧
      ∀ messageId, messageId ∈ (known.foldl (upsert Row.messageId) acc).map Row.messageId ↔
        messageId ∈ known.map Row.messageId ∨ messageId ∈ acc.map Row.messageId := by
  induction known generalizing acc with
  | nil => exact ⟨sound, fun messageId => by simp⟩
  | cons row rest inductionHypothesis =>
    have later : SoundRows rest :=
      ⟨fun other member => knownSound.each other (List.mem_cons_of_mem _ member),
        (List.nodup_cons.mp knownSound.unique).2⟩
    obtain ⟨built, ids⟩ := inductionHypothesis later
      (sound.upsert (knownSound.each row (List.mem_cons_self ..)))
    refine ⟨built, fun messageId => ?_⟩
    rw [List.foldl_cons, ids, mem_ids_upsert, List.map_cons, List.mem_cons]
    tauto

theorem Enqueued.Sound.enqueueAll {messages : List Message} {enqueued : Enqueued} (nowTs : Int)
    (sound : enqueued.Sound) (whole : ∀ message ∈ messages, message.Whole)
    (usernameWhole : cutsLine username = false) (routeWhole : cutsLine route = false) :
    (messages.foldl (Notify.enqueueMessage username route nowTs) enqueued).Sound ∧
      enqueued.order ⊆ (messages.foldl (Notify.enqueueMessage username route nowTs) enqueued).order := by
  induction messages generalizing enqueued with
  | nil => exact ⟨sound, fun _ member => member⟩
  | cons message rest inductionHypothesis =>
    obtain ⟨next, kept⟩ := sound.enqueueMessage nowTs
      (whole message (List.mem_cons_self ..)) usernameWhole routeWhole
    obtain ⟨last, more⟩ := inductionHypothesis next
      fun other member => whole other (List.mem_cons_of_mem _ member)
    exact ⟨last, fun _ member => more (kept member)⟩

/-- The rows in order, by their ids. -/
theorem map_filterMap_lookup {rows : List Row} {order : List String}
    (listed : ∀ messageId ∈ order, messageId ∈ rows.map Row.messageId) :
    (order.filterMap (lookup Row.messageId rows)).map Row.messageId = order := by
  induction order with
  | nil => rfl
  | cons messageId rest inductionHypothesis =>
    have later := inductionHypothesis fun other member => listed other (List.mem_cons_of_mem _ member)
    cases found : lookup Row.messageId rows messageId with
    | some row => rw [List.filterMap_cons_some found, List.map_cons, later, (lookup_some found).2]
    | none =>
      obtain ⟨row, member, same⟩ := List.mem_map.mp (listed messageId (List.mem_cons_self ..))
      exact absurd same (lookup_none found row member)

/-- Enqueueing keeps every row that there is, and its rows can be read back. -/
theorem sound_enqueueNotifyMessages {outbox : List Row} {messages : List Message} (nowTs : Int)
    (sound : SoundRows outbox) (whole : ∀ message ∈ messages, message.Whole)
    (usernameWhole : cutsLine username = false) (routeWhole : cutsLine route = false) :
    SoundRows (enqueueNotifyMessages outbox messages username nowTs route) ∧
      outbox.map Row.messageId ⊆
        (enqueueNotifyMessages outbox messages username nowTs route).map Row.messageId := by
  have named : outbox.filter (fun row => row.messageId ≠ "") = outbox := by
    apply List.filter_eq_self.mpr
    intro row member
    simpa using (sound.each row member).named
  have nameWhole : cutsLine (routeName route) = false := by
    unfold routeName
    split_ifs
    · decide
    · exact routeWhole
  have empty : SoundRows [] := ⟨fun _ => List.not_mem_nil.elim, List.nodup_nil⟩
  obtain ⟨built, ids⟩ := sound_known sound empty
  have start : Enqueued.Sound ⟨outbox.foldl (Support.upsert Row.messageId) [],
      outbox.map Row.messageId⟩ :=
    ⟨built, sound.unique, fun messageId => by rw [ids]; simp⟩
  obtain ⟨last, kept⟩ := start.enqueueAll nowTs whole usernameWhole nameWhole
  unfold enqueueNotifyMessages
  dsimp only
  rw [named]
  have order := map_filterMap_lookup fun messageId member => (last.same messageId).mp member
  refine ⟨⟨fun row member => ?_, ?_⟩, ?_⟩
  · obtain ⟨messageId, _, found⟩ := List.mem_filterMap.mp member
    exact last.rows.each row (lookup_some found).1
  · rw [order]
    exact last.order
  · rw [order]
    exact kept

end Rows

end LiveStream.Notify

import LiveStream.Notify.Enqueue

/-! The loops that rewrite the outbox: the archive of an overflow and the flush of a route.
Both go through the rows of the file, and what they leave out is no longer owed. -/

namespace LiveStream.Notify

open LiveStream.Support

section Archive

variable {route : String} {limit nowTs : Int}

/-- An archive has gone through some rows: what is left and what is to come cover what is owed. -/
structure Archiving (files : Files) (kept rest : List Row) : Prop where
  sound : SoundRows (kept ++ rest)
  covered : ∀ messageId ∈ owed files.log, messageId ∈ (kept ++ rest).map (·.messageId)

theorem Archiving.follows {files after : Files} {kept rest : List Row}
    (archiving : Archiving files kept rest) (follows : files.Follows after) :
    Archiving after kept rest :=
  ⟨archiving.sound, fun messageId member => archiving.covered messageId (follows.owed _ member)⟩

/-- A row that is no longer owed may be left out. -/
theorem Archiving.drop {files : Files} {kept rest : List Row} {item : Row}
    (archiving : Archiving files kept (item :: rest)) (paid : item.messageId ∉ owed files.log) :
    Archiving files kept rest := by
  have fewer : (kept ++ rest).Sublist (kept ++ item :: rest) :=
    (List.Sublist.refl kept).append (List.sublist_cons_self item rest)
  refine ⟨⟨fun row member => archiving.sound.each row (fewer.subset member),
    (fewer.map _).nodup archiving.sound.unique⟩, fun messageId member => ?_⟩
  have listed := archiving.covered messageId member
  rw [List.map_append, List.map_cons, List.mem_append, List.mem_cons] at listed
  rw [List.map_append, List.mem_append]
  rcases listed with left | rfl | right
  · exact Or.inl left
  · exact absurd member paid
  · exact Or.inr right

theorem Archiving.keep {files : Files} {kept rest : List Row} {item : Row}
    (archiving : Archiving files kept (item :: rest)) : Archiving files (kept ++ [item]) rest := by
  have same : kept ++ [item] ++ rest = kept ++ item :: rest := by simp
  exact ⟨same ▸ archiving.sound, same ▸ archiving.covered⟩

theorem keeps_archiveRow {files : Files} (sound : files.Sound) {kept rest : List Row} {item : Row}
    {count : Nat} (archiving : Archiving files kept (item :: rest)) :
    Keeps (archiveRow route limit nowTs (kept, count) item) files
      fun state after => Archiving after state.1 rest := by
  unfold archiveRow
  split_ifs
  · exact keeps_pure sound archiving.keep
  · exact keeps_pure sound archiving.keep
  · apply keeps_bind (keeps_appendDeadLetter sound _)
    intro _ lettered reached paid
    apply keeps_bind (keeps_acknowledge reached.sound _)
    intro _ told follows same
    apply keeps_bind (keeps_appendEvent follows.sound _)
    intro _ logged again _
    apply keeps_pure again.sound
    exact ((archiving.follows reached).drop paid).follows (follows.trans again)

theorem keeps_archiveRows {rows : List Row} {files : Files} (sound : files.Sound)
    {kept : List Row} {count : Nat} (archiving : Archiving files kept rows) :
    Keeps (rows.foldlM (archiveRow route limit nowTs) (kept, count)) files
      fun state after => Archiving after state.1 [] := by
  induction rows generalizing files kept count with
  | nil => exact keeps_pure sound archiving
  | cons item rest inductionHypothesis =>
    rw [List.foldlM_cons]
    apply keeps_bind (keeps_archiveRow sound archiving)
    intro state after follows left
    exact inductionHypothesis follows.sound left

/-- What an archive keeps covers all that is owed. -/
theorem keeps_archiveOverflow {files : Files} (sound : files.Sound) {rows : List Row}
    (rowsSound : SoundRows rows)
    (covers : ∀ messageId ∈ owed files.log, messageId ∈ rows.map (·.messageId)) :
    Keeps (archiveOverflow route limit nowTs rows) files fun kept after =>
      SoundRows kept ∧ ∀ messageId ∈ owed after.log, messageId ∈ kept.map (·.messageId) := by
  have start : Archiving files [] rows := ⟨rowsSound, covers⟩
  apply keeps_bind (keeps_archiveRows sound start)
  intro state after follows archived
  obtain ⟨kept, covered⟩ := archived
  rw [List.append_nil] at kept covered
  exact keeps_pure follows.sound ⟨kept, covered⟩

end Archive

/-- What no flush changes in a row. -/
structure Tag where
  messageId : String
  phase : String
  incidentIds : List (Option String)
  route : String

def Row.tag (row : Row) : Tag := ⟨row.messageId, row.phase, row.incidentIds, row.route⟩

section Marks

variable {item : Row} {attempt : Attempt}

theorem tag_follow (item row : Row) : (item.follow row).tag = row.tag := by
  unfold Row.follow
  split_ifs <;> rfl

theorem sound_follow {row : Row} (sound : row.Sound) (item : Row) : (item.follow row).Sound := by
  unfold Row.follow
  split_ifs
  · exact ⟨sound.whole, sound.pending, sound.named⟩
  · exact sound

theorem tag_mark (attempt : Attempt) (item : Row) (rows : List Row) :
    (attempt.mark item rows).map Row.tag = rows.map Row.tag := by
  unfold Attempt.mark
  split_ifs
  · rw [List.map_map]
    apply List.map_congr_left
    intro row _
    exact tag_follow item row
  · rfl

/-- The row itself may be marked, too. -/
theorem mark_cons (attempt : Attempt) (item : Row) (rest : List Row) :
    ∃ head, attempt.mark item (item :: rest) = head :: attempt.mark item rest ∧
      head.tag = item.tag := by
  unfold Attempt.mark
  split_ifs
  · exact ⟨item.follow item, rfl, tag_follow item item⟩
  · exact ⟨item, rfl, rfl⟩

theorem sound_mark {rows : List Row} (sound : ∀ row ∈ rows, row.Sound) (attempt : Attempt)
    (item : Row) : ∀ row ∈ attempt.mark item rows, row.Sound := by
  unfold Attempt.mark
  split_ifs
  · intro row member
    obtain ⟨old, listed, rfl⟩ := List.mem_map.mp member
    exact sound_follow (sound old listed) item
  · exact sound

theorem sound_failed (sound : item.Sound) {reason : String} (whole : cutsLine reason = false)
    (nowTs : Int) : (item.failed reason nowTs).Sound := by
  obtain ⟨⟨named, phase, content, username, route, status, _⟩, ids⟩ := Row.cut_eq_false.mp sound.whole
  exact ⟨Row.cut_eq_false.mpr ⟨⟨named, phase, content, username, route, status, whole⟩, ids⟩,
    sound.pending, sound.named⟩

end Marks

section Attempts

variable {args : FlushArgs} {route : String}

/-- An attempt that succeeds pays for its row; the reason of one that fails can be kept. -/
theorem keeps_attemptRow {files : Files} (sound : files.Sound) {item : Row}
    (due : Due files.log item) :
    Keeps (attemptRow args route item) files fun attempt after =>
      (attempt.ok = true → item.messageId ∉ owed after.log) ∧ cutsLine attempt.reason = false := by
  have first : Keeps (firstTry item) files fun answer after =>
      (answer.1 = true → item.messageId ∉ owed after.log) ∧ cutsLine answer.2 = false := by
    unfold firstTry
    split_ifs
    · exact keeps_pure sound ⟨Bool.noConfusion, by decide⟩
    · exact keeps_handTo sound due false
  apply keeps_bind first
  intro answer handed reached answered
  obtain ⟨ok, reason⟩ := answer
  dsimp only at answered ⊢
  apply keeps_bind (keeps_appendEvent reached.sound _)
  intro _ logged follows _
  have paid : ok = true → item.messageId ∉ owed logged.log := fun sent stillOwed =>
    answered.1 sent (follows.owed _ stillOwed)
  cases args.fallbackCfg with
  | none => exact keeps_pure follows.sound ⟨paid, answered.2⟩
  | some cfg =>
    dsimp only
    split_ifs
    · apply keeps_bind (keeps_handTo follows.sound (due.follows sound (reached.trans follows)) true)
      intro delivered again more redelivered
      obtain ⟨delivered, fallbackReason⟩ := delivered
      apply keeps_bind (keeps_appendEvent more.sound _)
      intro _ last ends _
      refine keeps_pure ends.sound ⟨fun sent stillOwed => ?_, answered.2⟩
      exact redelivered.1 sent (ends.owed _ stillOwed)
    · exact keeps_pure follows.sound ⟨paid, answered.2⟩

/-- A flush has gone through the rows with these tags: each of them is left over or is no longer
owed, and what is left over is in the order of the file. -/
structure Flushing (rows : List Row) (files : Files) (todo remaining : List Row) (passed : List Tag) :
    Prop where
  file : files.rows = rows
  tags : rows.map Row.tag = passed ++ todo.map Row.tag
  settled : ∀ tag ∈ passed, tag ∈ remaining.map Row.tag ∨ tag.messageId ∉ owed files.log
  kept : (remaining.map Row.tag).Sublist passed
  each : ∀ row ∈ remaining ++ todo, row.Sound

variable {rows todo remaining rest : List Row} {files after : Files} {passed : List Tag} {item : Row}

theorem Flushing.follows (flushing : Flushing rows files todo remaining passed)
    (follows : files.Follows after) : Flushing rows after todo remaining passed := by
  refine ⟨?_, flushing.tags, fun tag member => ?_, flushing.kept, flushing.each⟩
  · rw [Files.rows, follows.outbox, ← flushing.file, Files.rows]
  · rcases flushing.settled tag member with left | paid
    · exact Or.inl left
    · exact Or.inr fun stillOwed => paid (follows.owed _ stillOwed)

theorem Flushing.mark (flushing : Flushing rows files todo remaining passed) (attempt : Attempt)
    (item : Row) :
    Flushing rows files (attempt.mark item todo) (attempt.mark item remaining) passed := by
  refine ⟨flushing.file, ?_, fun tag member => ?_, ?_, fun row member => ?_⟩
  · rw [tag_mark, flushing.tags]
  · rw [tag_mark]
    exact flushing.settled tag member
  · rw [tag_mark]
    exact flushing.kept
  · rcases List.mem_append.mp member with left | right
    · exact sound_mark (fun other listed => flushing.each other (List.mem_append_left _ listed))
        attempt item row left
    · exact sound_mark (fun other listed => flushing.each other (List.mem_append_right _ listed))
        attempt item row right

/-- The next row, or a later state of it, is left over. -/
theorem Flushing.keep (flushing : Flushing rows files (item :: rest) remaining passed) {left : Row}
    (same : left.tag = item.tag) (sound : left.Sound) :
    Flushing rows files rest (remaining ++ [left]) (passed ++ [item.tag]) := by
  refine ⟨flushing.file, ?_, fun tag member => ?_, ?_, fun row member => ?_⟩
  · rw [flushing.tags, List.map_cons, List.append_assoc, List.singleton_append]
  · rw [List.map_append, List.mem_append, List.map_singleton, List.mem_singleton, same]
    rcases List.mem_append.mp member with old | new
    · rcases flushing.settled tag old with listed | paid
      · exact Or.inl (Or.inl listed)
      · exact Or.inr paid
    · exact Or.inl (Or.inr (List.mem_singleton.mp new))
  · rw [List.map_append, List.map_singleton, same]
    exact flushing.kept.append (List.Sublist.refl _)
  · rw [List.append_assoc, List.singleton_append, List.mem_append, List.mem_cons] at member
    rcases member with old | rfl | later
    · exact flushing.each row (List.mem_append_left _ old)
    · exact sound
    · exact flushing.each row (List.mem_append_right _ (List.mem_cons_of_mem _ later))

/-- The next row was sent. -/
theorem Flushing.pay (flushing : Flushing rows files (item :: rest) remaining passed)
    (paid : item.messageId ∉ owed files.log) :
    Flushing rows files rest remaining (passed ++ [item.tag]) := by
  refine ⟨flushing.file, ?_, fun tag member => ?_, ?_, fun row member => ?_⟩
  · rw [flushing.tags, List.map_cons, List.append_assoc, List.singleton_append]
  · rcases List.mem_append.mp member with old | new
    · exact flushing.settled tag old
    · rw [List.mem_singleton.mp new]
      exact Or.inr paid
  · exact flushing.kept.trans (List.sublist_append_left ..)
  · rcases List.mem_append.mp member with old | later
    · exact flushing.each row (List.mem_append_left _ old)
    · exact flushing.each row (List.mem_append_right _ (List.mem_cons_of_mem _ later))

theorem tag_before {more : List Tag} (tags : rows.map Row.tag = passed ++ item.tag :: more)
    {prior : Row} (member : prior ∈ before item rows) : prior.tag ∈ passed := by
  induction passed generalizing rows with
  | nil =>
    cases rows with
    | nil => cases member
    | cons row rest =>
      have same : row.messageId = item.messageId := congrArg Tag.messageId (List.cons.inj tags).1
      simp [before, same] at member
  | cons tag others inductionHypothesis =>
    cases rows with
    | nil => cases member
    | cons row rest =>
      obtain ⟨same, later⟩ := List.cons.inj tags
      unfold before at member
      rw [List.takeWhile_cons] at member
      split_ifs at member with apart
      · rcases List.mem_cons.mp member with rfl | within
        · rw [same]
          exact List.mem_cons_self ..
        · exact List.mem_cons_of_mem _ (inductionHypothesis later within)
      · cases member

/-- A row that does not wait is due. -/
theorem Flushing.due (flushing : Flushing rows files (item :: rest) remaining passed)
    (sound : files.Sound) (here : item.notifyRoute = route)
    (free : item.waits route remaining = false) : Due files.log item := by
  intro recovered prior member samePath detects shares
  rw [sound.written, flushing.file] at member
  have tagged := tag_before (by rw [flushing.tags, List.map_cons]) member
  rcases flushing.settled prior.tag tagged with left | paid
  · obtain ⟨row, listed, same⟩ := List.mem_map.mp left
    have ⟨_, phase, ids, path⟩ : row.messageId = prior.messageId ∧ row.phase = prior.phase ∧
        row.incidentIds = prior.incidentIds ∧ row.route = prior.route := by
      simpa [Row.tag] using same
    have waiting : item.waits route remaining = true := by
      rw [Row.waits, recovered, decide_eq_true rfl, Bool.true_and, List.any_eq_true]
      refine ⟨row, listed, ?_⟩
      have rowPath : row.notifyRoute = route := by
        rw [Row.notifyRoute, path]
        exact samePath.trans here
      rw [rowPath, decide_eq_true rfl, Bool.true_and, Row.detects, phase, Row.shares, ids,
        Bool.and_eq_true]
      exact ⟨detects, shares⟩
    rw [waiting] at free
    cases free
  · exact paid

/-- The loop leaves over all that is owed. -/
theorem keeps_flushRows {todo : List Row} {files : Files} {progress : Progress} {passed : List Tag}
    (sound : files.Sound) (flushing : Flushing rows files todo progress.remaining passed) :
    Keeps (flushRows args route todo progress) files fun ended after =>
      Flushing rows after [] ended.remaining (rows.map Row.tag) := by
  obtain ⟨size, length⟩ : ∃ size, todo.length = size := ⟨_, rfl⟩
  induction size generalizing todo files progress passed with
  | zero =>
    obtain rfl := List.length_eq_zero_iff.mp length
    have all : passed = rows.map Row.tag := by simpa using flushing.tags.symm
    rw [flushRows]
    exact keeps_pure sound (all ▸ flushing)
  | succ size inductionHypothesis =>
    obtain ⟨item, rest, rfl⟩ := List.exists_of_length_succ todo length
    have shorter : rest.length = size := by simpa using length
    have itemSound := flushing.each item (List.mem_append_right _ (List.mem_cons_self ..))
    rw [flushRows]
    split_ifs with skipped
    · exact inductionHypothesis sound (flushing.keep rfl itemSound) shorter
    · rw [not_or, not_or, not_not, Bool.not_eq_true] at skipped
      apply keeps_bind (keeps_attemptRow sound (flushing.due sound skipped.1 skipped.2.2))
      intro attempt after follows answered
      have marked : (attempt.mark item rest).length = size := by
        rw [← shorter, ← List.length_map (f := Row.tag), tag_mark, List.length_map]
      dsimp only
      by_cases delivered : attempt.ok = true
      · rw [if_pos delivered]
        apply keeps_bind (keeps_acknowledge follows.sound _)
        intro _ told again same
        have paid : item.messageId ∉ owed told.log := by
          rw [same]
          exact answered.1 delivered
        have left := (((flushing.follows follows).follows again).pay paid).mark attempt item
        exact inductionHypothesis again.sound left marked
      · rw [if_neg delivered]
        have left := (flushing.follows follows).mark attempt item
        obtain ⟨head, shape, same⟩ := mark_cons attempt item rest
        rw [shape] at left
        exact inductionHypothesis follows.sound
          (left.keep same.symm (sound_failed itemSound answered.2 args.nowTs)) marked

end Attempts

end LiveStream.Notify

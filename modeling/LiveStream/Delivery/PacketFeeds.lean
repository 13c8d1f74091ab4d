import LiveStream.Delivery.PacketBuffer
import LiveStream.Support.Numbered
import LiveStream.Support.Run

/-! Feeding the packet buffer: whatever the bytes are it stays well formed and bounded, and how
they were cut makes no difference. -/

namespace LiveStream.Delivery

open LiveStream.Support

section Tables

/-- A packet of a pid starts a section of a table. -/
def Packet.Starts (packet : Packet) (pid id : Nat) : Prop :=
  packet.pid = pid ∧ ∃ table, packet.section? = some table ∧ 12 ≤ table.length ∧
    byteAt table 0 = .ok id

theorem byteAt_of_lt {bytes : List UInt8} {index : Nat} (inside : index < bytes.length) :
    ∃ value, byteAt bytes index = .ok value := by
  rw [byteAt, List.getElem?_eq_getElem inside]
  exact ⟨_, rfl⟩

theorem wordAt_of_lt {bytes : List UInt8} {index : Nat} (inside : index + 1 < bytes.length)
    (mask : Nat) : ∃ value, wordAt bytes index mask = .ok value := by
  obtain ⟨high, readHigh⟩ := byteAt_of_lt (show index < bytes.length by omega)
  obtain ⟨low, readLow⟩ := byteAt_of_lt inside
  rw [wordAt, readHigh, ok_bind, readLow]
  exact ⟨_, rfl⟩

theorem firstProgram_ok (table : List UInt8) (offsets : List Nat) :
    ∃ program, firstProgram table offsets = .ok program := by
  induction offsets with
  | nil => exact ⟨none, rfl⟩
  | cons offset rest inductionHypothesis =>
    by_cases inside : offset + 4 ≤ table.length
    · obtain ⟨high, readHigh⟩ := byteAt_of_lt (show offset < table.length by omega)
      obtain ⟨low, readLow⟩ := byteAt_of_lt (show offset + 1 < table.length by omega)
      obtain ⟨pid, readPid⟩ := wordAt_of_lt (show offset + 2 + 1 < table.length by omega) 31
      rw [firstProgram, if_pos inside, readHigh, ok_bind, readLow, ok_bind]
      by_cases network : high ≠ 0 ∨ low ≠ 0
      · rw [if_pos network, readPid]
        exact ⟨_, rfl⟩
      · rw [if_neg network]
        exact inductionHypothesis
    · rw [firstProgram, if_neg inside]
      exact inductionHypothesis

/-- The walk over the streams stays inside the section, whatever lengths it announces. -/
theorem videoStream_ok {table : List UInt8} {stop : Nat} (inside : stop ≤ table.length)
    (offset : Nat) (videoPid : Option Nat) :
    ∃ found, videoStream table stop offset videoPid = .ok found := by
  induction remaining : stop - offset using Nat.strong_induction_on generalizing offset videoPid with
  | h remaining inductionHypothesis =>
    by_cases more : offset + 5 ≤ stop
    · obtain ⟨streamType, readType⟩ := byteAt_of_lt (show offset < table.length by omega)
      obtain ⟨streamPid, readPid⟩ := wordAt_of_lt (show offset + 1 + 1 < table.length by omega) 31
      obtain ⟨high, readHigh⟩ := byteAt_of_lt (show offset + 3 < table.length by omega)
      obtain ⟨low, readLow⟩ := byteAt_of_lt (show offset + 4 < table.length by omega)
      rw [videoStream, if_pos more, readType, ok_bind, readPid, ok_bind, readHigh, ok_bind, readLow,
        ok_bind]
      exact inductionHypothesis _ (by omega) _ _ rfl
    · rw [videoStream, if_neg more]
      exact ⟨_, rfl⟩

/-- A packet leaves the tables alone, is stored as the PAT, or as the PMT of the current pid. -/
theorem Tables.update_cases (tables : Tables) (packet : Packet) :
    ∃ after, tables.update packet = .ok after ∧
      (after = tables ∨
        (packet.Starts 0 0 ∧ after.headers = Function.update tables.headers 0 (some packet)) ∨
        (packet.Starts packet.pid 2 ∧ tables.pmtPid = some packet.pid ∧
          after.pmtPid = tables.pmtPid ∧
          after.headers = Function.update tables.headers packet.pid (some packet))) := by
  rw [Tables.update]
  by_cases other : packet.pid ≠ 0 ∧ tables.pmtPid ≠ some packet.pid
  · rw [if_pos other]
    exact ⟨tables, rfl, .inl rfl⟩
  rw [if_neg other]
  cases start : packet.section? with
  | none => exact ⟨tables, rfl, .inl rfl⟩
  | some table =>
    by_cases short : table.length < 12
    · simp only [short, if_true]
      exact ⟨tables, rfl, .inl rfl⟩
    obtain ⟨id, readId⟩ := byteAt_of_lt (show 0 < table.length by omega)
    obtain ⟨length, readLength⟩ := wordAt_of_lt (show 1 + 1 < table.length by omega) 15
    obtain ⟨information, readInformation⟩ :=
      wordAt_of_lt (show 10 + 1 < table.length by omega) 15
    have starts : packet.Starts packet.pid id := ⟨rfl, table, start, by omega, readId⟩
    simp only [short, if_false, readId, readLength, ok_bind]
    by_cases isPat : packet.pid = 0 ∧ id = 0
    · obtain ⟨program, found⟩ := firstProgram_ok table
        (List.range' 8 ((min (3 + length - 4) table.length - 5) / 4) 4)
      rw [if_pos isPat, found]
      refine ⟨_, rfl, .inr (.inl ⟨?_, rfl⟩)⟩
      rwa [isPat.1, isPat.2] at starts
    rw [if_neg isPat]
    by_cases isPmt : tables.pmtPid = some packet.pid ∧ id = 2
    · obtain ⟨videoPid, found⟩ := videoStream_ok (Nat.min_le_right (3 + length - 4) table.length)
        (12 + information) tables.videoPid
      rw [if_pos isPmt, readInformation, ok_bind, found]
      refine ⟨_, rfl, .inr (.inr ⟨?_, isPmt.1, rfl, rfl⟩)⟩
      rwa [isPmt.2] at starts
    · rw [if_neg isPmt]
      exact ⟨tables, rfl, .inl rfl⟩

/-- What the stored packets are, as long as no PAT has named pid 0 for its PMT. -/
structure Tables.Sound (tables : Tables) : Prop where
  stored : tables.pmtPid ≠ none → ∃ pat, tables.headers 0 = some pat
  pat : tables.pmtPid ≠ some 0 → ∀ packet, tables.headers 0 = some packet → packet.Starts 0 0
  pmt : ∀ pid packet, pid ≠ 0 → tables.headers pid = some packet → packet.Starts pid 2

theorem Tables.Sound.update {tables : Tables} (sound : tables.Sound) (packet : Packet) :
    ∃ after, tables.update packet = .ok after ∧ after.Sound := by
  obtain ⟨after, updated, same | ⟨starts, headers⟩ | ⟨starts, current, kept, headers⟩⟩ :=
    tables.update_cases packet
  · exact ⟨after, updated, same ▸ sound⟩
  · refine ⟨after, updated, ⟨fun _ => ⟨packet, by simp [headers]⟩, fun _ stored found => ?_, ?_⟩⟩
    · rw [headers, Function.update_self] at found
      cases found
      exact starts
    · intro pid stored different found
      rw [headers, Function.update_of_ne different] at found
      exact sound.pmt pid stored different found
  · refine ⟨after, updated, ⟨fun _ => ?_, fun different stored found => ?_, ?_⟩⟩
    · obtain ⟨pat, there⟩ := sound.stored (by simp [current])
      by_cases zero : packet.pid = 0
      · exact ⟨packet, by simp [headers, zero]⟩
      · exact ⟨pat, by rw [headers, Function.update_of_ne (Ne.symm zero), there]⟩
    · have apart : packet.pid ≠ 0 := fun zero => different (by rw [kept, current, zero])
      rw [headers, Function.update_of_ne (Ne.symm apart)] at found
      exact sound.pat (kept ▸ different) stored found
    · intro pid stored different found
      by_cases same : pid = packet.pid
      · rw [same, headers, Function.update_self] at found
        cases found
        exact same ▸ starts
      · rw [headers, Function.update_of_ne same] at found
        exact sound.pmt pid stored different found

end Tables

section Queue

theorem prunePackets_suffix (maximumPackets : Nat) (maximumAge now : ℚ) (packets : List Queued) :
    prunePackets maximumPackets maximumAge now packets <:+ packets := by
  induction packets with
  | nil => exact List.suffix_refl _
  | cons head rest inductionHypothesis =>
    rw [prunePackets]
    split
    · exact inductionHypothesis.trans (List.suffix_cons ..)
    · exact List.suffix_refl _

theorem length_prunePackets (maximumPackets : Nat) (maximumAge now : ℚ) (packets : List Queued) :
    (prunePackets maximumPackets maximumAge now packets).length ≤ maximumPackets := by
  induction packets with
  | nil => exact Nat.zero_le _
  | cons head rest inductionHypothesis =>
    rw [prunePackets]
    split
    · exact inductionHypothesis
    · rename_i fits
      exact Nat.le_of_not_lt fun many => fits (.inl many)

/-- What holds of the buffer between calls. -/
structure PacketBuffer.Kept (buffer : PacketBuffer) : Prop where
  tables : buffer.tables.Sound
  numbered : Numbered Queued.sequence buffer.packets
  newest : ∀ last ∈ buffer.packets.getLast?, last.sequence = buffer.sequence
  positive : ∀ queued ∈ buffer.packets, 0 < queued.sequence
  flagged : ∀ queued ∈ buffer.packets, queued.keyframe = true → queued.packet.randomAccess = true
  bounded : buffer.packets.length ≤ buffer.maximumPackets
  short : buffer.closed = false → buffer.pending.length < 188

/-- What a call may do to the numbers: they only grow, and new packets get new ones. -/
structure Grown (before after : PacketBuffer) : Prop where
  policy : after.policy = before.policy
  sequence : before.sequence ≤ after.sequence
  packets : ∀ queued ∈ after.packets, queued ∈ before.packets ∨ before.sequence < queued.sequence

theorem Grown.refl (buffer : PacketBuffer) : Grown buffer buffer :=
  ⟨rfl, le_rfl, fun _ => .inl⟩

theorem Grown.trans {first second third : PacketBuffer} (left : Grown first second)
    (right : Grown second third) : Grown first third := by
  refine ⟨right.policy.trans left.policy, left.sequence.trans right.sequence, fun queued member => ?_⟩
  rcases right.packets queued member with old | new
  · exact left.packets queued old
  · exact .inr (left.sequence.trans_lt new)

variable {buffer : PacketBuffer}

theorem getLast?_of_suffix {α : Type} {items later : List α} (suffix : later <:+ items) {last : α}
    (found : later.getLast? = some last) : items.getLast? = some last := by
  obtain ⟨front, rfl⟩ := suffix
  rw [List.getLast?_append, found]
  rfl

theorem kept_prune (kept : buffer.Kept) (now : ℚ) : (buffer.prune now).Kept := by
  have suffix := prunePackets_suffix buffer.maximumPackets buffer.policy.maximumAgeSeconds now
    buffer.packets
  exact {
    tables := kept.tables
    numbered := kept.numbered.suffix suffix
    newest := fun last found => kept.newest last (getLast?_of_suffix suffix found)
    positive := fun queued member => kept.positive queued (suffix.mem member)
    flagged := fun queued member => kept.flagged queued (suffix.mem member)
    bounded := length_prunePackets ..
    short := kept.short }

theorem grown_prune (buffer : PacketBuffer) (now : ℚ) : Grown buffer (buffer.prune now) :=
  ⟨rfl, le_rfl, fun _ member => .inl ((prunePackets_suffix ..).mem member)⟩

/-- A packet is accepted whatever its bytes are. -/
theorem accept_kept (kept : buffer.Kept) (now : ℚ) (packet : Packet) :
    ∃ after, buffer.accept now packet = .ok after ∧ after.Kept ∧ Grown buffer after := by
  obtain ⟨tables, updated, sound⟩ := kept.tables.update packet
  rw [PacketBuffer.accept, updated, ok_bind]
  refine ⟨_, rfl, ?_, ?_⟩
  · have suffix := prunePackets_suffix buffer.maximumPackets buffer.policy.maximumAgeSeconds now
      (buffer.packets ++ [⟨buffer.sequence + 1, now, packet,
        tables.videoPid = some packet.pid && packet.randomAccess⟩])
    exact {
      tables := sound
      numbered := (kept.numbered.snoc fun last found => by rw [kept.newest last found]).suffix suffix
      newest := by
        intro last found
        have whole := getLast?_of_suffix suffix found
        rw [List.getLast?_concat] at whole
        cases whole
        rfl
      positive := by
        intro queued member
        rcases List.mem_append.mp (suffix.mem member) with old | new
        · exact kept.positive queued old
        · cases List.mem_singleton.mp new
          exact Nat.succ_pos _
      flagged := by
        intro queued member keyframe
        rcases List.mem_append.mp (suffix.mem member) with old | new
        · exact kept.flagged queued old keyframe
        · cases List.mem_singleton.mp new
          exact (Bool.and_eq_true_iff.mp keyframe).2
      bounded := length_prunePackets ..
      short := kept.short }
  · refine ⟨rfl, Nat.le_succ _, fun queued member => ?_⟩
    rcases List.mem_append.mp ((prunePackets_suffix ..).mem member) with old | new
    · exact .inl old
    · cases List.mem_singleton.mp new
      exact .inr (Nat.lt_succ_self _)

/-- `DeliveryBlocked` is all that a call raises. -/
def OnlyBlocked {α : Type} (result : Except Fault α) : Prop :=
  ∀ fault, result = .error fault → ∃ text, fault = .blocked text

theorem PacketBuffer.drain_of_lt {bytes : List UInt8} (short : bytes.length < 188)
    (clock : Nat → ℚ) : buffer.drain clock bytes = ({ buffer with pending := bytes }, .ok ()) := by
  rw [PacketBuffer.drain, dif_neg (by omega)]

theorem drain_kept (kept : buffer.Kept) (clock : Nat → ℚ) (bytes : List UInt8) :
    (buffer.drain clock bytes).1.Kept ∧ Grown buffer (buffer.drain clock bytes).1 ∧
      OnlyBlocked (buffer.drain clock bytes).2 := by
  induction size : bytes.length using Nat.strong_induction_on generalizing buffer clock bytes with
  | h size inductionHypothesis =>
    by_cases long : 188 ≤ bytes.length
    · rw [PacketBuffer.drain, dif_pos long]
      dsimp only
      split
      · refine ⟨?_, ⟨rfl, le_rfl, fun _ => .inl⟩, fun fault raised => ?_⟩
        · exact { kept with short := fun closed => by cases closed }
        · cases raised
          exact ⟨_, rfl⟩
      · obtain ⟨accepted, taken, keptNow, grown⟩ :=
          accept_kept kept (clock 0) ⟨bytes.take 188, List.length_take_of_le long⟩
        rw [taken]
        obtain ⟨keptLater, grownLater, blocked⟩ := inductionHypothesis (bytes.drop 188).length
          (by rw [List.length_drop]; omega) keptNow (fun index => clock (index + 1))
          (bytes.drop 188) rfl
        exact ⟨keptLater, grown.trans grownLater, blocked⟩
    · rw [PacketBuffer.drain_of_lt (by omega)]
      exact ⟨{ kept with short := fun _ => Nat.lt_of_not_le long }, ⟨rfl, le_rfl, fun _ => .inl⟩,
        fun _ raised => by cases raised⟩

theorem feed_kept (kept : buffer.Kept) (clock : Nat → ℚ) (data : List UInt8) :
    (buffer.feed clock data).1.Kept ∧ Grown buffer (buffer.feed clock data).1 ∧
      OnlyBlocked (buffer.feed clock data).2 := by
  rw [PacketBuffer.feed]
  split
  · exact ⟨kept, Grown.refl buffer, fun _ raised => by cases raised; exact ⟨_, rfl⟩⟩
  split
  · exact ⟨kept, Grown.refl buffer, fun _ raised => by cases raised; exact ⟨_, rfl⟩⟩
  · exact drain_kept kept clock _

end Queue

section Chunks

variable {buffer : PacketBuffer} {now : ℚ}

/-- Feed one chunk after the other, at one clock value, until a feed raises. -/
def PacketBuffer.feedAll (buffer : PacketBuffer) (now : ℚ) :
    List (List UInt8) → Except Fault PacketBuffer
  | [] => .ok buffer
  | data :: rest =>
    match buffer.feed (fun _ => now) data with
    | (fed, .ok ()) => fed.feedAll now rest
    | (_, .error fault) => .error fault

theorem accept_pending (held : List UInt8) (packet : Packet) :
    PacketBuffer.accept { buffer with pending := held } now packet =
      (buffer.accept now packet).map fun after => { after with pending := held } := by
  rw [PacketBuffer.accept, PacketBuffer.accept]
  cases buffer.tables.update packet <;> rfl

/-- What a drain does is not changed by the bytes that the buffer held back before. -/
theorem drain_pending (clock : Nat → ℚ) (held bytes : List UInt8) :
    PacketBuffer.drain { buffer with pending := held } clock bytes = buffer.drain clock bytes := by
  induction size : bytes.length using Nat.strong_induction_on
    generalizing buffer clock held bytes with
  | h size inductionHypothesis =>
    by_cases long : 188 ≤ bytes.length
    · rw [PacketBuffer.drain, dif_pos long, PacketBuffer.drain, dif_pos long]
      dsimp only
      rw [accept_pending]
      split
      · rfl
      · cases buffer.accept (clock 0) ⟨bytes.take 188, List.length_take_of_le long⟩ with
        | error fault => rfl
        | ok accepted =>
          exact inductionHypothesis (bytes.drop 188).length (by rw [List.length_drop]; omega)
            _ held _ rfl
    · rw [PacketBuffer.drain_of_lt (by omega), PacketBuffer.drain_of_lt (by omega)]

/-- Bytes that were fed before others can be fed together with them. -/
theorem drain_append {after : PacketBuffer} {first : List UInt8} (later : List UInt8)
    (drained : buffer.drain (fun _ => now) first = (after, .ok ())) :
    buffer.drain (fun _ => now) (first ++ later) =
      after.drain (fun _ => now) (after.pending ++ later) := by
  induction size : first.length using Nat.strong_induction_on generalizing buffer first with
  | h size inductionHypothesis =>
    by_cases long : 188 ≤ first.length
    · have longer : 188 ≤ (first ++ later).length := by rw [List.length_append]; omega
      have same : (⟨(first ++ later).take 188, List.length_take_of_le longer⟩ : Packet) =
          ⟨first.take 188, List.length_take_of_le long⟩ := by
        simp only [Packet.mk.injEq]
        exact List.take_append_of_le_length long
      rw [PacketBuffer.drain, dif_pos long] at drained
      rw [PacketBuffer.drain, dif_pos longer]
      dsimp only at drained ⊢
      rw [same]
      split at drained
      · cases drained
      rename_i aligned
      rw [if_neg aligned]
      cases taken : buffer.accept now ⟨first.take 188, List.length_take_of_le long⟩ with
      | error fault =>
        rw [taken] at drained
        cases drained
      | ok accepted =>
        rw [taken] at drained
        dsimp only at drained ⊢
        rw [List.drop_append_of_le_length long]
        exact inductionHypothesis (first.drop 188).length (by rw [List.length_drop]; omega)
          drained rfl
    · rw [PacketBuffer.drain_of_lt (by omega)] at drained
      cases drained
      exact (drain_pending _ first _).symm

/-- A drain that succeeds leaves the buffer open and less than a packet behind. -/
theorem drain_ok {after : PacketBuffer} {clock : Nat → ℚ} {bytes : List UInt8}
    (kept : buffer.Kept) (drained : buffer.drain clock bytes = (after, .ok ()))
    (opened : buffer.closed = false) : after.closed = false ∧ after.pending.length < 188 := by
  have keptAfter : after.Kept := by
    have result := (drain_kept kept clock bytes).1
    rwa [drained] at result
  have stays : after.closed = false := by
    clear keptAfter
    induction size : bytes.length using Nat.strong_induction_on generalizing buffer clock bytes with
    | h size inductionHypothesis =>
      by_cases long : 188 ≤ bytes.length
      · rw [PacketBuffer.drain, dif_pos long] at drained
        dsimp only at drained
        split at drained
        · cases drained
        obtain ⟨accepted, taken, keptNow, -⟩ :=
          accept_kept kept (clock 0) ⟨bytes.take 188, List.length_take_of_le long⟩
        have same : accepted.closed = buffer.closed := by
          simp only [PacketBuffer.accept, bind_eq_ok, pure_eq_ok] at taken
          obtain ⟨tables, -, rfl⟩ := taken
          rfl
        rw [taken] at drained
        exact inductionHypothesis (bytes.drop 188).length (by rw [List.length_drop]; omega) keptNow
          drained (same.trans opened) rfl
      · rw [PacketBuffer.drain_of_lt (by omega)] at drained
        cases drained
        exact opened
  exact ⟨stays, keptAfter.short stays⟩

/-- Feeding chunks is one drain of the bytes held back and all of theirs. -/
theorem feedAll_eq_drain {after : PacketBuffer} (kept : buffer.Kept)
    (opened : buffer.closed = false) {chunks : List (List UInt8)}
    (fed : buffer.feedAll now chunks = .ok after) :
    buffer.drain (fun _ => now) (buffer.pending ++ chunks.flatten) = (after, .ok ()) := by
  induction chunks generalizing buffer with
  | nil =>
    rw [PacketBuffer.feedAll] at fed
    cases fed
    rw [List.flatten_nil, List.append_nil, PacketBuffer.drain_of_lt (kept.short opened)]
  | cons data rest inductionHypothesis =>
    rw [PacketBuffer.feedAll] at fed
    cases step : buffer.feed (fun _ => now) data with
    | mk next result =>
      rw [step] at fed
      cases result with
      | error fault => cases fed
      | ok value =>
        rw [PacketBuffer.feed, if_neg (by intro large; simp [large] at step),
          if_neg (by simp [opened])] at step
        have keptNext : next.Kept := by
          have result := (drain_kept kept (fun _ => now) (buffer.pending ++ data)).1
          rwa [step] at result
        rw [List.flatten_cons, ← List.append_assoc, drain_append _ step]
        exact inductionHypothesis keptNext (drain_ok kept step opened).1 fed

/-- However the same bytes are cut, feeds that succeed at one clock value leave the same buffer. -/
theorem feedAll_unique (kept : buffer.Kept) {first second : List (List UInt8)}
    {left right : PacketBuffer} (same : first.flatten = second.flatten)
    (fedFirst : buffer.feedAll now first = .ok left)
    (fedSecond : buffer.feedAll now second = .ok right) : left = right := by
  cases opened : buffer.closed with
  | false =>
    have drainedFirst := feedAll_eq_drain kept opened fedFirst
    have drainedSecond := feedAll_eq_drain kept opened fedSecond
    rw [same, drainedSecond] at drainedFirst
    cases drainedFirst
    rfl
  | true =>
    -- a closed buffer takes no chunk at all
    have untouched : ∀ {chunks : List (List UInt8)} {after : PacketBuffer},
        buffer.feedAll now chunks = .ok after → after = buffer := by
      intro chunks after fed
      cases chunks with
      | nil =>
        cases fed
        rfl
      | cons data rest =>
        rw [PacketBuffer.feedAll, PacketBuffer.feed, opened] at fed
        split at fed
        · rename_i step
          split at step <;> cases step
        · cases fed
    rw [untouched fedFirst, untouched fedSecond]

end Chunks

end LiveStream.Delivery

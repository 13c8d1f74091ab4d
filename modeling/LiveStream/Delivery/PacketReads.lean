import LiveStream.Delivery.PacketFeeds

/-! Feeds and the reads of one sender, in any order: the stream that comes out has no gaps between
restarts, and a restart begins with the tables and a keyframe. -/

namespace LiveStream.Delivery

open LiveStream.Support

section Law

/-- The buffer, how often the clock was read, the cursor of the reader, and the number of the last
packet that it was given. -/
structure Pipe where
  buffer : PacketBuffer
  readings : Nat := 0
  cursor : Option Nat := none
  last : Option Nat := none

inductive Access where
  | feed (data : List UInt8)
  | read (maximumPackets : Int)

inductive Outcome where
  | fed (result : Except Fault Unit)
  | returned (result : Except Fault Answer)

/-- One call. A reader whose read raises keeps its cursor. -/
def Pipe.step (clock : Nat → ℚ) (pipe : Pipe) : Access → Pipe × Outcome
  | .feed data =>
    let fed := pipe.buffer.feed (fun index => clock (pipe.readings + index)) data
    ({ pipe with
        buffer := fed.1
        readings := pipe.readings + (fed.1.sequence - pipe.buffer.sequence) }, .fed fed.2)
  | .read maximumPackets =>
    let taken := pipe.buffer.read (clock pipe.readings) pipe.cursor maximumPackets
    match taken.2 with
    | .ok answer =>
      ({ buffer := taken.1
         readings := pipe.readings + 1
         cursor := answer.cursor
         last := answer.rows.getLast?.map Queued.sequence <|> pipe.last }, .returned (.ok answer))
    | .error fault =>
      ({ pipe with buffer := taken.1, readings := pipe.readings + 1 }, .returned (.error fault))

/-- What an answer of the buffer is, given the number of the last packet before it. -/
structure Answer.Lawful (buffer : PacketBuffer) (last : Option Nat) (answer : Answer) : Prop where
  consecutive : Numbered Queued.sequence answer.rows
  increasing : ∀ row ∈ answer.rows.head?, ∀ previous ∈ last, previous < row.sequence
  gapFree : answer.reset = false → answer.header = [] ∧
    ∀ row ∈ answer.rows.head?, ∃ previous ∈ last, row.sequence = previous + 1
  resync : answer.reset = true → answer.data ≠ [] → ∃ pat pmt row rest pmtPid,
    answer.header = [pat, pmt] ∧ answer.rows = row :: rest ∧
      buffer.tables.headers 0 = some pat ∧ pat.Starts 0 0 ∧
      buffer.tables.pmtPid = some pmtPid ∧ buffer.tables.headers pmtPid = some pmt ∧
      pmt.Starts pmtPid 2 ∧ buffer.tables.videoPid = some row.packet.pid ∧
      row.packet.randomAccess = true

/-- What a call raises and returns, and what it leaves in the buffer. -/
structure Lawful (taken : Taken Pipe Access Outcome) : Prop where
  fed : ∀ result, taken.output = .fed result → OnlyBlocked result
  returned : ∀ result, taken.output = .returned result → OnlyBlocked result
  answer : ∀ answer, taken.output = .returned (.ok answer) →
    answer.Lawful taken.after.buffer taken.before.last
  bounded : taken.after.buffer.packets.length ≤ taken.after.buffer.policy.maximumBytes / 188

/-- Where a reader can start over, the PMT has another pid than the PAT, the newest keyframe in the
queue is one of the video pid of now, and the read asks for at least that packet. -/
def PacketBuffer.Resyncs (buffer : PacketBuffer) (maximumPackets : Int) : Prop :=
  ∀ place ∈ buffer.restart?,
    buffer.tables.pmtPid ≠ some 0 ∧ buffer.tables.videoPid = some place.1.packet.pid ∧
      slice maximumPackets (buffer.packets.filter (place.1.sequence - 1 < ·.sequence)) ≠ []

/-- The condition on a read that is not blocked and has to start over. -/
def Resyncs (clock : Nat → ℚ) (pipe : Pipe) : Access → Prop
  | .feed _ => True
  | .read maximumPackets =>
    let pruned := pipe.buffer.prune (clock pipe.readings)
    pruned.blocked? (clock pipe.readings) = none → pruned.lost pipe.cursor = true →
      pruned.Resyncs maximumPackets

instance (buffer : PacketBuffer) (maximumPackets : Int) :
    Decidable (buffer.Resyncs maximumPackets) :=
  inferInstanceAs (Decidable (∀ place ∈ buffer.restart?, _ ∧ _ ∧ _))

instance (clock : Nat → ℚ) (pipe : Pipe) : (access : Access) → Decidable (Resyncs clock pipe access)
  | .feed _ => .isTrue trivial
  | .read maximumPackets => inferInstanceAs (Decidable (
      (pipe.buffer.prune (clock pipe.readings)).blocked? (clock pipe.readings) = none →
        (pipe.buffer.prune (clock pipe.readings)).lost pipe.cursor = true →
          (pipe.buffer.prune (clock pipe.readings)).Resyncs maximumPackets))

end Law

section Reads

variable {buffer : PacketBuffer}

theorem slice_eq_take {α : Type} (maximum : Int) (rows : List α) :
    ∃ count, slice maximum rows = rows.take count := by
  rw [slice]
  split
  · exact ⟨_, rfl⟩
  · exact ⟨_, rfl⟩

theorem head?_take {α : Type} {rows : List α} {count : Nat} {row : α}
    (found : (rows.take count).head? = some row) : rows.head? = some row := by
  cases rows with
  | nil => simp at found
  | cons head rest =>
    cases count with
    | zero => simp at found
    | succ count => simpa using found

/-- The rows of a delivery are numbered, and it starts where all rows behind the cursor start. -/
theorem deliver_rows (kept : buffer.Kept) (maximumPackets : Int) (header : List Packet)
    (cursor : Nat) (reset : Bool) :
    Numbered Queued.sequence (buffer.deliver maximumPackets header cursor reset).rows ∧
      ∀ row ∈ (buffer.deliver maximumPackets header cursor reset).rows.head?,
        (buffer.packets.filter (cursor < ·.sequence)).head? = some row := by
  obtain ⟨count, shape⟩ :=
    slice_eq_take maximumPackets (buffer.packets.filter (cursor < ·.sequence))
  rw [PacketBuffer.deliver, shape]
  split
  · exact ⟨(kept.numbered.filter_above cursor).take count, fun row found => head?_take found⟩
  · exact ⟨List.isChain_nil, fun row found => by cases found⟩

/-- After a delivery the reader stands at its last row, or where it stood. -/
theorem deliver_cursor (buffer : PacketBuffer) (maximumPackets : Int) (header : List Packet)
    (cursor : Nat) (reset : Bool) :
    ∃ place, (buffer.deliver maximumPackets header cursor reset).cursor = some place ∧
      ((buffer.deliver maximumPackets header cursor reset).rows.getLast?.map Queued.sequence =
          some place ∨
        (slice maximumPackets (buffer.packets.filter (cursor < ·.sequence)) = [] ∧
          (buffer.deliver maximumPackets header cursor reset).rows = [] ∧ place = cursor)) := by
  rw [PacketBuffer.deliver]
  cases found : (slice maximumPackets (buffer.packets.filter (cursor < ·.sequence))).getLast? with
  | some last => exact ⟨last.sequence, rfl, .inl (by simp [found])⟩
  | none => exact ⟨cursor, rfl, .inr ⟨List.getLast?_eq_none_iff.mp found, rfl, rfl⟩⟩

@[simp] theorem deliver_reset (maximumPackets : Int) (header : List Packet) (cursor : Nat)
    (reset : Bool) : (buffer.deliver maximumPackets header cursor reset).reset = reset := by
  rw [PacketBuffer.deliver]
  split <;> rfl

theorem deliver_header (buffer : PacketBuffer) (maximumPackets : Int) (header : List Packet)
    (cursor : Nat) (reset : Bool) :
    (buffer.deliver maximumPackets header cursor reset).header = [] ∧
        (buffer.deliver maximumPackets header cursor reset).rows = [] ∨
      (buffer.deliver maximumPackets header cursor reset).header = header ∧
        ∃ row rest, (buffer.deliver maximumPackets header cursor reset).rows = row :: rest := by
  rw [PacketBuffer.deliver]
  cases rows : slice maximumPackets (buffer.packets.filter (cursor < ·.sequence)) with
  | nil => exact .inl ⟨rfl, rfl⟩
  | cons row rest =>
    cases last : (row :: rest).getLast? with
    | none => simp at last
    | some found => exact .inr ⟨rfl, row, rest, rfl⟩

/-- Where a reader can start over there is a queued keyframe and the PMT of the current pid. -/
theorem restart_some {keyframe : Queued} {pmt : Packet}
    (found : buffer.restart? = some (keyframe, pmt)) :
    keyframe ∈ buffer.packets ∧ keyframe.keyframe = true ∧
      ∃ pmtPid, buffer.tables.pmtPid = some pmtPid ∧ buffer.tables.headers pmtPid = some pmt := by
  rw [PacketBuffer.restart?] at found
  split at found
  · rename_i newest stored _ newestFound storedFound _
    cases found
    have member := List.mem_of_getLast? newestFound
    rw [List.mem_filter] at member
    exact ⟨member.1, member.2, Option.bind_eq_some_iff.mp storedFound⟩
  · cases found

/-- How the reader stands: at the last packet that it was given, or before all that are left. -/
structure Placed (buffer : PacketBuffer) (cursor last : Option Nat) : Prop where
  at_last : ∀ place ∈ cursor, last = some place
  behind : cursor = none → ∀ previous ∈ last, previous ≤ buffer.sequence ∧
    ∀ queued ∈ buffer.packets, previous < queued.sequence

theorem Placed.grown {after : PacketBuffer} {cursor last : Option Nat}
    (placed : Placed buffer cursor last) (grown : Grown buffer after) :
    Placed after cursor last := by
  refine ⟨placed.at_last, fun none previous member => ?_⟩
  obtain ⟨low, before⟩ := placed.behind none previous member
  refine ⟨low.trans grown.sequence, fun queued there => ?_⟩
  rcases grown.packets queued there with old | new
  · exact before queued old
  · exact low.trans_lt new

/-- Numbers in the queue are at least the first one. -/
theorem first_le {first queued : Queued} {rest : List Queued}
    (numbered : Numbered Queued.sequence (first :: rest)) (member : queued ∈ first :: rest) :
    first.sequence ≤ queued.sequence := by
  rcases List.mem_cons.mp member with rfl | later
  · exact le_rfl
  · have sorted : List.Pairwise (fun left right => left.sequence < right.sequence)
        (first :: rest) :=
      List.isChain_iff_pairwise.mp (List.IsChain.imp (fun _ _ next => by omega) numbered)
    exact ((List.pairwise_cons.mp sorted).1 queued later).le

/-- A reader whose packets are gone stands before all that are left. -/
theorem before_of_lost (kept : buffer.Kept) {cursor last : Option Nat}
    (placed : Placed buffer cursor last) (lost : buffer.lost cursor = true) :
    ∀ previous ∈ last, previous ≤ buffer.sequence ∧
      ∀ queued ∈ buffer.packets, previous < queued.sequence := by
  cases cursor with
  | none => exact placed.behind rfl
  | some place =>
    intro previous member
    rw [placed.at_last place rfl] at member
    cases member
    cases queue : buffer.packets with
    | nil => simp [PacketBuffer.lost, queue] at lost
    | cons first rest =>
      simp only [PacketBuffer.lost, queue, decide_eq_true_eq] at lost
      have numbered := kept.numbered
      rw [queue] at numbered
      have every : ∀ queued ∈ first :: rest, place < queued.sequence := fun queued there => by
        have := first_le numbered there
        omega
      obtain ⟨newest, found⟩ : ∃ newest, buffer.packets.getLast? = some newest :=
        ⟨_, List.getLast?_eq_some_getLast (by simp [queue])⟩
      refine ⟨?_, every⟩
      rw [← kept.newest newest found]
      exact (every newest (queue ▸ List.mem_of_getLast? found)).le

/-- An answer without rows that leaves the reader where it may stand. -/
theorem empty_lawful {cursor last : Option Nat} (placed : Placed buffer cursor last)
    (reset : Bool) : Answer.Lawful buffer last { cursor, reset } ∧
      Placed buffer cursor (none <|> last) := by
  refine ⟨⟨List.isChain_nil, ?_, ?_, ?_⟩, placed⟩
  · exact fun row found => by cases found
  · exact fun _ => ⟨rfl, fun row found => by cases found⟩
  · exact fun _ data => absurd rfl data

/-- A reader that starts over is given the tables and then the newest keyframe. -/
theorem restart_lawful (kept : buffer.Kept) {last : Option Nat} {keyframe : Queued} {pat pmt : Packet}
    (found : buffer.restart? = some (keyframe, pmt)) (stored : buffer.tables.headers 0 = some pat)
    (before : ∀ previous ∈ last, previous < keyframe.sequence) (apart : buffer.tables.pmtPid ≠ some 0)
    (current : buffer.tables.videoPid = some keyframe.packet.pid) {maximumPackets : Int}
    (asked : slice maximumPackets
      (buffer.packets.filter (keyframe.sequence - 1 < ·.sequence)) ≠ []) :
    (buffer.deliver maximumPackets [pat, pmt] (keyframe.sequence - 1) true).Lawful buffer last := by
  obtain ⟨member, flagged, pmtPid, named, storedPmt⟩ := restart_some found
  obtain ⟨numbered, heads⟩ := deliver_rows kept maximumPackets [pat, pmt] (keyframe.sequence - 1) true
  have starts : ∀ row ∈ (buffer.deliver maximumPackets [pat, pmt] (keyframe.sequence - 1)
      true).rows.head?, row = keyframe := by
    intro row head
    have first := heads row head
    rw [kept.numbered.filter_above_pred member (kept.positive keyframe member)] at first
    exact (Option.some.inj first).symm
  refine ⟨numbered, ?_, fun plain => by simp at plain, fun _ _ => ?_⟩
  · intro row head previous earlier
    rw [starts row head]
    exact before previous earlier
  · rcases deliver_header buffer maximumPackets [pat, pmt] (keyframe.sequence - 1) true with
      ⟨-, empty⟩ | ⟨header, row, rest, rows⟩
    · obtain ⟨_, -, some | ⟨none, -, -⟩⟩ :=
        deliver_cursor buffer maximumPackets [pat, pmt] (keyframe.sequence - 1) true
      · rw [empty] at some
        cases some
      · exact absurd none asked
    · have same : row = keyframe := starts row (by rw [rows]; rfl)
      have other : pmtPid ≠ 0 := fun zero => apart (by rw [named, zero])
      refine ⟨pat, pmt, row, rest, pmtPid, header, rows, stored, ?_, named, storedPmt, ?_, ?_, ?_⟩
      · exact kept.tables.pat apart pat stored
      · exact kept.tables.pmt pmtPid pmt other storedPmt
      · rw [same, current]
      · rw [same]
        exact kept.flagged keyframe member flagged

/-- For a read that is given rows, the condition on restarts is exact. -/
theorem restart_lawful_iff (kept : buffer.Kept) {last : Option Nat} {keyframe : Queued}
    {pat pmt : Packet} (found : buffer.restart? = some (keyframe, pmt))
    (stored : buffer.tables.headers 0 = some pat)
    (before : ∀ previous ∈ last, previous < keyframe.sequence) {maximumPackets : Int}
    (asked : slice maximumPackets
      (buffer.packets.filter (keyframe.sequence - 1 < ·.sequence)) ≠ []) :
    (buffer.deliver maximumPackets [pat, pmt] (keyframe.sequence - 1) true).Lawful buffer last ↔
      buffer.tables.pmtPid ≠ some 0 ∧ buffer.tables.videoPid = some keyframe.packet.pid := by
  constructor
  · intro lawful
    rcases deliver_header buffer maximumPackets [pat, pmt] (keyframe.sequence - 1) true with
      ⟨-, empty⟩ | ⟨header, row, rest, rows⟩
    · obtain ⟨_, -, delivered | ⟨none, -, -⟩⟩ :=
        deliver_cursor buffer maximumPackets [pat, pmt] (keyframe.sequence - 1) true
      · rw [empty] at delivered
        cases delivered
      · exact absurd none asked
    · have data : (buffer.deliver maximumPackets [pat, pmt] (keyframe.sequence - 1) true).data ≠ [] := by
        intro nothing
        have size := congrArg List.length nothing
        simp [Answer.data, rows, row.packet.size] at size
      obtain ⟨first, second, _, _, pmtPid, -, same, there, patStarts, named, storedPmt, pmtStarts,
        current, -⟩ := lawful.resync (by simp) data
      constructor
      · intro zero
        rw [zero] at named
        cases named
        rw [there] at storedPmt
        cases storedPmt
        obtain ⟨-, table, start, -, read⟩ := patStarts
        obtain ⟨-, other, again, -, readAgain⟩ := pmtStarts
        rw [start] at again
        cases again
        rw [read] at readAgain
        cases readAgain
      · rw [rows] at same
        cases same
        obtain ⟨member, -, -⟩ := restart_some found
        have head := (deliver_rows kept maximumPackets [pat, pmt] (keyframe.sequence - 1) true).2
          row (by rw [rows]; rfl)
        rw [kept.numbered.filter_above_pred member (kept.positive keyframe member)] at head
        cases head
        exact current
  · rintro ⟨apart, current⟩
    exact restart_lawful kept found stored before apart current asked

/-- A reader that has lost nothing is given what follows its cursor. -/
theorem continue_lawful (kept : buffer.Kept) {place : Nat} {first : Queued} {rest : List Queued}
    (queue : buffer.packets = first :: rest) (near : first.sequence ≤ place + 1)
    (maximumPackets : Int) :
    (buffer.deliver maximumPackets [] place false).Lawful buffer (some place) := by
  obtain ⟨numbered, heads⟩ := deliver_rows kept maximumPackets [] place false
  have follows : ∀ row ∈ (buffer.deliver maximumPackets [] place false).rows.head?,
      row.sequence = place + 1 := by
    intro row head
    have found := heads row head
    have whole := kept.numbered
    rw [queue] at found whole
    exact whole.head_filter_above near found
  refine ⟨numbered, ?_, fun _ => ⟨?_, ?_⟩, fun reset => by simp at reset⟩
  · intro row head previous earlier
    cases earlier
    have := follows row head
    omega
  · rcases deliver_header buffer maximumPackets [] place false with
      ⟨header, -⟩ | ⟨header, -⟩
    · exact header
    · exact header
  · exact fun row head => ⟨place, rfl, follows row head⟩

/-- Every delivery leaves the reader at its last row. -/
theorem deliver_placed {last : Option Nat} (maximumPackets : Int) (header : List Packet)
    (cursor : Nat) (reset : Bool)
    (stays : slice maximumPackets (buffer.packets.filter (cursor < ·.sequence)) = [] →
      last = some cursor) :
    Placed buffer (buffer.deliver maximumPackets header cursor reset).cursor
      ((buffer.deliver maximumPackets header cursor reset).rows.getLast?.map Queued.sequence <|>
        last) := by
  obtain ⟨place, stands, delivered | ⟨none, rows, same⟩⟩ :=
    deliver_cursor buffer maximumPackets header cursor reset
  · rw [stands, delivered]
    exact ⟨(fun _ member => by cases member; rfl), (fun none => by cases none)⟩
  · rw [stands, rows, same, stays none]
    exact ⟨(fun _ member => by cases member; rfl), (fun none => by cases none)⟩

/-- What a read selects is lawful and leaves the reader well placed. -/
theorem select_lawful (kept : buffer.Kept) {cursor last : Option Nat}
    (placed : Placed buffer cursor last) (maximumPackets : Int)
    (resyncs : buffer.lost cursor = true → buffer.Resyncs maximumPackets) :
    ∃ answer, buffer.select cursor maximumPackets = .ok answer ∧ answer.Lawful buffer last ∧
      Placed buffer answer.cursor (answer.rows.getLast?.map Queued.sequence <|> last) := by
  unfold PacketBuffer.select
  by_cases lost : buffer.lost cursor = true
  · rw [if_pos lost]
    have before := before_of_lost kept placed lost
    cases found : buffer.restart? with
    | none =>
      have waiting : Placed buffer none last := ⟨(fun _ member => by cases member), fun _ => before⟩
      exact ⟨_, rfl, empty_lawful waiting false⟩
    | some restart =>
      obtain ⟨keyframe, pmt⟩ := restart
      obtain ⟨member, -, pmtPid, named, -⟩ := restart_some found
      obtain ⟨pat, stored⟩ := kept.tables.stored (by simp [named])
      obtain ⟨apart, current, asked⟩ := resyncs lost (keyframe, pmt) found
      simp only [stored]
      refine ⟨_, rfl, restart_lawful kept found stored (fun previous earlier => ?_) apart current
        asked, deliver_placed _ _ _ _ fun none => absurd none asked⟩
      exact (before previous earlier).2 keyframe member
  · rw [if_neg lost]
    cases cursor with
    | none => exact ⟨_, rfl, empty_lawful placed false⟩
    | some place =>
      cases queue : buffer.packets with
      | nil => exact ⟨_, rfl, empty_lawful placed false⟩
      | cons first rest =>
        simp only [reduceCtorEq, if_false]
        have near : first.sequence ≤ place + 1 := by
          simp only [PacketBuffer.lost, queue, decide_eq_true_eq] at lost
          omega
        rw [placed.at_last place rfl]
        exact ⟨_, rfl, continue_lawful kept queue near maximumPackets,
          deliver_placed _ _ _ _ fun _ => rfl⟩

end Reads

section Runs

/-- What holds between calls: of the buffer and of the reader. -/
structure Pipe.Kept (pipe : Pipe) : Prop where
  buffer : pipe.buffer.Kept
  placed : Placed pipe.buffer pipe.cursor pipe.last

variable {clock : Nat → ℚ} {pipe : Pipe}

theorem step_kept (kept : pipe.Kept) (access : Access) (resyncs : Resyncs clock pipe access) :
    (pipe.step clock access).1.Kept ∧ Lawful (take (Pipe.step clock) pipe access) := by
  cases access with
  | feed data =>
    obtain ⟨keptAfter, grown, blocked⟩ :=
      feed_kept kept.buffer (fun index => clock (pipe.readings + index)) data
    refine ⟨⟨keptAfter, kept.placed.grown grown⟩, ⟨?_, ?_, ?_, keptAfter.bounded⟩⟩
    · intro result returned
      cases returned
      exact blocked
    · exact fun result returned => by cases returned
    · exact fun answer returned => by cases returned
  | read maximumPackets =>
    have keptPruned := kept_prune kept.buffer (clock pipe.readings)
    have placed := kept.placed.grown (grown_prune pipe.buffer (clock pipe.readings))
    simp only [take, Pipe.step, PacketBuffer.read]
    cases refused : (pipe.buffer.prune (clock pipe.readings)).blocked? (clock pipe.readings) with
    | some text =>
      refine ⟨⟨keptPruned, placed⟩, ⟨?_, ?_, ?_, keptPruned.bounded⟩⟩
      · exact fun result returned => by cases returned
      · intro result returned
        cases returned
        exact fun fault raised => by cases raised; exact ⟨text, rfl⟩
      · exact fun answer returned => by cases returned
    | none =>
      obtain ⟨answer, selected, lawful, placedAfter⟩ :=
        select_lawful keptPruned placed maximumPackets (resyncs refused)
      simp only [selected]
      refine ⟨⟨keptPruned, placedAfter⟩, ⟨?_, ?_, ?_, keptPruned.bounded⟩⟩
      · exact fun result returned => by cases returned
      · intro result returned
        cases returned
        exact fun fault raised => by cases raised
      · intro other returned
        cases returned
        exact lawful

theorem fresh_kept (policy : BufferPolicy) : Pipe.Kept { buffer := { policy } } where
  buffer := {
    tables := ⟨fun named => absurd rfl named, (fun _ _ found => by cases found),
      (fun _ _ _ found => by cases found)⟩
    numbered := List.isChain_nil
    newest := fun _ found => by cases found
    positive := fun _ member => by cases member
    flagged := fun _ member => by cases member
    bounded := Nat.zero_le _
    short := fun _ => Nat.zero_lt_succ _ }
  placed := ⟨(fun _ member => by cases member), (fun _ _ member => by cases member)⟩

/-- In any order of feeds and reads whose restarts are in step with the tables, calls raise nothing
but `DeliveryBlocked`, what the reader is given has no gaps but at restarts, a restart begins with
the tables and a keyframe, the buffer is bounded, and how bytes are cut makes no difference. -/
theorem packet_stream (policy : BufferPolicy) (clock : Nat → ℚ) (accesses : List Access)
    (resyncs : Guarded (Pipe.step clock) (Resyncs clock) { buffer := { policy } } accesses) :
    (∀ taken ∈ trace (Pipe.step clock) { buffer := { policy } } accesses, Lawful taken) ∧
      ∀ (now : ℚ) (first second : List (List UInt8)) (left right : PacketBuffer),
        first.flatten = second.flatten →
        (final (Pipe.step clock) { buffer := { policy } } accesses).buffer.feedAll now first =
          .ok left →
        (final (Pipe.step clock) { buffer := { policy } } accesses).buffer.feedAll now second =
          .ok right →
        left = right := by
  constructor
  · intro taken member
    obtain ⟨kept, shape⟩ := trace_invariant Pipe.Kept
      (fun pipe access kept resyncs => (step_kept kept access resyncs).1) (fresh_kept policy)
      resyncs taken member
    rw [shape]
    exact (step_kept kept taken.event (resyncs taken member)).2
  · intro now first second left right same fedFirst fedSecond
    have kept := final_invariant Pipe.Kept
      (fun pipe access kept resyncs => (step_kept kept access resyncs).1) (fresh_kept policy) resyncs
    exact feedAll_unique kept.buffer same fedFirst fedSecond

/-- A packet with a header, filled up. -/
def filled (head : List UInt8) : Packet :=
  ⟨(head ++ List.replicate 188 0xff).take 188, List.length_take_of_le (by
    rw [List.length_append, List.length_replicate]
    exact Nat.le_add_left ..)⟩

/-- Program 1 has its PMT on pid 0x1000. -/
def programTable : Packet :=
  filled [0x47, 0x40, 0, 0x10, 0, 0, 0xb0, 0x0d, 0, 1, 0xc1, 0, 0, 0, 1, 0xf0, 0, 0, 0, 0, 0]

/-- The PMT with video on a pid below 0x1000. -/
def videoTable (high : UInt8) : Packet :=
  filled [0x47, 0x50, 0, 0x10, 0, 2, 0xb0, 0x12, 0, 1, 0xc1, 0, 0, 0xe1, 0, 0xf0, 0,
    0x1b, 0xe0 ||| high, 0, 0xf0, 0, 0, 0, 0, 0]

/-- A keyframe on pid 0x100. -/
def keyframePacket : Packet := filled [0x47, 0x41, 0, 0x30, 1, 0x40, 0, 0, 1, 0xe0]

/-- Reads before, at and after the first keyframe behind the tables. -/
def keyframeAccesses : List Access :=
  [.feed keyframePacket.bytes, .read 128, .feed (programTable.bytes ++ (videoTable 1).bytes),
    .feed keyframePacket.bytes, .read 128, .feed keyframePacket.bytes, .read 128]

/-- A reader waits for the tables and the keyframe, and goes on behind them. -/
theorem packet_stream_of_keyframe :
    Guarded (Pipe.step fun _ => 10) (Resyncs fun _ => 10) { buffer := { policy := {} } }
        keyframeAccesses ∧
      ∀ taken ∈ trace (Pipe.step fun _ => 10) { buffer := { policy := {} } } keyframeAccesses,
        Lawful taken :=
  ⟨by decide +kernel, (packet_stream {} (fun _ => 10) keyframeAccesses (by decide +kernel)).1⟩

/-- A read that starts over on a packet of a pid that is not the video pid. -/
def Strays (taken : Taken Pipe Access Outcome) : Bool :=
  match taken.output with
  | .returned (.ok answer) =>
    answer.reset && !answer.data.isEmpty &&
      taken.after.buffer.tables.videoPid ≠ answer.rows.head?.map (·.packet.pid)
  | .returned (.error _) | .fed _ => false

theorem Lawful.not_strays {taken : Taken Pipe Access Outcome} (lawful : Lawful taken) :
    Strays taken = false := by
  obtain ⟨before, event, output, after⟩ := taken
  cases output with
  | fed result => rfl
  | returned result =>
    cases result with
    | error fault => rfl
    | ok answer =>
      by_contra strays
      simp only [Strays, Bool.not_eq_false, Bool.and_eq_true, Bool.not_eq_true',
        decide_eq_true_eq] at strays
      obtain ⟨⟨reset, data⟩, other⟩ := strays
      obtain ⟨_, _, row, rest, _, -, rows, -, -, -, -, -, current, -⟩ :=
        (lawful.answer answer rfl).resync reset (by simpa using data)
      exact other (by rw [current, rows]; rfl)

/-- The PMT moves the video from pid 0x100 to 0x200 while a keyframe of pid 0x100 is queued: the
reader is given the new PMT and then that keyframe. -/
theorem restart_on_old_stream : ¬ ∀ taken ∈ trace (Pipe.step fun _ => 10) { buffer := { policy := {} } }
    [.feed (programTable.bytes ++ (videoTable 1).bytes ++ keyframePacket.bytes ++
      (videoTable 2).bytes), .read 128], Lawful taken := by
  intro lawful
  have strays : (trace (Pipe.step fun _ => 10) { buffer := { policy := {} } }
      [.feed (programTable.bytes ++ (videoTable 1).bytes ++ keyframePacket.bytes ++
        (videoTable 2).bytes), .read 128]).any Strays = true := by
    decide +kernel
  obtain ⟨taken, member, stray⟩ := List.any_eq_true.mp strays
  rw [(lawful taken member).not_strays] at stray
  cases stray

end Runs

end LiveStream.Delivery
